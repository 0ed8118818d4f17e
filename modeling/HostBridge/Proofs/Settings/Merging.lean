import HostBridge.Proofs.Document.Overlay
import HostBridge.Proofs.Document.Reading
import HostBridge.Settings.Configuration

/-!
# Merging accepted configurations

Two files that are accepted on their own give settings together, with one exception: tables are
merged key by key, and a log format may be written as a table whose only key is the format. If both
files do so with different formats, the merged table names two formats and is rejected.
-/

namespace HostBridge

theorem bind_eq_ok_iff {ε α β : Type} {outcome : Except ε α} {next : α → Except ε β} {result : β} :
    (outcome >>= next) = .ok result ↔ ∃ value, outcome = .ok value ∧ next value = .ok result := by
  cases outcome with
  | error fault => exact ⟨nofun, fun ⟨_, h, _⟩ => nomatch h⟩
  | ok value => exact ⟨fun h => ⟨value, rfl, h⟩, fun ⟨_, h, h'⟩ => Except.ok.inj h ▸ h'⟩

theorem bind_eq_error_iff {ε α β : Type} {outcome : Except ε α} {next : α → Except ε β} {error : ε} :
    (outcome >>= next) = .error error ↔
      outcome = .error error ∨ ∃ value, outcome = .ok value ∧ next value = .error error := by
  cases outcome with
  | error fault =>
      constructor
      · intro h
        cases h
        exact .inl rfl
      · rintro (h | ⟨_, h, _⟩)
        · cases h
          rfl
        · cases h
  | ok value =>
      refine ⟨fun h => .inr ⟨value, rfl, h⟩, ?_⟩
      rintro (h | ⟨_, h, h'⟩)
      · cases h
      · cases h
        exact h'

theorem discard_eq_error_iff {ε α : Type} {outcome : Except ε α} {error : ε} :
    discard outcome = .error error ↔ outcome = .error error := by
  cases outcome with
  | error fault =>
      constructor
      · intro h
        cases h
        rfl
      · intro h
        cases h
        rfl
  | ok value =>
      constructor
      · intro h
        cases h
      · intro h
        cases h

namespace Settings

theorem ofTable_eq_ok_iff {table : Table} {settings : Settings} :
    ofTable table = .ok settings ↔
      readOr readText "warn" (Table.find? table "console_log_level") = .ok settings.consoleLogLevel ∧
      readOr readText "unrealsdk.log" (Table.find? table "log_file") = .ok settings.logFile ∧
      readOr readFormat .compact (Table.find? table "log_format") = .ok settings.logFormat ∧
      readOr readText "info" (Table.find? table "log_level") = .ok settings.logLevel := by
  rw [ofTable]
  simp only [bind_eq_ok_iff]
  constructor
  · rintro ⟨console, hconsole, file, hfile, format, hformat, level, hlevel, h⟩
    cases h
    exact ⟨hconsole, hfile, hformat, hlevel⟩
  · rintro ⟨hconsole, hfile, hformat, hlevel⟩
    exact ⟨_, hconsole, _, hfile, _, hformat, _, hlevel, rfl⟩

theorem table?_of_readText {value : Value} {text : String} (h : readText value = .ok text) :
    value.table? = none := by
  cases value with
  | table => cases h
  | string | integer | float | boolean | datetime | array => rfl

theorem readFormat_table {entries : Table} {format : LogFormat}
    (h : readFormat (.table entries) = .ok format) :
    ∃ name content, entries = [(name, content)] ∧ formatNamed name = .ok format ∧
      (content = .table [] ∨ content = .array []) := by
  match entries with
  | [] => cases h
  | [(name, content)] =>
    obtain ⟨format', hname, hcontent⟩ := bind_eq_ok_iff.mp h
    refine ⟨name, content, rfl, ?_⟩
    split at hcontent
    · cases hcontent
      exact ⟨hname, .inl rfl⟩
    · cases hcontent
      exact ⟨hname, .inr rfl⟩
    · cases hcontent
    · cases hcontent
    · cases hcontent
  | _ :: _ :: _ => cases h

theorem readFormat_single {name : String} {content : Value} {format : LogFormat}
    (hname : formatNamed name = .ok format) (hcontent : content = .table [] ∨ content = .array []) :
    readFormat (.table [(name, content)]) = .ok format := by
  refine bind_eq_ok_iff.mpr ⟨format, hname, ?_⟩
  rcases hcontent with rfl | rfl <;> rfl

/-- Whether reading fails, for two formats are named, exactly if formats clash. -/
def FailsIff {α : Type} (clash : Prop) (outcome : Except ShapeFault α) : Prop :=
  (clash → outcome = .error .formatAmbiguous) ∧ (¬clash → ∃ result, outcome = .ok result)

theorem FailsIff.of_ok {α : Type} {clash : Prop} {outcome : Except ShapeFault α} {result : α}
    (hnot : ¬clash) (h : outcome = .ok result) : FailsIff clash outcome :=
  ⟨fun hclash => absurd hclash hnot, fun _ => ⟨result, h⟩⟩

def Clash (name? : Value → Option String) (old new : Option Value) : Prop :=
  ∃ name name', old.bind name? = some name ∧ new.bind name? = some name' ∧ name ≠ name'

section Replacing

variable {α : Type} {name? : Value → Option String} {read : Value → Except ShapeFault α}
  {absent result : α} {old : Option Value} {value : Value}

theorem failsIff_absent (hold : readOr read absent old = .ok result) :
    FailsIff (Clash name? old none) (readOr read absent (Value.overlay? old none)) := by
  refine .of_ok ?_ hold
  rintro ⟨_, _, _, hname', _⟩
  cases hname'

theorem failsIff_replaced (hoverlay : Value.overlay old value = value)
    (hnone : old.bind name? = none ∨ name? value = none)
    (hnew : readOr read absent (some value) = .ok result) :
    FailsIff (Clash name? old (some value)) (readOr read absent (Value.overlay? old (some value))) := by
  rw [Value.overlay?, hoverlay]
  refine .of_ok ?_ hnew
  rintro ⟨name, name', hname, hname', -⟩
  rcases hnone with hnone | hnone
  · exact nomatch hnone.symm.trans hname
  · exact nomatch hnone.symm.trans hname'

end Replacing

def formatName? : Value → Option String
  | .table [(name, _)] => some name
  | _ => none

theorem readOr_overlay?_text {old new : Option Value} {absent low high : String}
    (hold : readOr readText absent old = .ok low) (hnew : readOr readText absent new = .ok high) :
    ∃ text, readOr readText absent (Value.overlay? old new) = .ok text := by
  cases new with
  | none => exact ⟨low, hold⟩
  | some value =>
      refine ⟨high, ?_⟩
      rw [Value.overlay?, Value.overlay_of_table?_eq_none old (table?_of_readText hnew)]
      exact hnew

theorem overlay_tables (name name' : String) (content content' : Value) :
    Value.overlay (some (.table [(name, content)])) (.table [(name', content')]) =
      .table (Table.insert [(name, content)] name'
        (Value.overlay (Table.find? [(name, content)] name') content')) := by
  rw [Value.overlay, Table.overlay, Table.overlay]

theorem readFormat_overlay_same {name : String} {content content' : Value} {format : LogFormat}
    (hname : formatNamed name = .ok format) (hcontent : content = .table [] ∨ content = .array [])
    (hcontent' : content' = .table [] ∨ content' = .array []) :
    readFormat (.overlay (some (.table [(name, content)])) (.table [(name, content')]))
      = .ok format := by
  have hfind : Table.find? [(name, content)] name = some content := if_pos rfl
  have hinsert (value : Value) : Table.insert [(name, content)] name value = [(name, value)] := by
    rw [Table.insert, if_neg (String.lt_irrefl name), if_pos rfl]
  rw [overlay_tables, hfind, hinsert]
  refine readFormat_single hname ?_
  rcases hcontent' with rfl | rfl
  · rcases hcontent with rfl | rfl
    · exact .inl rfl
    · exact .inl rfl
  · exact .inr (Value.overlay_of_table?_eq_none _ rfl)

theorem readFormat_overlay_ne {name name' : String} (hne : name ≠ name') (content content' : Value) :
    readFormat (.overlay (some (.table [(name, content)])) (.table [(name', content')]))
      = .error .formatAmbiguous := by
  rw [overlay_tables, Table.insert]
  split
  · rfl
  · rw [if_neg hne.symm, Table.insert]
    rfl

/-- Of two formats the second counts, unless both are named by tables that differ in the name. -/
theorem readOr_overlay?_format {old new : Option Value} {absent low high : LogFormat}
    (hold : readOr readFormat absent old = .ok low)
    (hnew : readOr readFormat absent new = .ok high) :
    FailsIff (Clash formatName? old new) (readOr readFormat absent (Value.overlay? old new)) := by
  cases new with
  | none => exact failsIff_absent hold
  | some value =>
  cases value with
  | string | integer | float | boolean | datetime | array =>
      exact failsIff_replaced (Value.overlay_of_table?_eq_none old rfl) (.inr rfl) hnew
  | table entries =>
  -- Only a table over a table is merged; over anything else it stands as it is.
  obtain ⟨name', content', rfl, hformat, hcontent'⟩ := readFormat_table hnew
  cases old with
  | none => exact failsIff_replaced (Value.overlay_none _) (.inl rfl) hnew
  | some oldValue =>
  cases oldValue with
  | string | integer | float | boolean | datetime | array =>
      exact failsIff_replaced (Value.overlay_table rfl _) (.inl rfl) hnew
  | table oldEntries =>
      obtain ⟨name, content, rfl, -, hcontent⟩ := readFormat_table hold
      by_cases heq : name = name'
      · subst heq
        refine .of_ok ?_ (readFormat_overlay_same hformat hcontent hcontent')
        rintro ⟨_, _, hname, hname', hne⟩
        exact hne (Option.some.inj (hname.symm.trans hname'))
      · refine ⟨fun _ => readFormat_overlay_ne heq content content', fun hnot => ?_⟩
        exact absurd ⟨name, name', rfl, rfl, heq⟩ hnot

theorem ofTable_overlay {low high : Table} {lowSettings highSettings : Settings}
    (hsorted : Table.Sorted high) (hlow : ofTable low = .ok lowSettings)
    (hhigh : ofTable high = .ok highSettings) :
    FailsIff (Clash formatName? (Table.find? low "log_format") (Table.find? high "log_format"))
      (ofTable (Table.overlay low high)) := by
  obtain ⟨hconsole, hfile, hformat, hlevel⟩ := ofTable_eq_ok_iff.mp hlow
  obtain ⟨hconsole', hfile', hformat', hlevel'⟩ := ofTable_eq_ok_iff.mp hhigh
  obtain ⟨console, hconsole⟩ := readOr_overlay?_text hconsole hconsole'
  obtain ⟨file, hfile⟩ := readOr_overlay?_text hfile hfile'
  obtain ⟨level, hlevel⟩ := readOr_overlay?_text hlevel hlevel'
  obtain ⟨hfails, hreads⟩ := readOr_overlay?_format hformat hformat'
  simp only [← Table.find?_overlay hsorted] at hconsole hfile hlevel hfails hreads
  refine ⟨fun hclash => ?_, fun hnot => ?_⟩
  · have hformat := hfails hclash
    rw [ofTable]
    simp only [hconsole, hfile, hformat, bind, Except.bind]
  · obtain ⟨format, hformat⟩ := hreads hnot
    exact ⟨⟨file, level, console, format⟩,
      ofTable_eq_ok_iff.mpr ⟨hconsole, hfile, hformat, hlevel⟩⟩

/-- The log format that a value of the settings names by a table with a single key. -/
def sectionFormat? : Value → Option String
  | .table settings => (Table.find? settings "log_format").bind formatName?
  | _ => none

/-- Whether two documents name different log formats, both by a table. -/
def FormatsClash (low high : Table) : Prop :=
  Clash sectionFormat? (Table.find? low documentKey) (Table.find? high documentKey)

theorem ofDocument_overlay {low high : Table} {lowSettings highSettings : Settings}
    (hordered : Table.Ordered high) (hlow : ofDocument low = .ok lowSettings)
    (hhigh : ofDocument high = .ok highSettings) :
    FailsIff (FormatsClash low high) (ofDocument (Table.overlay low high)) := by
  rw [ofDocument, Table.find?_overlay hordered.sorted]
  cases hnew : Table.find? high documentKey with
  | none =>
      rw [FormatsClash, hnew]
      exact failsIff_absent hlow
  | some value =>
  rw [ofDocument, hnew] at hhigh
  rw [FormatsClash, hnew]
  cases value with
  | string | integer | float | boolean | datetime | array =>
      exact failsIff_replaced (Value.overlay_of_table?_eq_none _ rfl) (.inr rfl) hhigh
  | table highEntries =>
  cases hold : Table.find? low documentKey with
  | none => exact failsIff_replaced (Value.overlay_none _) (.inl rfl) hhigh
  | some oldValue =>
  rw [ofDocument, hold] at hlow
  cases oldValue with
  | string | integer | float | boolean | datetime | array =>
      exact failsIff_replaced (Value.overlay_table rfl _) (.inl rfl) hhigh
  | table lowEntries =>
      have hsorted := (Table.ordered_of_table (hordered.find? hnew)).sorted
      exact ofTable_overlay hsorted hlow hhigh

end Settings

namespace Configuration

open Settings

theorem ofDocument_eq_ok_iff {path : String} {document : Table} {configuration : Configuration} :
    ofDocument path document = .ok configuration ↔
      Settings.ofDocument document = .ok configuration.settings ∧
        configuration.document = document := by
  rw [ofDocument]
  cases hsettings : Settings.ofDocument document with
  | error fault => exact ⟨nofun, fun h => nomatch h.1⟩
  | ok settings =>
      constructor
      · intro h
        cases h
        exact ⟨rfl, rfl⟩
      · rintro ⟨h, rfl⟩
        cases h
        rfl

theorem parse_eq_ok_iff {text : String} {configuration : Configuration} :
    parse text = .ok configuration ↔
      Reader.document? text = some configuration.document ∧
        Settings.ofDocument configuration.document = .ok configuration.settings := by
  rw [parse, bind_eq_ok_iff, readDocument]
  cases hdocument : Reader.document? text with
  | none =>
      constructor
      · rintro ⟨_, hread, _⟩
        cases hread
      · rintro ⟨hread, -⟩
        cases hread
  | some document =>
      constructor
      · rintro ⟨document', hread, hconfiguration⟩
        cases hread
        obtain ⟨hsettings, hsame⟩ := ofDocument_eq_ok_iff.mp hconfiguration
        exact ⟨congrArg some hsame.symm, hsame ▸ hsettings⟩
      · rintro ⟨hread, hsettings⟩
        cases hread
        exact ⟨_, rfl, ofDocument_eq_ok_iff.mpr ⟨hsettings, rfl⟩⟩

theorem read_ofText (text : String) : StoredFile.read (.ofText text) = .ok (some text) := by
  have htext : String.fromUTF8? text.toUTF8 = some text := by
    rw [String.fromUTF8?]
    exact dif_pos text.isValidUTF8
  rw [StoredFile.ofText, StoredFile.read, htext]

theorem addFile_of_parse {text : String} {configuration : Configuration}
    (h : parse text = .ok configuration) (document : Table) (path : String) :
    addFile document path (.ofText text) = .ok (Table.overlay document configuration.document) := by
  obtain ⟨hdocument, hsettings⟩ := parse_eq_ok_iff.mp h
  have hread : readDocument path text = .ok configuration.document := by
    rw [readDocument, hdocument]
  have haccepted : ofDocument path configuration.document = .ok configuration :=
    ofDocument_eq_ok_iff.mpr ⟨hsettings, rfl⟩
  have hfile : readFile? path (.ofText text) = .ok (some configuration.document) := by
    refine bind_eq_ok_iff.mpr ⟨some text, read_ofText text, ?_⟩
    refine bind_eq_ok_iff.mpr ⟨configuration.document, hread, ?_⟩
    exact bind_eq_ok_iff.mpr ⟨(), by rw [haccepted]; rfl, rfl⟩
  exact bind_eq_ok_iff.mpr ⟨some configuration.document, hfile, rfl⟩

/-- Two files that are accepted on their own are accepted together unless their log formats clash,
and then the second file is blamed. -/
theorem load_of_parse {base user : String} {low high : Configuration} (hbase : parse base = .ok low)
    (huser : parse user = .ok high) (basePath userPath : String) :
    (FormatsClash low.document high.document →
      load basePath (.ofText base) userPath (.ofText user)
        = .error (.config userPath ShapeFault.formatAmbiguous.message)) ∧
    (¬FormatsClash low.document high.document →
      ∃ configuration, load basePath (.ofText base) userPath (.ofText user) = .ok configuration) := by
  obtain ⟨hlowDocument, hlow⟩ := parse_eq_ok_iff.mp hbase
  obtain ⟨hhighDocument, hhigh⟩ := parse_eq_ok_iff.mp huser
  have hfind := Table.find?_overlay_nil (Reader.document?_ordered hlowDocument).sorted documentKey
  have hload : load basePath (.ofText base) userPath (.ofText user)
      = ofDocument userPath (Table.overlay (Table.overlay [] low.document) high.document) := by
    rw [load, addFile_of_parse hbase]
    simp only [bind, Except.bind, addFile_of_parse huser]
  rw [Settings.ofDocument, ← hfind, ← Settings.ofDocument] at hlow
  obtain ⟨hfails, hreads⟩ := ofDocument_overlay (Reader.document?_ordered hhighDocument) hlow hhigh
  rw [FormatsClash, hfind, ← FormatsClash] at hfails hreads
  rw [hload]
  refine ⟨fun hclash => ?_, fun hnot => ?_⟩
  · rw [ofDocument, hfails hclash]
  · obtain ⟨settings, hsettings⟩ := hreads hnot
    exact ⟨⟨settings, _⟩, ofDocument_eq_ok_iff.mpr ⟨hsettings, rfl⟩⟩

def compactText : String := "[unrealsdk.log_format]\ncompact = \x7b\x7d\n"

def jsonText : String := "[unrealsdk]\nlog_format = \x7bjson = \x7b\x7d\x7d\n"

theorem load_of_clashing_formats :
    ∃ low high, parse compactText = .ok low ∧ parse jsonText = .ok high ∧
      FormatsClash low.document high.document ∧
      load "base.toml" (.ofText compactText) "user.toml" (.ofText jsonText)
        = .error (.config "user.toml" "wanted exactly 1 element, more than 1 element") := by
  have hcompact : (parse compactText).toOption.bind (fun configuration =>
      (Table.find? configuration.document documentKey).bind sectionFormat?) = some "compact" := by
    decide +kernel
  have hjson : (parse jsonText).toOption.bind (fun configuration =>
      (Table.find? configuration.document documentKey).bind sectionFormat?) = some "json" := by
    decide +kernel
  cases hbase : parse compactText with
  | error fault =>
      rw [hbase] at hcompact
      cases hcompact
  | ok low =>
  cases huser : parse jsonText with
  | error fault =>
      rw [huser] at hjson
      cases hjson
  | ok high =>
      rw [hbase] at hcompact
      rw [huser] at hjson
      have hclash : FormatsClash low.document high.document :=
        ⟨"compact", "json", hcompact, hjson, by decide⟩
      exact ⟨low, high, rfl, rfl, hclash,
        (load_of_parse hbase huser "base.toml" "user.toml").1 hclash⟩

/-- Acceptance of both files is not enough for acceptance of the two together. -/
theorem accepted_files_rejected :
    (parse compactText).toBool = true ∧ (parse jsonText).toBool = true ∧
      (load "base.toml" (.ofText compactText) "user.toml" (.ofText jsonText)).toBool = false := by
  decide +kernel

end Configuration

end HostBridge
