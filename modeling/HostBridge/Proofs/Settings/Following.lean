import HostBridge.Proofs.Document.Paths
import HostBridge.Proofs.Settings.Merging

/-!
# Settings that follow their files

Settings are read from the merged document and never merged themselves. Still each of them follows
the two files on its own: the user's file decides the settings whose keys it has, the base file
those of the rest whose keys it has, and the others keep their defaults. The one setting for which
this is not plain is the log format, for two tables under its key are merged into one; but what is
then accepted is what the user's table says.
-/

namespace HostBridge

/-- A setting: the key under which it stands, how it is read, and the field that keeps it. -/
structure Setting (α : Type) where
  key : String
  read : Value → Except ShapeFault α
  field : Settings → α

namespace Setting

open Settings

variable {α : Type} {setting : Setting α} {base user : Table} {low high settled : Settings}

def logFile : Setting String := ⟨"log_file", readText, Settings.logFile⟩

def logLevel : Setting String := ⟨"log_level", readText, Settings.logLevel⟩

def consoleLogLevel : Setting String := ⟨"console_log_level", readText, Settings.consoleLogLevel⟩

def logFormat : Setting LogFormat := ⟨"log_format", readFormat, Settings.logFormat⟩

/-- Whether a setting is what a table says of it, or its default if the table does not have its
key. -/
def IsRead (setting : Setting α) (table : Table) (settings : Settings) : Prop :=
  readOr setting.read (setting.field {}) (Table.find? table setting.key)
    = .ok (setting.field settings)

/-- Whether a setting is what it should be in all settings that are read from a table. -/
def Kept (setting : Setting α) : Prop :=
  ∀ {table : Table} {settings : Settings}, ofTable table = .ok settings →
    setting.IsRead table settings

theorem kept_logFile : logFile.Kept := by
  intro table settings h
  obtain ⟨-, hfile, -, -⟩ := ofTable_eq_ok_iff.mp h
  exact hfile

theorem kept_logLevel : logLevel.Kept := by
  intro table settings h
  obtain ⟨-, -, -, hlevel⟩ := ofTable_eq_ok_iff.mp h
  exact hlevel

theorem kept_consoleLogLevel : consoleLogLevel.Kept := by
  intro table settings h
  obtain ⟨hconsole, -, -, -⟩ := ofTable_eq_ok_iff.mp h
  exact hconsole

theorem kept_logFormat : logFormat.Kept := by
  intro table settings h
  obtain ⟨-, -, hformat, -⟩ := ofTable_eq_ok_iff.mp h
  exact hformat

/-- Whether a setting is what the user's table gives it, else what the base table gives it, else its
default. -/
def Follows (setting : Setting α) (base user : Table) (low high settled : Settings) : Prop :=
  setting.field settled =
    if (Table.find? user setting.key).isSome then setting.field high
    else if (Table.find? base setting.key).isSome then setting.field low
    else setting.field {}

/-- Whether a value that is laid over an accepted one says what it says on its own, if it is
accepted both ways. -/
def Overrides (setting : Setting α) : Prop :=
  ∀ {old : Option Value} {value : Value} {below above merged : α},
    readOr setting.read (setting.field {}) old = .ok below → setting.read value = .ok above →
      setting.read (Value.overlay old value) = .ok merged → merged = above

theorem Overrides.of_replaced {old : Option Value} {value : Value} {above merged : α}
    (hoverlay : Value.overlay old value = value) (habove : setting.read value = .ok above)
    (hmerged : setting.read (Value.overlay old value) = .ok merged) : merged = above := by
  rw [hoverlay, habove] at hmerged
  exact (Except.ok.inj hmerged).symm

theorem overrides_of_readText {setting : Setting String} (hread : setting.read = readText) :
    setting.Overrides := by
  intro old value below above merged _ habove hmerged
  have htext : readText value = .ok above := by rw [← hread, habove]
  exact Overrides.of_replaced (Value.overlay_of_table?_eq_none old (table?_of_readText htext))
    habove hmerged

/-- Two tables that name formats are merged into one that is accepted only if they name the same. -/
theorem overrides_logFormat : logFormat.Overrides := by
  intro old value below above merged hbelow habove hmerged
  cases value with
  | string | integer | float | boolean | datetime | array =>
      exact Overrides.of_replaced (Value.overlay_of_table?_eq_none old rfl) habove hmerged
  | table entries =>
  cases htable : old.bind Value.table? with
  | none => exact Overrides.of_replaced (Value.overlay_table htable entries) habove hmerged
  | some oldEntries =>
  obtain ⟨oldValue, rfl, holdValue⟩ := Option.bind_eq_some_iff.mp htable
  obtain rfl := Value.eq_table_of_table? holdValue
  obtain ⟨name, content, rfl, -, hcontent⟩ := readFormat_table hbelow
  obtain ⟨name', content', rfl, hname', hcontent'⟩ := readFormat_table habove
  by_cases heq : name = name'
  · subst heq
    have hsame := readFormat_overlay_same hname' hcontent hcontent'
    exact Except.ok.inj (hmerged.symm.trans hsame)
  · have hfails := readFormat_overlay_ne heq content content'
    cases hmerged.symm.trans hfails

theorem follows_of_ofTable (hkept : setting.Kept) (hoverrides : setting.Overrides)
    (hsorted : Table.Sorted user) (hbase : ofTable base = .ok low) (huser : ofTable user = .ok high)
    (hmerged : ofTable (Table.overlay base user) = .ok settled) :
    setting.Follows base user low high settled := by
  have hlow := hkept hbase
  have hhigh := hkept huser
  have hsettled := hkept hmerged
  unfold IsRead at hlow hhigh hsettled
  rw [Table.find?_overlay hsorted] at hsettled
  unfold Follows
  cases hnew : Table.find? user setting.key with
  | some value =>
      rw [hnew] at hhigh hsettled
      exact hoverrides hlow hhigh hsettled
  | none =>
      rw [hnew, Value.overlay?] at hsettled
      cases hold : Table.find? base setting.key with
      | some value =>
          rw [hold] at hlow hsettled
          exact Except.ok.inj (hsettled.symm.trans hlow)
      | none =>
          rw [hold] at hsettled
          exact (Except.ok.inj hsettled).symm

end Setting

namespace Settings

/-- The table of the settings of a document, empty if there is none; `none` if the document has
something else in its place. -/
def entries? (document : Table) : Option Table :=
  match Table.find? document documentKey with
  | none => some []
  | some (.table entries) => some entries
  | some _ => none

theorem ofDocument_of_entries? {document entries : Table} (h : entries? document = some entries) :
    ofDocument document = ofTable entries := by
  unfold entries? at h
  unfold ofDocument
  split at h
  next hfind =>
    cases h
    rw [hfind]
    rfl
  next hfind =>
    cases h
    rw [hfind]
    rfl
  next => cases h

theorem sorted_entries? {document entries : Table} (hordered : Table.Ordered document)
    (h : entries? document = some entries) : Table.Sorted entries := by
  unfold entries? at h
  split at h
  next =>
    cases h
    exact List.Pairwise.nil
  next hfind =>
    cases h
    exact (Table.ordered_of_table (hordered.find? hfind)).sorted
  next => cases h

theorem entries?_overlay {low high base user : Table} (hhigh : Table.Ordered high)
    (hbase : entries? low = some base) (huser : entries? high = some user) :
    entries? (Table.overlay low high) = some (Table.overlay base user) := by
  have hsorted := sorted_entries? hhigh huser
  unfold entries? at hbase huser ⊢
  rw [Table.find?_overlay hhigh.sorted]
  split at huser
  next hfind =>
    cases huser
    rw [hfind]
    exact hbase
  next hfind =>
    cases huser
    rw [hfind, Value.overlay?]
    split at hbase
    next hfind' =>
      cases hbase
      rw [hfind', Value.overlay_none, hsorted.overlay_nil]
    next hfind' =>
      cases hbase
      rw [hfind', Value.overlay]
    next => cases hbase
  next => cases huser

/-- Whether all settings follow the tables of two documents. -/
structure Follow (base user : Table) (low high settled : Settings) : Prop where
  logFile : Setting.logFile.Follows base user low high settled
  logLevel : Setting.logLevel.Follows base user low high settled
  consoleLogLevel : Setting.consoleLogLevel.Follows base user low high settled
  logFormat : Setting.logFormat.Follows base user low high settled

theorem follow_of_ofTable {base user : Table} {low high settled : Settings}
    (hsorted : Table.Sorted user) (hbase : ofTable base = .ok low) (huser : ofTable user = .ok high)
    (hmerged : ofTable (Table.overlay base user) = .ok settled) :
    Follow base user low high settled := by
  have hfollows {α : Type} {setting : Setting α} (hkept : setting.Kept)
      (hoverrides : setting.Overrides) : setting.Follows base user low high settled :=
    Setting.follows_of_ofTable hkept hoverrides hsorted hbase huser hmerged
  constructor
  · exact hfollows Setting.kept_logFile (Setting.overrides_of_readText rfl)
  · exact hfollows Setting.kept_logLevel (Setting.overrides_of_readText rfl)
  · exact hfollows Setting.kept_consoleLogLevel (Setting.overrides_of_readText rfl)
  · exact hfollows Setting.kept_logFormat Setting.overrides_logFormat

/-- A string under a key of the settings is what the setting with this key is read from. -/
theorem find?_of_descend {document : Table} {settings : Settings} {key text : String}
    (haccepted : ofDocument document = .ok settings)
    (hfound : (Table.descend document [documentKey, key]).bind Value.string? = some text) :
    ∃ entries, ofTable entries = .ok settings ∧ Table.find? entries key = some (.string text) := by
  obtain ⟨value, hdescend, htext⟩ := Option.bind_eq_some_iff.mp hfound
  rw [Table.descend_cons document documentKey (List.cons_ne_nil key [])] at hdescend
  obtain ⟨entries, hentries, hfind⟩ := Option.bind_eq_some_iff.mp hdescend
  have hkeeps : entries? document = some entries := by
    rw [entries?, Table.find?_of_tableAt hentries]
  have hvalue : value = .string text := by
    cases value with
    | string found => exact congrArg Value.string (Option.some.inj htext)
    | integer | float | boolean | datetime | array | table => cases htext
  refine ⟨entries, ?_, hvalue ▸ hfind⟩
  rw [← ofDocument_of_entries? hkeeps, haccepted]

end Settings

namespace LogFormat

theorem name_of_ofName? {name : String} {format : LogFormat} (h : ofName? name = some format) :
    format.name = name := by
  have hfound := List.find?_some h
  exact beq_iff_eq.mp hfound

end LogFormat

namespace Configuration

open Settings

/-- The configuration of a file on its own; a missing file counts as an empty document. -/
def ofFile (path : String) (file : StoredFile) : Except Error Configuration := do
  ofDocument path ((← readFile? path file).getD [])

theorem readFile?_eq_ok {path : String} {file : StoredFile} {document? : Option Table}
    (h : readFile? path file = .ok document?) :
    ∃ configuration, ofFile path file = .ok configuration ∧
      configuration.document = document?.getD [] ∧ Table.Ordered configuration.document := by
  have hfile : ofFile path file = ofDocument path (document?.getD []) := by
    rw [ofFile, h]
    rfl
  rw [hfile]
  obtain ⟨text?, -, h⟩ := bind_eq_ok_iff.mp h
  cases text? with
  | none =>
      cases h
      exact ⟨initial, rfl, rfl, Table.Ordered.nil⟩
  | some text =>
      obtain ⟨document, hread, h⟩ := bind_eq_ok_iff.mp h
      obtain ⟨⟨⟩, hchecked, h⟩ := bind_eq_ok_iff.mp h
      cases h
      have hdocument : Reader.document? text = some document := by
        unfold readDocument at hread
        split at hread
        next hfound =>
          cases hread
          exact hfound
        next => cases hread
      change ∃ configuration, ofDocument path document = .ok configuration ∧ _
      cases haccepted : ofDocument path document with
      | error error =>
          rw [haccepted] at hchecked
          cases hchecked
      | ok configuration =>
          obtain ⟨-, hsame⟩ := ofDocument_eq_ok_iff.mp haccepted
          exact ⟨configuration, rfl, hsame, hsame ▸ Reader.document?_ordered hdocument⟩

theorem addFile_eq_ok {document merged : Table} {path : String} {file : StoredFile}
    (h : addFile document path file = .ok merged) :
    ∃ configuration, ofFile path file = .ok configuration ∧
      merged = Table.overlay document configuration.document ∧
      Table.Ordered configuration.document := by
  obtain ⟨document?, hread, h⟩ := bind_eq_ok_iff.mp h
  obtain ⟨configuration, hfile, hdocument, hordered⟩ := readFile?_eq_ok hread
  refine ⟨configuration, hfile, ?_, hordered⟩
  rw [hdocument]
  cases document? with
  | none =>
      cases h
      rfl
  | some incoming =>
      cases h
      rfl

theorem load_eq_ok {basePath userPath : String} {base user : StoredFile}
    {configuration : Configuration} (h : load basePath base userPath user = .ok configuration) :
    ∃ low high, ofFile basePath base = .ok low ∧ ofFile userPath user = .ok high ∧
      Table.Ordered high.document ∧
      configuration.document = Table.overlay low.document high.document ∧
      Settings.ofDocument configuration.document = .ok configuration.settings := by
  obtain ⟨first, hfirst, h⟩ := bind_eq_ok_iff.mp h
  obtain ⟨merged, hmerged, h⟩ := bind_eq_ok_iff.mp h
  obtain ⟨low, hlow, rfl, hlowOrdered⟩ := addFile_eq_ok hfirst
  obtain ⟨high, hhigh, rfl, hhighOrdered⟩ := addFile_eq_ok hmerged
  obtain ⟨haccepted, hsame⟩ := ofDocument_eq_ok_iff.mp h
  rw [hlowOrdered.sorted.overlay_nil] at haccepted hsame
  exact ⟨low, high, hlow, hhigh, hhighOrdered, hsame, hsame ▸ haccepted⟩

theorem accepted_of_ofFile {path : String} {file : StoredFile} {configuration : Configuration}
    (h : ofFile path file = .ok configuration) :
    Settings.ofDocument configuration.document = .ok configuration.settings := by
  obtain ⟨document?, -, h⟩ := bind_eq_ok_iff.mp h
  obtain ⟨haccepted, hsame⟩ := ofDocument_eq_ok_iff.mp h
  rw [hsame, haccepted]

/-- Whether a configuration comes from a text or from two files. -/
inductive Obtained (configuration : Configuration) : Prop where
  | parse (text : String) (h : parse text = .ok configuration)
  | load (basePath userPath : String) (base user : StoredFile)
      (h : load basePath base userPath user = .ok configuration)

theorem Obtained.accepted {configuration : Configuration} (h : Obtained configuration) :
    Settings.ofDocument configuration.document = .ok configuration.settings := by
  cases h with
  | parse text h => exact (parse_eq_ok_iff.mp h).2
  | load basePath userPath base user h =>
      obtain ⟨-, -, -, -, -, -, haccepted⟩ := load_eq_ok h
      exact haccepted

/-- Whether the settings are those that the document gives as strings. -/
structure Agrees (configuration : Configuration) : Prop where
  logFile {text : String} : configuration.string? "unrealsdk.log_file" = some text →
    configuration.settings.logFile = text
  logLevel {text : String} : configuration.string? "unrealsdk.log_level" = some text →
    configuration.settings.logLevel = text
  consoleLogLevel {text : String} :
    configuration.string? "unrealsdk.console_log_level" = some text →
      configuration.settings.consoleLogLevel = text
  logFormat {name : String} : configuration.string? "unrealsdk.log_format" = some name →
    configuration.settings.logFormat.name = name

theorem read_of_string? {α : Type} {setting : Setting α} (hkept : setting.Kept)
    {configuration : Configuration}
    (haccepted : Settings.ofDocument configuration.document = .ok configuration.settings)
    {dotted text : String}
    (hpieces : (pieces '.' dotted.toList).map String.ofList = [documentKey, setting.key])
    (hstring : configuration.string? dotted = some text) :
    setting.read (.string text) = .ok (setting.field configuration.settings) := by
  rw [string?, get?, Table.get?, hpieces] at hstring
  obtain ⟨entries, hsettings, hfind⟩ := find?_of_descend haccepted hstring
  have hread := hkept hsettings
  rw [Setting.IsRead, hfind] at hread
  exact hread

theorem agrees_of_accepted {configuration : Configuration}
    (haccepted : Settings.ofDocument configuration.document = .ok configuration.settings) :
    configuration.Agrees := by
  constructor
  · intro text hstring
    have hread := read_of_string? Setting.kept_logFile haccepted (by decide +kernel) hstring
    exact (Except.ok.inj hread).symm
  · intro text hstring
    have hread := read_of_string? Setting.kept_logLevel haccepted (by decide +kernel) hstring
    exact (Except.ok.inj hread).symm
  · intro text hstring
    have hread := read_of_string? Setting.kept_consoleLogLevel haccepted (by decide +kernel) hstring
    exact (Except.ok.inj hread).symm
  · intro name hstring
    have hread := read_of_string? Setting.kept_logFormat haccepted (by decide +kernel) hstring
    change formatNamed name = .ok configuration.settings.logFormat at hread
    unfold formatNamed at hread
    split at hread
    next hname =>
      cases hread
      exact LogFormat.name_of_ofName? hname
    next => cases hread

/-- Settings follow the two files they are loaded from, each on its own, wherever both files keep
them in a table; and whatever is parsed or loaded, settings are what the document gives as
strings. -/
theorem settings_follow_files :
    (∀ {basePath userPath : String} {base user : StoredFile} {configuration : Configuration},
      load basePath base userPath user = .ok configuration →
        ∃ low high, ofFile basePath base = .ok low ∧ ofFile userPath user = .ok high ∧
          ∀ {baseTable userTable : Table}, entries? low.document = some baseTable →
            entries? high.document = some userTable →
              Follow baseTable userTable low.settings high.settings configuration.settings) ∧
    (∀ path, ofFile path .missing = ofFile path (.ofText "")) ∧
    ∀ configuration, Obtained configuration → configuration.Agrees := by
  refine ⟨fun {basePath userPath base user configuration} hload => ?_, fun path => ?_,
    fun configuration hobtained => agrees_of_accepted hobtained.accepted⟩
  · obtain ⟨low, high, hlow, hhigh, hordered, hdocument, haccepted⟩ := load_eq_ok hload
    refine ⟨low, high, hlow, hhigh, fun {baseTable userTable} hbase huser => ?_⟩
    have hmerged := entries?_overlay hordered hbase huser
    have hlowTable := accepted_of_ofFile hlow
    have hhighTable := accepted_of_ofFile hhigh
    rw [ofDocument_of_entries? hbase] at hlowTable
    rw [ofDocument_of_entries? huser] at hhighTable
    rw [hdocument, ofDocument_of_entries? hmerged] at haccepted
    exact follow_of_ofTable (sorted_entries? hordered huser) hlowTable hhighTable haccepted
  · have hempty : Reader.document? "" = some [] := by rfl
    have hread : readFile? path (.ofText "") = .ok (some []) := by
      refine bind_eq_ok_iff.mpr ⟨some "", read_ofText "", ?_⟩
      refine bind_eq_ok_iff.mpr ⟨[], by rw [readDocument, hempty], rfl⟩
    rw [ofFile, ofFile, hread]
    rfl

def baseText : String :=
  "[unrealsdk]\nlog_file = \"base.log\"\nlog_level = \"debug\"\nlog_format = \"json\"\n"

/-- A text that names its format by a table, over one that names it by a string. -/
def userText : String :=
  "[unrealsdk]\nlog_level = \"trace\"\n\n[unrealsdk.log_format]\ncompact = []\n"

theorem settings_of_two_files :
    ∃ low high configuration, ofFile "base.toml" (.ofText baseText) = .ok low ∧
      ofFile "user.toml" (.ofText userText) = .ok high ∧
      load "base.toml" (.ofText baseText) "user.toml" (.ofText userText) = .ok configuration ∧
      (∃ baseTable userTable, entries? low.document = some baseTable ∧
        entries? high.document = some userTable ∧
        Follow baseTable userTable low.settings high.settings configuration.settings) ∧
      configuration.string? "unrealsdk.log_level" = some "trace" ∧
      configuration.settings.logLevel = "trace" := by
  have hlookup : (load "base.toml" (.ofText baseText) "user.toml" (.ofText userText)).toOption.bind
      (string? · "unrealsdk.log_level") = some "trace" := by decide +kernel
  have hkeeps (path text : String)
      (h : ((ofFile path (.ofText text)).toOption.bind fun configuration =>
        entries? configuration.document).isSome = true) {configuration : Configuration}
      (hfile : ofFile path (.ofText text) = .ok configuration) :
      ∃ entries, entries? configuration.document = some entries := by
    rw [hfile] at h
    exact Option.isSome_iff_exists.mp h
  cases hload : load "base.toml" (.ofText baseText) "user.toml" (.ofText userText) with
  | error error =>
      rw [hload] at hlookup
      cases hlookup
  | ok configuration =>
      rw [hload] at hlookup
      obtain ⟨hfollow, -, hagrees⟩ := settings_follow_files
      obtain ⟨low, high, hlow, hhigh, hfollow⟩ := hfollow hload
      obtain ⟨baseTable, hbase⟩ := hkeeps _ _ (by decide +kernel) hlow
      obtain ⟨userTable, huser⟩ := hkeeps _ _ (by decide +kernel) hhigh
      have hobtained : Obtained configuration := .load _ _ _ _ hload
      exact ⟨low, high, configuration, hlow, hhigh, rfl,
        ⟨baseTable, userTable, hbase, huser, hfollow hbase huser⟩, hlookup,
        (hagrees configuration hobtained).logLevel hlookup⟩

end Configuration

end HostBridge
