import HostBridge.Proofs.Document.DottedPaths
import HostBridge.Proofs.Settings.FaultyFiles

namespace HostBridge

namespace Value

variable {value : Value}

theorem string?_eq_some_iff {text : String} : value.string? = some text ↔ value = .string text := by
  cases value <;> simp [string?]

theorem integer?_eq_some_iff {number : Int64} :
    value.integer? = some number ↔ value = .integer number := by
  cases value <;> simp [integer?]

theorem boolean?_eq_some_iff {truth : Bool} :
    value.boolean? = some truth ↔ value = .boolean truth := by
  cases value <;> simp [boolean?]

theorem bind_eq_some_iff {α : Type} {read : Value → Option α} {make : α → Value}
    (hread : ∀ {value content}, read value = some content ↔ value = make content)
    {found : Option Value} {content : α} :
    found.bind read = some content ↔ found = some (make content) := by
  rw [Option.bind_eq_some_iff]
  constructor
  · rintro ⟨value, rfl, hvalue⟩
    rw [hread.mp hvalue]
  · intro hfound
    exact ⟨make content, hfound, hread.mpr rfl⟩

end Value

namespace Configuration

variable {configuration : Configuration}

theorem Obtained.ordered (h : Obtained configuration) : Table.Ordered configuration.document := by
  cases h with
  | parse text h => exact Reader.document?_ordered (parse_eq_ok_iff.mp h).1
  | load basePath userPath base user h =>
      obtain ⟨low, high, hlow, -, hhigh, hdocument, -⟩ := load_eq_ok h
      rw [hdocument]
      exact (ordered_of_ofFile hlow).overlay hhigh

/-- Whether the typed lookups of a key answer what the untyped one does, as far as it is of their
type. -/
structure Typed (configuration : Configuration) (key : String) : Prop where
  string_iff (text : String) :
    configuration.string? key = some text ↔ configuration.get? key = some (.string text)
  integer_iff (number : Int64) :
    configuration.integer? key = some number ↔ configuration.get? key = some (.integer number)
  boolean_iff (truth : Bool) :
    configuration.boolean? key = some truth ↔ configuration.get? key = some (.boolean truth)
  at_most_one :
    [(configuration.string? key).isSome, (configuration.integer? key).isSome,
      (configuration.boolean? key).isSome].count true ≤ 1

theorem typed (configuration : Configuration) (key : String) : configuration.Typed key where
  string_iff _ := Value.bind_eq_some_iff Value.string?_eq_some_iff
  integer_iff _ := Value.bind_eq_some_iff Value.integer?_eq_some_iff
  boolean_iff _ := Value.bind_eq_some_iff Value.boolean?_eq_some_iff
  at_most_one := by
    rw [string?, integer?, boolean?]
    cases configuration.get? key with
    | none => exact Nat.zero_le 1
    | some value =>
        cases value with
        | string | integer | boolean => exact Nat.le_refl 1
        | float | datetime | array | table => exact Nat.zero_le 1

/-- Whatever document a configuration comes from, looking up the join of names without dots finds
what the names lead to in it. Every key is the join of such names, in one way, and entries under
other names make no difference to what is found. -/
theorem lookups_follow_pieces (h : Obtained configuration) :
    (∀ text, parse text = .ok configuration →
      Reader.document? text = some configuration.document) ∧
    (∀ {basePath userPath : String} {base user : StoredFile},
      load basePath base userPath user = .ok configuration →
        ∃ low high, ofFile basePath base = .ok low ∧ ofFile userPath user = .ok high ∧
          configuration.document = Table.overlay low.document high.document) ∧
    (∀ names, names ≠ [] → (∀ name ∈ names, DottedPath.IsPlain name) →
      Table.Finds configuration.document names (configuration.get? (".".intercalate names))) ∧
    ∀ key,
      Table.Finds configuration.document (DottedPath.names key) (configuration.get? key) ∧
      (∀ names, DottedPath.names key = names ↔
        names ≠ [] ∧ (∀ name ∈ names, DottedPath.IsPlain name) ∧ ".".intercalate names = key) ∧
      Table.get? (Table.plain configuration.document) key
        = (configuration.get? key).map Value.plain ∧
      configuration.Typed key := by
  have hfinds (key : String) :
      Table.Finds configuration.document (DottedPath.names key) (configuration.get? key) := by
    rw [get?, Table.get?_eq_descend]
    exact h.ordered.finds_descend (DottedPath.names_ne_nil key)
  refine ⟨?_, ?_, ?_, ?_⟩
  · intro text hparse
    exact (parse_eq_ok_iff.mp hparse).1
  · intro basePath userPath base user hload
    obtain ⟨low, high, hlow, hhigh, -, hdocument, -⟩ := load_eq_ok hload
    exact ⟨low, high, hlow, hhigh, hdocument⟩
  · intro names hnames hplain
    have hjoin := hfinds (".".intercalate names)
    rw [DottedPath.names_intercalate hnames hplain] at hjoin
    exact hjoin
  · intro key
    refine ⟨hfinds key, fun _ => DottedPath.names_eq_iff, ?_, configuration.typed key⟩
    rw [get?, Table.get?_eq_descend, Table.get?_eq_descend]
    apply Table.descend_plain
    intro name hname
    exact DottedPath.isPlain_of_mem_names hname

/-- A table with a name that has a dot next to one that has none, an empty name, and an array. -/
def dottedText : String :=
  "[a]\n\"b.c\" = true\n[a.b]\nc = \"v\"\n\"\" = 1\n[[rows]]\nx = 1\n"

theorem lookups_in_dotted_text :
    ∃ configuration, parse dottedText = .ok configuration ∧ Obtained configuration ∧
      Reader.document? dottedText = some configuration.document ∧
      (["a", "b", "c"] ≠ [] ∧ ∀ name ∈ ["a", "b", "c"], DottedPath.IsPlain name) ∧
      configuration.string? "a.b.c" = some "v" ∧
      Table.Reaches configuration.document ["a", "b", "c"] (.string "v") ∧
      Table.Reaches configuration.document ["a", "b", ""] (.integer 1) ∧
      Table.Blocked configuration.document ["rows", "x"] := by
  have hanswers : (parse dottedText).toOption.map (fun configuration =>
      (configuration.string? "a.b.c", configuration.integer? "a.b.",
        (configuration.get? "rows.x").isNone)) = some (some "v", some 1, true) := by
    decide +kernel
  cases hparse : parse dottedText with
  | error error =>
      rw [hparse] at hanswers
      cases hanswers
  | ok configuration =>
      rw [hparse] at hanswers
      simp only [Except.toOption, Option.map_some, Option.some_inj, Prod.mk.injEq,
        Option.isNone_iff_eq_none] at hanswers
      obtain ⟨hstring, hinteger, hnone⟩ := hanswers
      have hobtained : Obtained configuration := .parse dottedText hparse
      obtain ⟨hread, -, hjoin, hkey⟩ := lookups_follow_pieces hobtained
      obtain ⟨-, -, -, htext⟩ := hkey "a.b.c"
      obtain ⟨-, -, -, hnumber⟩ := hkey "a.b."
      have hnames : ["a", "b", "c"] ≠ [] := nofun
      have hplain : ∀ name ∈ ["a", "b", "c"], DottedPath.IsPlain name := by decide
      refine ⟨configuration, rfl, hobtained, hread dottedText hparse, ⟨hnames, hplain⟩, hstring,
        ?_, ?_, ?_⟩
      · apply ((hjoin ["a", "b", "c"] hnames hplain).some_iff _).mp
        exact (htext.string_iff "v").mp hstring
      · apply ((hjoin ["a", "b", ""] nofun (by decide)).some_iff _).mp
        exact (hnumber.integer_iff 1).mp hinteger
      · exact (hjoin ["rows", "x"] nofun (by decide)).none_iff.mp hnone

end Configuration

end HostBridge
