import HostBridge.Log.Event
import Mathlib.Data.List.Forall2

/-!
# What a line says

The text of a log line by rules for characters, values and fields, which stand apart from the
functions that write it. `lineFor_iff` says that these write what the rules allow, and that the rules
allow nothing else.
-/

namespace HostBridge

/-- How a character is written between quotes. Above U+00A0 it depends on whether it shows. -/
inductive Quotes : Char → List Char → Prop where
  | null : Quotes '\x00' ['\\', '0']
  | tab : Quotes '\t' ['\\', 't']
  | lineFeed : Quotes '\n' ['\\', 'n']
  | carriageReturn : Quotes '\r' ['\\', 'r']
  | quote : Quotes '"' ['\\', '"']
  | backslash : Quotes '\\' ['\\', '\\']
  | printable {c : Char} (hquote : c ≠ '"') (hbackslash : c ≠ '\\') (hlow : 0x20 ≤ c.toNat)
    (hhigh : c.toNat ≤ 0x7E) : Quotes c [c]
  | control {c : Char} (hnamed : c ∉ ['\x00', '\t', '\n', '\r'])
    (hcontrol : c.toNat < 0x20 ∨ 0x7F ≤ c.toNat ∧ c.toNat ≤ 0xA0) :
    Quotes c (['\\', 'u', '\x7B'] ++ Nat.toDigits 16 c.toNat ++ ['\x7D'])
  | shown {c : Char} (hhigh : 0xA0 < c.toNat) (hvisible : isVisible c = true) : Quotes c [c]
  | hidden {c : Char} (hhigh : 0xA0 < c.toNat) (hvisible : isVisible c = false) :
    Quotes c (['\\', 'u', '\x7B'] ++ Nat.toDigits 16 c.toNat ++ ['\x7D'])

/-- The text that a value is shown as. -/
inductive FieldValue.Shows : FieldValue → String → Prop where
  | plain (text : String) : (FieldValue.plain text).Shows text
  | quoted {text : String} {pieces : List (List Char)}
    (hpieces : List.Forall₂ Quotes text.toList pieces) :
    (FieldValue.quoted text).Shows (String.ofList ('"' :: pieces.flatten ++ ['"']))
  | natural (n : Nat) : (FieldValue.number n).Shows (String.ofList (Nat.toDigits 10 n))
  | negative (n : Nat) :
    (FieldValue.number (-(n + 1 : Nat))).Shows ("-" ++ String.ofList (Nat.toDigits 10 (n + 1)))
  | raised : (FieldValue.flag true).Shows "true"
  | lowered : (FieldValue.flag false).Shows "false"

/-- What fields say that are recorded one after another: the values of those called "message" are the
message, the others stand behind it by their names. -/
inductive Recorded : List (String × FieldValue) → String → String → Prop where
  | nil : Recorded [] "" ""
  | message {value : FieldValue} {text message rest : String} {fields : List (String × FieldValue)}
    (hvalue : value.Shows text) (hfields : Recorded fields message rest) :
    Recorded (("message", value) :: fields) (text ++ message) rest
  | named {name text message rest : String} {value : FieldValue}
    {fields : List (String × FieldValue)} (hname : name ≠ "message") (hvalue : value.Shows text)
    (hfields : Recorded fields message rest) :
    Recorded ((name, value) :: fields) message (" " ++ name ++ "=" ++ text ++ rest)

/-- The levels, from the most severe one on, each with its word in a line. -/
def Level.words : List (Level × String) :=
  [(.error, "ERROR"), (.warn, "WARN"), (.info, "INFO"), (.debug, "DEBUG"), (.trace, "TRACE")]

/-- The line for an event of a level that records fields. -/
inductive LineFor : Level → List (String × FieldValue) → String → Prop where
  | line {level : Level} {word message rest : String} {fields : List (String × FieldValue)}
    (hword : (level, word) ∈ Level.words) (hfields : Recorded fields message rest) :
    LineFor level fields ("[" ++ word ++ "] " ++ message ++ rest ++ "\n")

theorem isVisible_of_printable {c : Char} (hlow : 0x20 ≤ c.toNat) (hhigh : c.toNat ≤ 0x7E) :
    isVisible c = true := by
  have hruns : ∀ run ∈ Visible.hiddenRuns, run.2 < 0x20 ∨ 0x7F ≤ run.1 := by decide +kernel
  rw [isVisible, Bool.not_eq_true', List.any_eq_false]
  intro run hrun hinside
  rw [Bool.and_eq_true, decide_eq_true_iff, decide_eq_true_iff] at hinside
  have hrun := hruns run hrun
  omega

theorem isVisible_of_control {c : Char}
    (h : c.toNat < 0x20 ∨ 0x7F ≤ c.toNat ∧ c.toNat ≤ 0xA0) : isVisible c = false := by
  have hlow : (0x0, 0x1F) ∈ Visible.hiddenRuns := by decide +kernel
  have hhigh : (0x7F, 0xA0) ∈ Visible.hiddenRuns := by decide +kernel
  rw [isVisible, Bool.not_eq_false', List.any_eq_true]
  rcases h with h | h
  · exact ⟨_, hlow, by simp only [Bool.and_eq_true, decide_eq_true_iff]; omega⟩
  · exact ⟨_, hhigh, by simp only [Bool.and_eq_true, decide_eq_true_iff]; omega⟩

theorem not_mem_of_le {c : Char} (h : 0x20 ≤ c.toNat) : c ∉ ['\x00', '\t', '\n', '\r'] := by
  intro hmem
  simp only [List.mem_cons, List.not_mem_nil, or_false] at hmem
  obtain rfl | rfl | rfl | rfl := hmem <;> exact absurd h (by decide)

theorem escapeChar_eq {c : Char} (hnamed : c ∉ ['\x00', '\t', '\n', '\r']) (hquote : c ≠ '"')
    (hbackslash : c ≠ '\\') :
    Escaped.escapeChar c = if isVisible c then [c] else Escaped.numbered c := by
  simp only [List.mem_cons, List.not_mem_nil, or_false, not_or] at hnamed
  obtain ⟨hnull, htab, hlineFeed, hreturn⟩ := hnamed
  rw [Escaped.escapeChar, if_neg hnull, if_neg htab, if_neg hlineFeed, if_neg hreturn,
    if_neg (not_or.mpr ⟨hquote, hbackslash⟩)]

theorem quotes_escapeChar (c : Char) : Quotes c (Escaped.escapeChar c) := by
  by_cases hnamed : c ∈ ['\x00', '\t', '\n', '\r']
  · simp only [List.mem_cons, List.not_mem_nil, or_false] at hnamed
    obtain rfl | rfl | rfl | rfl := hnamed
    · exact .null
    · exact .tab
    · exact .lineFeed
    · exact .carriageReturn
  by_cases hquote : c = '"'
  · subst hquote
    exact .quote
  by_cases hbackslash : c = '\\'
  · subst hbackslash
    exact .backslash
  rw [escapeChar_eq hnamed hquote hbackslash]
  by_cases hcontrol : c.toNat < 0x20 ∨ 0x7F ≤ c.toNat ∧ c.toNat ≤ 0xA0
  · rw [isVisible_of_control hcontrol]
    exact .control hnamed hcontrol
  by_cases hhigh : 0xA0 < c.toNat
  · cases hvisible : isVisible c with
    | true => exact .shown hhigh hvisible
    | false => exact .hidden hhigh hvisible
  · have hlow : 0x20 ≤ c.toNat := by omega
    have hprintable : c.toNat ≤ 0x7E := by omega
    rw [isVisible_of_printable hlow hprintable]
    exact .printable hquote hbackslash hlow hprintable

theorem Quotes.eq_escapeChar {c : Char} {text : List Char} (h : Quotes c text) :
    text = Escaped.escapeChar c := by
  have hmarks (h : ¬(0x20 ≤ c.toNat ∧ c.toNat ≤ 0x7E)) : c ≠ '"' ∧ c ≠ '\\' := by
    constructor
    · rintro rfl
      exact h (by decide)
    · rintro rfl
      exact h (by decide)
  cases h with
  | null | tab | lineFeed | carriageReturn | quote | backslash => rfl
  | printable hquote hbackslash hlow hhigh =>
      rw [escapeChar_eq (not_mem_of_le hlow) hquote hbackslash, isVisible_of_printable hlow hhigh]
      rfl
  | control hnamed hcontrol =>
      obtain ⟨hquote, hbackslash⟩ := hmarks (by omega)
      rw [escapeChar_eq hnamed hquote hbackslash, isVisible_of_control hcontrol]
      rfl
  | shown hhigh hvisible =>
      obtain ⟨hquote, hbackslash⟩ := hmarks (by omega)
      rw [escapeChar_eq (not_mem_of_le (by omega)) hquote hbackslash, hvisible]
      rfl
  | hidden hhigh hvisible =>
      obtain ⟨hquote, hbackslash⟩ := hmarks (by omega)
      rw [escapeChar_eq (not_mem_of_le (by omega)) hquote hbackslash, hvisible]
      rfl

theorem forall₂_quotes_iff {text : List Char} {pieces : List (List Char)} :
    List.Forall₂ Quotes text pieces ↔ pieces = text.map Escaped.escapeChar := by
  constructor
  · intro h
    induction h with
    | nil => rfl
    | cons hfirst _ ih => rw [hfirst.eq_escapeChar, ih, List.map_cons]
  · rintro rfl
    rw [List.forall₂_map_right_iff, List.forall₂_same]
    exact fun c _ => quotes_escapeChar c

theorem FieldValue.shows_iff {value : FieldValue} {text : String} :
    value.Shows text ↔ text = value.text := by
  constructor
  · intro h
    cases h with
    | quoted hpieces =>
        rw [forall₂_quotes_iff.mp hpieces, FieldValue.text, Escaped.quoted, List.flatMap_def]
    | plain | natural | negative | raised | lowered => rfl
  · rintro rfl
    cases value with
    | plain text => exact .plain text
    | quoted text =>
        rw [FieldValue.text, Escaped.quoted, List.flatMap_def]
        exact .quoted (forall₂_quotes_iff.mpr rfl)
    | number value =>
        cases value with
        | ofNat n => exact .natural n
        | negSucc n => exact .negative n
    | flag truth =>
        cases truth with
        | true => exact .raised
        | false => exact .lowered

namespace Event

/-- An event by its fields in the order in which they are recorded; the message is one of them. -/
def ofRecord (level : Level) (fields : List (String × FieldValue)) : Event where
  level := level
  message := String.join ((fields.filter fun field => field.1 = "message").map (·.2.text))
  fields := fields.filter fun field => field.1 ≠ "message"

variable (level : Level) (value : FieldValue) (fields : List (String × FieldValue))

theorem ofRecord_cons_message :
    ofRecord level (("message", value) :: fields) = { ofRecord level fields with
      message := value.text ++ (ofRecord level fields).message } := by
  simp [ofRecord]

theorem ofRecord_cons_named {name : String} (h : name ≠ "message") :
    ofRecord level ((name, value) :: fields) = { ofRecord level fields with
      fields := (name, value) :: (ofRecord level fields).fields } := by
  simp [ofRecord, h]

/-- Recording the message of an event before its fields gives the event. -/
theorem ofRecord_eq {event : Event} (h : ∀ field ∈ event.fields, field.1 ≠ "message") :
    ofRecord event.level (("message", .plain event.message) :: event.fields) = event := by
  obtain ⟨level, message, fields⟩ := event
  have hmessages : fields.filter (fun field => field.1 = "message") = [] :=
    List.filter_eq_nil_iff.mpr fun field hfield => by simp [h field hfield]
  have hothers : fields.filter (fun field => field.1 ≠ "message") = fields :=
    List.filter_eq_self.mpr fun field hfield => by simp [h field hfield]
  rw [ofRecord_cons_message, ofRecord, hmessages, hothers]
  exact congrArg (Event.mk level · fields) String.append_empty

end Event

theorem recorded_iff (level : Level) {fields : List (String × FieldValue)} {message rest : String} :
    Recorded fields message rest ↔ message = (Event.ofRecord level fields).message ∧
      rest = String.join ((Event.ofRecord level fields).fields.map Event.fieldText) := by
  constructor
  · intro h
    induction h with
    | nil => exact ⟨rfl, rfl⟩
    | message hvalue _ ih =>
        rw [Event.ofRecord_cons_message, FieldValue.shows_iff.mp hvalue, ih.1]
        exact ⟨rfl, ih.2⟩
    | named hname hvalue _ ih =>
        rw [Event.ofRecord_cons_named _ _ _ hname, FieldValue.shows_iff.mp hvalue]
        refine ⟨ih.1, ?_⟩
        rw [List.map_cons, String.join_cons, ← ih.2]
        rfl
  · rintro ⟨rfl, rfl⟩
    induction fields with
    | nil => exact .nil
    | cons field fields ih =>
        obtain ⟨name, value⟩ := field
        have hvalue : value.Shows value.text := FieldValue.shows_iff.mpr rfl
        by_cases hname : name = "message"
        · subst hname
          rw [Event.ofRecord_cons_message]
          exact .message hvalue ih
        · rw [Event.ofRecord_cons_named _ _ _ hname, List.map_cons, String.join_cons]
          exact .named hname hvalue ih

theorem Level.mem_words_iff {level : Level} {word : String} :
    (level, word) ∈ words ↔ word = level.name := by
  constructor
  · intro h
    have hname : ∀ entry ∈ words, entry.2 = entry.1.name := by decide
    exact hname _ h
  · rintro rfl
    cases level <;> decide

theorem lineFor_iff {level : Level} {fields : List (String × FieldValue)} {text : String} :
    LineFor level fields text ↔ text = (Event.ofRecord level fields).line := by
  constructor
  · rintro ⟨hword, hfields⟩
    obtain ⟨rfl, rfl⟩ := (recorded_iff level).mp hfields
    rw [Level.mem_words_iff.mp hword]
    rfl
  · rintro rfl
    exact .line (Level.mem_words_iff.mpr rfl) ((recorded_iff level).mpr ⟨rfl, rfl⟩)

end HostBridge
