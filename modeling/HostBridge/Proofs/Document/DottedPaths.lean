import HostBridge.Proofs.Document.Paths

/-!
# Dotted paths

The pieces of a dotted key are the one list of names without dots whose join it is, so to look up a
join is to go along its names. Where names lead to is said by the entries of the tables on the way
alone. A name with a dot of its own is never a piece, so no lookup would notice if the tables had no
such entries.
-/

namespace HostBridge

theorem pieces_eq_splitOn (separator : Char) (text : List Char) :
    pieces separator text = text.splitOn separator := by
  induction text with
  | nil => rfl
  | cons c rest ih =>
      rw [pieces, List.splitOn_cons_eq_if_modifyHead, ih]
      by_cases hc : c = separator
      · rw [if_pos hc, if_pos (beq_iff_eq.mpr hc)]
      · rw [if_neg hc, if_neg (mt beq_iff_eq.mp hc)]
        cases hsplit : rest.splitOn separator with
        | nil => exact absurd hsplit (List.splitOn_ne_nil separator rest)
        | cons piece others => rfl

theorem not_mem_of_mem_pieces {separator : Char} {text piece : List Char}
    (h : piece ∈ pieces separator text) : separator ∉ piece := by
  induction text generalizing piece with
  | nil =>
      rw [List.mem_singleton.mp h]
      exact List.not_mem_nil
  | cons c rest ih =>
      rw [pieces] at h
      split at h
      next =>
        rcases List.mem_cons.mp h with rfl | hmem
        · exact List.not_mem_nil
        · exact ih hmem
      next hc =>
        have hne : separator ≠ c := Ne.symm hc
        split at h
        next first others hrest =>
          rcases List.mem_cons.mp h with rfl | hmem
          · exact List.not_mem_cons_of_ne_of_not_mem hne (ih (hrest ▸ List.mem_cons_self))
          · exact ih (hrest ▸ List.mem_cons_of_mem first hmem)
        next =>
          rw [List.mem_singleton.mp h]
          exact List.not_mem_cons_of_ne_of_not_mem hne List.not_mem_nil

namespace DottedPath

/-- The names between the dots of a key, empty ones included. -/
def names (key : String) : List String :=
  (key.split '.').toList.map String.Slice.copy

def IsPlain (name : String) : Prop := '.' ∉ name.toList

instance (name : String) : Decidable (IsPlain name) :=
  inferInstanceAs (Decidable (_ ∉ _))

theorem names_eq_pieces (key : String) : names key = (pieces '.' key.toList).map String.ofList := by
  rw [names, String.toList_split_char, pieces_eq_splitOn]

theorem names_ne_nil (key : String) : names key ≠ [] := by
  rw [names, String.toList_split_char, ne_eq, List.map_eq_nil_iff]
  exact List.splitOn_ne_nil '.' key.toList

theorem isPlain_of_mem_names {key name : String} (h : name ∈ names key) : IsPlain name := by
  rw [names_eq_pieces] at h
  obtain ⟨piece, hpiece, rfl⟩ := List.mem_map.mp h
  rw [IsPlain, String.toList_ofList]
  exact not_mem_of_mem_pieces hpiece

theorem intercalate_names (key : String) : ".".intercalate (names key) = key := by
  apply String.toList_inj.mp
  calc (".".intercalate (names key)).toList
      = ['.'].intercalate ((names key).map String.toList) := String.toList_intercalate
    _ = ['.'].intercalate (key.toList.splitOn '.') := by
        rw [names, String.toList_split_char, List.map_map, String.toList_comp_ofList, List.map_id]
    _ = key.toList := List.intercalate_splitOn '.'

theorem names_intercalate {given : List String} (hgiven : given ≠ [])
    (hplain : ∀ name ∈ given, IsPlain name) : names (".".intercalate given) = given := by
  have hsplit := String.toList_split_intercalate hplain
  rw [if_neg hgiven] at hsplit
  exact hsplit

/-- A key has one list of names, which it is the join of. -/
theorem names_eq_iff {key : String} {given : List String} :
    names key = given ↔
      given ≠ [] ∧ (∀ name ∈ given, IsPlain name) ∧ ".".intercalate given = key := by
  constructor
  · rintro rfl
    exact ⟨names_ne_nil key, fun _ => isPlain_of_mem_names, intercalate_names key⟩
  · rintro ⟨hgiven, hplain, rfl⟩
    exact names_intercalate hgiven hplain

end DottedPath

namespace Table

variable {table inner : Table} {key : String} {path : List String} {value : Value}

theorem get?_eq_descend (table : Table) (key : String) :
    table.get? key = table.descend (DottedPath.names key) := by
  rw [get?, DottedPath.names_eq_pieces]

/-- Whether names lead from a table, entry by entry and table by table, to a value. -/
inductive Reaches : Table → List String → Value → Prop where
  | entry {table : Table} {name : String} {value : Value} (h : (name, value) ∈ table) :
      Reaches table [name] value
  | through {table inner : Table} {name : String} {names : List String} {value : Value}
      (h : (name, .table inner) ∈ table) (hbelow : Reaches inner names value) :
      Reaches table (name :: names) value

/-- Whether names lead nowhere: one of them is missing where it is looked for, or is the name of
something else than a table while others are to follow. -/
inductive Blocked : Table → List String → Prop where
  | missing {table : Table} {name : String} {names : List String}
      (h : ∀ value, (name, value) ∉ table) : Blocked table (name :: names)
  | notTable {table : Table} {name : String} {names : List String} {value : Value}
      (h : (name, value) ∈ table) (hvalue : ∀ inner, value ≠ .table inner) (hnames : names ≠ []) :
      Blocked table (name :: names)
  | through {table inner : Table} {name : String} {names : List String}
      (h : (name, .table inner) ∈ table) (hbelow : Blocked inner names) :
      Blocked table (name :: names)

/-- Whether what is found is what names lead to, and nothing only if they lead nowhere. -/
structure Finds (table : Table) (names : List String) (found : Option Value) : Prop where
  some_iff (value : Value) : found = some value ↔ Reaches table names value
  none_iff : found = none ↔ Blocked table names

theorem reaches_or_blocked (table : Table) (hpath : path ≠ []) :
    (∃ value, Reaches table path value) ∨ Blocked table path := by
  induction path generalizing table with
  | nil => exact absurd rfl hpath
  | cons name names ih =>
      by_cases hentry : ∃ value, (name, value) ∈ table
      · obtain ⟨value, hvalue⟩ := hentry
        by_cases hnames : names = []
        · subst hnames
          exact .inl ⟨value, .entry hvalue⟩
        · cases value with
          | string | integer | float | boolean | datetime | array =>
              exact .inr (.notTable hvalue nofun hnames)
          | table inner =>
              rcases ih inner hnames with ⟨found, hfound⟩ | hblocked
              · exact .inl ⟨found, .through hvalue hfound⟩
              · exact .inr (.through hvalue hblocked)
      · exact .inr (.missing (not_exists.mp hentry))

/-- Where keys occur once, names that lead to a value lead nowhere else. -/
theorem Ordered.not_reaches_of_blocked (h : Ordered table) (hblocked : Blocked table path) :
    ¬Reaches table path value := by
  intro hreaches
  induction hblocked with
  | missing hmissing =>
      cases hreaches with
      | entry hentry => exact hmissing _ hentry
      | through hentry => exact hmissing _ hentry
  | notTable hvalue hnot hnames =>
      cases hreaches with
      | entry => exact hnames rfl
      -- the key has the one value, so a table under it would be this value
      | through hentry => exact hnot _ (h.sorted.eq_of_mem hvalue hentry)
  | through hinner hbelow ih =>
      cases hreaches with
      | entry => cases hbelow
      | through hentry hreaches =>
          cases h.sorted.eq_of_mem hinner hentry
          exact ih (ordered_of_table (h.values _ hinner)) hreaches

theorem Sorted.tableAt_eq_some_iff (h : Sorted table) :
    tableAt table key = some inner ↔ (key, .table inner) ∈ table := by
  refine ⟨fun hinner => mem_of_find? (find?_of_tableAt hinner), fun hmem => ?_⟩
  rw [tableAt, h.find?_of_mem hmem]
  rfl

theorem Ordered.descend_eq_some_iff (h : Ordered table) :
    descend table path = some value ↔ Reaches table path value := by
  induction path generalizing table with
  | nil => exact ⟨nofun, nofun⟩
  | cons name names ih =>
      by_cases hnames : names = []
      · subst hnames
        change Table.find? table name = some value ↔ _
        constructor
        · exact fun hfind => .entry (mem_of_find? hfind)
        · intro hreaches
          cases hreaches with
          | entry hentry => exact h.sorted.find?_of_mem hentry
          | through _ hbelow => cases hbelow
      · rw [descend_cons table name hnames, Option.bind_eq_some_iff]
        constructor
        · rintro ⟨inner, hinner, hvalue⟩
          exact .through (h.sorted.tableAt_eq_some_iff.mp hinner) ((ih (h.tableAt hinner)).mp hvalue)
        · intro hreaches
          cases hreaches with
          | entry => exact absurd rfl hnames
          | through hentry hbelow =>
              have hinner := h.sorted.tableAt_eq_some_iff.mpr hentry
              exact ⟨_, hinner, (ih (h.tableAt hinner)).mpr hbelow⟩

theorem Ordered.finds_descend (h : Ordered table) (hpath : path ≠ []) :
    Finds table path (descend table path) where
  some_iff _ := h.descend_eq_some_iff
  none_iff := by
    constructor
    · intro hnone
      rcases reaches_or_blocked table hpath with ⟨value, hreaches⟩ | hblocked
      · rw [h.descend_eq_some_iff.mpr hreaches] at hnone
        cases hnone
      · exact hblocked
    · intro hblocked
      rw [Option.eq_none_iff_forall_ne_some]
      intro value hvalue
      exact h.not_reaches_of_blocked hblocked (h.descend_eq_some_iff.mp hvalue)

end Table

mutual

/-- A value without the entries, at any depth of its tables, whose names have dots of their own. -/
def Value.plain : Value → Value
  | .table entries => .table (Table.plain entries)
  | value => value

def Table.plain : List (String × Value) → List (String × Value)
  | [] => []
  | (name, value) :: rest =>
    if DottedPath.IsPlain name then (name, Value.plain value) :: Table.plain rest
    else Table.plain rest

end

namespace Table

variable {table : Table} {name : String} {path : List String}

theorem find?_plain (table : Table) (hname : DottedPath.IsPlain name) :
    find? (plain table) name = (find? table name).map Value.plain := by
  induction table with
  | nil => rfl
  | cons first rest ih =>
      obtain ⟨name', value⟩ := first
      rw [plain, find?]
      by_cases heq : name = name'
      · subst heq
        rw [if_pos hname, if_pos rfl, find?, if_pos rfl]
        rfl
      · rw [if_neg heq, ← ih]
        split
        · rw [find?, if_neg heq]
        · rfl

theorem tableAt_plain (table : Table) (hname : DottedPath.IsPlain name) :
    tableAt (plain table) name = (tableAt table name).map plain := by
  rw [tableAt, tableAt, find?_plain table hname]
  cases find? table name with
  | none => rfl
  | some value => cases value <;> rfl

theorem descend_plain (hpath : ∀ name ∈ path, DottedPath.IsPlain name) :
    descend (plain table) path = (descend table path).map Value.plain := by
  induction path generalizing table with
  | nil => rfl
  | cons name names ih =>
      obtain ⟨hname, hrest⟩ := List.forall_mem_cons.mp hpath
      by_cases hnames : names = []
      · subst hnames
        exact find?_plain table hname
      · rw [descend_cons _ name hnames, descend_cons _ name hnames, tableAt_plain table hname]
        cases tableAt table name with
        | none => rfl
        | some inner => exact ih hrest

end Table

end HostBridge
