import HostBridge.Document.Lookup
import HostBridge.Proofs.Document.Overlay

/-!
# Paths into overlaid documents

What a path leads to in a document with another one laid over it follows from what it leads to in
both. A value of the upper document hides everything below it in the lower one, unless both are
tables. An overlay of ordered tables is ordered, so it never holds a key twice.
-/

namespace HostBridge

theorem Value.eq_table_of_table? {value : Value} {entries : Table} (h : value.table? = some entries) :
    value = .table entries := by
  cases value with
  | string | integer | float | boolean | datetime | array => cases h
  | table => exact congrArg Value.table (Option.some.inj h)

namespace Table

variable {old new table inner above : Table} {key : String} {path : List String} {value : Value}

def tableAt (table : Table) (key : String) : Option Table :=
  (find? table key).bind Value.table?

theorem descend_cons (table : Table) (key : String) (hpath : path ≠ []) :
    descend table (key :: path) = (tableAt table key).bind (descend · path) := by
  cases path with
  | nil => exact absurd rfl hpath
  | cons next rest =>
      rw [descend, tableAt]
      cases find? table key with
      | none => rfl
      | some value => cases value <;> rfl

theorem find?_of_tableAt (h : tableAt table key = some inner) :
    find? table key = some (.table inner) := by
  obtain ⟨value, hfind, hvalue⟩ := Option.bind_eq_some_iff.mp h
  rw [hfind, Value.eq_table_of_table? hvalue]

theorem Ordered.tableAt (h : Ordered table) (hinner : tableAt table key = some inner) :
    Ordered inner :=
  ordered_of_table (h.find? (find?_of_tableAt hinner))

/-- Whether a path goes on behind a value that is not a table. -/
def CutOff (table : Table) (path : List String) : Prop :=
  ∃ before after value, path = before ++ after ∧ before ≠ [] ∧ after ≠ [] ∧
    descend table before = some value ∧ value.table? = none

theorem not_cutOff_singleton (table : Table) (key : String) : ¬CutOff table [key] := by
  rintro ⟨before, after, value, hpath, hbefore, hafter, -⟩
  cases before with
  | nil => exact hbefore rfl
  | cons first rest =>
      obtain ⟨-, hrest⟩ := List.cons_eq_cons.mp hpath
      exact hafter (List.append_eq_nil_iff.mp hrest.symm).2

theorem cutOff_cons (hpath : path ≠ []) :
    CutOff table (key :: path) ↔
      (∃ value, find? table key = some value ∧ value.table? = none) ∨
        ∃ inner, tableAt table key = some inner ∧ CutOff inner path := by
  constructor
  · rintro ⟨before, after, value, hsplit, hbefore, hafter, hfound, hvalue⟩
    cases before with
    | nil => exact absurd rfl hbefore
    | cons first rest =>
        obtain ⟨rfl, rfl⟩ := List.cons_eq_cons.mp hsplit
        by_cases hrest : rest = []
        · subst hrest
          exact .inl ⟨value, hfound, hvalue⟩
        · rw [descend_cons table key hrest] at hfound
          obtain ⟨inner, hinner, hfound⟩ := Option.bind_eq_some_iff.mp hfound
          exact .inr ⟨inner, hinner, rest, after, value, rfl, hrest, hafter, hfound, hvalue⟩
  · rintro (⟨value, hfind, hvalue⟩ | ⟨inner, hinner, before, after, value, rfl, hbefore, hafter,
      hfound, hvalue⟩)
    · exact ⟨[key], path, value, rfl, List.cons_ne_nil _ _, hpath, hfind, hvalue⟩
    · refine ⟨key :: before, after, value, rfl, List.cons_ne_nil _ _, hafter, ?_, hvalue⟩
      rw [descend_cons table key hbefore, hinner]
      exact hfound

theorem not_cutOff_of_absent (hpath : path ≠ []) (h : find? table key = none) :
    ¬CutOff table (key :: path) := by
  rw [cutOff_cons hpath, tableAt, h]
  rintro (⟨_, hvalue, -⟩ | ⟨_, hinner, -⟩)
  · cases hvalue
  · cases hinner

theorem cutOff_of_table (hpath : path ≠ []) (h : tableAt table key = some inner) :
    CutOff table (key :: path) ↔ CutOff inner path := by
  rw [cutOff_cons hpath, find?_of_tableAt h, h]
  constructor
  · rintro (⟨_, hsame, hvalue⟩ | ⟨_, hsame, hcut⟩)
    · cases hsame
      cases hvalue
    · cases hsame
      exact hcut
  · exact fun hcut => .inr ⟨inner, rfl, hcut⟩

theorem tableAt_overlay_of_absent (hnew : Sorted new) (old : Table) (h : find? new key = none) :
    tableAt (overlay old new) key = tableAt old key := by
  rw [tableAt, find?_overlay hnew, h]
  rfl

theorem tableAt_overlay_of_table (hnew : Sorted new) (old : Table)
    (h : tableAt new key = some above) :
    tableAt (overlay old new) key = some ((tableAt old key).elim above (overlay · above)) := by
  rw [tableAt, find?_overlay hnew, find?_of_tableAt h, Value.overlay?]
  cases hold : tableAt old key with
  | none =>
      rw [Value.overlay_table hold]
      rfl
  | some below =>
      rw [find?_of_tableAt hold, Value.overlay]
      rfl

theorem tableAt_overlay_of_replaced (hnew : Sorted new) (old : Table)
    (h : find? new key = some value) (hvalue : value.table? = none) :
    tableAt (overlay old new) key = none := by
  rw [tableAt, find?_overlay hnew, h, Value.overlay?, Value.overlay_of_table?_eq_none _ hvalue]
  exact hvalue

theorem descend_overlay_of_some (hnew : Ordered new) (h : descend new path = some value) :
    descend (overlay old new) path = some (Value.overlay (descend old path) value) := by
  induction path generalizing old new with
  | nil => cases h
  | cons key path ih =>
      by_cases hpath : path = []
      · subst hpath
        have hfind : find? new key = some value := h
        change find? (overlay old new) key = _
        rw [find?_overlay hnew.sorted, hfind]
        rfl
      · rw [descend_cons new key hpath] at h
        obtain ⟨above, habove, h⟩ := Option.bind_eq_some_iff.mp h
        rw [descend_cons _ key hpath, descend_cons old key hpath,
          tableAt_overlay_of_table hnew.sorted old habove]
        cases tableAt old key with
        | none => exact h.trans (congrArg some (Value.overlay_none value).symm)
        | some below => exact ih (hnew.tableAt habove) h

theorem descend_overlay_of_none (hnew : Ordered new) (h : descend new path = none) :
    (CutOff new path → descend (overlay old new) path = none) ∧
      (¬CutOff new path → descend (overlay old new) path = descend old path) := by
  induction path generalizing old new with
  | nil => exact ⟨fun _ => rfl, fun _ => rfl⟩
  | cons key path ih =>
      by_cases hpath : path = []
      · subst hpath
        have hfind : find? new key = none := h
        refine ⟨fun hcut => absurd hcut (not_cutOff_singleton new key), fun _ => ?_⟩
        change find? (overlay old new) key = find? old key
        rw [find?_overlay hnew.sorted, hfind]
        rfl
      · rw [descend_cons _ key hpath, descend_cons old key hpath]
        cases hfind : find? new key with
        | none =>
            rw [tableAt_overlay_of_absent hnew.sorted old hfind]
            exact ⟨fun hcut => absurd hcut (not_cutOff_of_absent hpath hfind), fun _ => rfl⟩
        | some value =>
        cases hvalue : value.table? with
        | none =>
            have hcut := (cutOff_cons hpath).mpr (.inl ⟨value, hfind, hvalue⟩)
            rw [tableAt_overlay_of_replaced hnew.sorted old hfind hvalue]
            exact ⟨fun _ => rfl, fun hnot => absurd hcut hnot⟩
        | some above =>
            have habove : tableAt new key = some above := by
              rw [tableAt, hfind]
              exact hvalue
            rw [descend_cons new key hpath, habove] at h
            rw [cutOff_of_table hpath habove, tableAt_overlay_of_table hnew.sorted old habove]
            cases tableAt old key with
            | none => exact ⟨fun _ => h, fun _ => h⟩
            | some below => exact ih (hnew.tableAt habove) h

end Table

theorem Table.Sorted.overlay {old : Table} (hold : Table.Sorted old) (new : Table) :
    Table.Sorted (Table.overlay old new) := by
  induction new generalizing old with
  | nil => exact hold
  | cons first rest ih => exact ih (hold.insert _ _)

/-- An overlay is ordered if the values that it lays over others stay so. -/
theorem Table.Ordered.overlay_of {old new : Table} (hold : Table.Ordered old)
    (h : ∀ entry ∈ new, ∀ value : Option Value, (∀ inner ∈ value, inner.Ordered) →
      (Value.overlay value entry.2).Ordered) : Table.Ordered (Table.overlay old new) := by
  induction new generalizing old with
  | nil => exact hold
  | cons first rest ih =>
      obtain ⟨hfirst, hrest⟩ := List.forall_mem_cons.mp h
      refine ih (hold.insert (hfirst _ fun inner hinner => ?_)) hrest
      exact hold.find? hinner

theorem Value.Ordered.overlay {old : Option Value} {new : Value}
    (hold : ∀ value ∈ old, value.Ordered) (hnew : new.Ordered) :
    (Value.overlay old new).Ordered := by
  induction hnew generalizing old with
  | string | integer | float | boolean | datetime =>
      rw [overlay_of_table?_eq_none _ rfl]
      constructor
  | array h =>
      rw [overlay_of_table?_eq_none _ rfl]
      exact .array h
  | @table above hsorted hvalues ih =>
      cases htable : old.bind table? with
      | none =>
          rw [overlay_table htable]
          exact .table hsorted hvalues
      | some below =>
          obtain ⟨value, hvalue, hbelow⟩ := Option.bind_eq_some_iff.mp htable
          rw [eq_table_of_table? hbelow] at hvalue
          rw [hvalue, Value.overlay]
          have hordered := Table.ordered_of_table (hold _ hvalue)
          exact (hordered.overlay_of fun entry hentry _ => ih entry hentry).value

theorem Table.Ordered.overlay {old new : Table} (hold : Table.Ordered old)
    (hnew : Table.Ordered new) : Table.Ordered (Table.overlay old new) :=
  hold.overlay_of fun entry hentry _ hvalue => (hnew.values entry hentry).overlay hvalue

theorem Table.overlay_self_of {table : Table} (hsorted : Table.Sorted table)
    (h : ∀ entry ∈ table, Value.overlay (some entry.2) entry.2 = entry.2) :
    Table.overlay table table = table := by
  refine (hsorted.overlay table).ext hsorted fun key => ?_
  rw [find?_overlay hsorted]
  cases hfind : find? table key with
  | none => rfl
  | some value => exact congrArg some (h _ (mem_of_find? hfind))

theorem Value.Ordered.overlay_self {value : Value} (h : value.Ordered) :
    Value.overlay (some value) value = value := by
  induction h with
  | string | integer | float | boolean | datetime | array => rfl
  | table hsorted _ ih => rw [Value.overlay, Table.overlay_self_of hsorted ih]

theorem Table.Ordered.overlay_self {table : Table} (h : Table.Ordered table) :
    Table.overlay table table = table :=
  Table.overlay_self_of h.sorted fun entry hentry => (h.values entry hentry).overlay_self

theorem Table.Sorted.overlay_nil {table : Table} (h : Table.Sorted table) :
    Table.overlay [] table = table :=
  (Table.Sorted.overlay List.Pairwise.nil table).ext h (Table.find?_overlay_nil h)

namespace Table

/-- Laid over another document, a document decides every path that it has a value at, and leaves the
others as they are if it does not cut them off. -/
theorem descend_overlay {old new : Table} (hold : Ordered old) (hnew : Ordered new) :
    (∀ path value, descend new path = some value →
      (∀ below above, descend old path = some (.table below) → value = .table above →
        descend (overlay old new) path = some (.table (overlay below above))) ∧
      ((∀ below above, ¬(descend old path = some (.table below) ∧ value = .table above)) →
        descend (overlay old new) path = some value)) ∧
    (∀ path, descend new path = none →
      (CutOff new path → descend (overlay old new) path = none) ∧
      (¬CutOff new path → descend (overlay old new) path = descend old path)) ∧
    overlay old [] = old ∧ overlay [] new = new ∧ overlay old old = old ∧
    Ordered (overlay old new) := by
  refine ⟨fun path value hvalue => ⟨fun below above hbelow habove => ?_, fun hnot => ?_⟩,
    fun path => descend_overlay_of_none hnew, rfl, hnew.sorted.overlay_nil, hold.overlay_self,
    hold.overlay hnew⟩
  · rw [descend_overlay_of_some hnew hvalue, hbelow, habove, Value.overlay]
  · rw [descend_overlay_of_some hnew hvalue]
    cases value with
    | string | integer | float | boolean | datetime | array =>
        rw [Value.overlay_of_table?_eq_none _ rfl]
    | table above =>
        cases htable : (descend old path).bind Value.table? with
        | none => rw [Value.overlay_table htable]
        | some below =>
            obtain ⟨value, hfound, hbelow⟩ := Option.bind_eq_some_iff.mp htable
            rw [Value.eq_table_of_table? hbelow] at hfound
            exact absurd ⟨hfound, rfl⟩ (hnot below above)

def lowerTable : Table :=
  [("limits", .table [("plugin", .table [("size", .integer 1)])]), ("name", .string "low")]

def upperTable : Table :=
  [("limits", .table [("plugin", .integer 2)]), ("name", .table [("first", .boolean true)])]

theorem ordered_lowerTable : Ordered lowerTable where
  sorted := List.pairwise_cons.mpr ⟨by decide +kernel, List.pairwise_singleton ..⟩
  values := by
    have hsize : Ordered [("size", .integer 1)] := Ordered.nil.insert (.integer 1)
    have hplugin : Ordered [("plugin", .table [("size", .integer 1)])] :=
      Ordered.nil.insert hsize.value
    exact List.forall_mem_cons.mpr ⟨hplugin.value, List.forall_mem_singleton.mpr (.string "low")⟩

theorem ordered_upperTable : Ordered upperTable where
  sorted := List.pairwise_cons.mpr ⟨by decide +kernel, List.pairwise_singleton ..⟩
  values := by
    have hplugin : Ordered [("plugin", .integer 2)] := Ordered.nil.insert (.integer 2)
    have hfirst : Ordered [("first", .boolean true)] := Ordered.nil.insert (.boolean true)
    exact List.forall_mem_cons.mpr ⟨hplugin.value, List.forall_mem_singleton.mpr hfirst.value⟩

theorem descend_upper_over_lower :
    Ordered lowerTable ∧ Ordered upperTable ∧
      descend (overlay lowerTable upperTable) ["limits", "plugin"] = some (.integer 2) ∧
      descend (overlay lowerTable upperTable) ["limits", "plugin", "size"] = none ∧
      descend (overlay lowerTable upperTable) ["name"] = some (.table [("first", .boolean true)]) := by
  obtain ⟨hsome, hnone, -⟩ := descend_overlay ordered_lowerTable ordered_upperTable
  refine ⟨ordered_lowerTable, ordered_upperTable, ?_, ?_, ?_⟩
  · exact (hsome ["limits", "plugin"] _ rfl).2 fun _ _ h => nomatch h.2
  · refine (hnone ["limits", "plugin", "size"] rfl).1 ?_
    exact ⟨["limits", "plugin"], ["size"], .integer 2, rfl, nofun, nofun, rfl, rfl⟩
  · exact (hsome ["name"] _ rfl).2 fun _ _ h => nomatch h.1

end Table

end HostBridge
