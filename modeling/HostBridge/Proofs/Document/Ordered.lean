import HostBridge.Document.Value

namespace HostBridge

namespace Table

def Sorted (table : Table) : Prop :=
  table.Pairwise fun left right => left.1 < right.1

variable {table : Table} {key : String} {value : Value} {entry : String × Value}

theorem lt_of_not_lt {left right : String} (hnot : ¬left < right) (hne : left ≠ right) :
    right < left := by
  rw [← String.not_le]
  intro hle
  exact hne (String.le_antisymm hle (String.not_lt.mp hnot))

theorem mem_insert (h : entry ∈ Table.insert table key value) :
    entry = (key, value) ∨ entry ∈ table := by
  induction table with
  | nil => exact .inl (List.mem_singleton.mp h)
  | cons first rest ih =>
      obtain ⟨key', value'⟩ := first
      simp only [Table.insert] at h
      split at h
      · exact List.mem_cons.mp h
      split at h
      · exact (List.mem_cons.mp h).imp_right (List.mem_cons_of_mem _)
      · rcases List.mem_cons.mp h with hfirst | hrest
        · exact .inr (hfirst ▸ List.mem_cons_self)
        · exact (ih hrest).imp_right (List.mem_cons_of_mem _)

theorem Sorted.insert (h : Sorted table) (key : String) (value : Value) :
    Sorted (Table.insert table key value) := by
  induction table with
  | nil => exact List.pairwise_singleton _ _
  | cons first rest ih =>
      obtain ⟨key', value'⟩ := first
      obtain ⟨hfirst, hrest⟩ := List.pairwise_cons.mp h
      simp only [Table.insert]
      split
      next hlt =>
        refine List.pairwise_cons.mpr ⟨fun entry hentry => ?_, h⟩
        rcases List.mem_cons.mp hentry with heq | hmem
        · exact heq ▸ hlt
        · exact String.lt_trans hlt (hfirst entry hmem)
      next hnot =>
        split
        next heq =>
          subst heq
          exact List.pairwise_cons.mpr ⟨hfirst, hrest⟩
        next hne =>
          refine List.pairwise_cons.mpr ⟨fun entry hentry => ?_, ih hrest⟩
          rcases mem_insert hentry with heq | hmem
          · exact heq ▸ lt_of_not_lt hnot hne
          · exact hfirst entry hmem

theorem find?_eq_none (h : ∀ entry ∈ table, key ≠ entry.1) : find? table key = none := by
  induction table with
  | nil => rfl
  | cons first rest ih =>
      rw [find?, if_neg (h first List.mem_cons_self)]
      exact ih fun entry hentry => h entry (List.mem_cons_of_mem _ hentry)

theorem mem_of_find? (h : find? table key = some value) : (key, value) ∈ table := by
  induction table with
  | nil => cases h
  | cons first rest ih =>
      obtain ⟨key', value'⟩ := first
      rw [find?] at h
      split at h
      next heq =>
        cases h
        exact heq ▸ List.mem_cons_self
      next => exact List.mem_cons_of_mem _ (ih h)

theorem Sorted.find?_of_mem (h : Sorted table) (hmem : (key, value) ∈ table) :
    find? table key = some value := by
  induction table with
  | nil => cases hmem
  | cons first rest ih =>
      obtain ⟨hfirst, hrest⟩ := List.pairwise_cons.mp h
      rw [find?]
      rcases List.mem_cons.mp hmem with heq | hmem
      · cases heq
        exact if_pos rfl
      · have hlt : first.1 < key := hfirst _ hmem
        have hne : key ≠ first.1 := by
          rintro rfl
          exact String.lt_irrefl _ hlt
        rw [if_neg hne]
        exact ih hrest hmem

theorem Sorted.eq_of_mem {value' : Value} (h : Sorted table) (hmem : (key, value) ∈ table)
    (hmem' : (key, value') ∈ table) : value = value' :=
  Option.some.inj ((h.find?_of_mem hmem).symm.trans (h.find?_of_mem hmem'))

theorem Sorted.find?_tail {first : String × Value} (h : Sorted (first :: table)) :
    find? table first.1 = none := by
  obtain ⟨hfirst, -⟩ := List.pairwise_cons.mp h
  refine find?_eq_none fun entry hentry heq => ?_
  exact String.lt_irrefl first.1 (heq ▸ hfirst entry hentry)

theorem Sorted.find?_of_lt {first : String × Value} (h : Sorted (first :: table))
    (hlt : key < first.1) : find? (first :: table) key = none := by
  obtain ⟨hfirst, -⟩ := List.pairwise_cons.mp h
  refine find?_eq_none fun entry hentry => ?_
  rintro rfl
  rcases List.mem_cons.mp hentry with rfl | hmem
  · exact String.lt_irrefl _ hlt
  · exact String.lt_irrefl _ (String.lt_trans hlt (hfirst entry hmem))

/-- Sorted tables that hold the same under every key are the same. -/
theorem Sorted.ext {left right : Table} (hleft : Sorted left) (hright : Sorted right)
    (heq : ∀ key, find? left key = find? right key) : left = right := by
  induction left generalizing right with
  | nil =>
      cases right with
      | nil => rfl
      | cons first rest =>
          have hfirst := heq first.1
          simp [find?] at hfirst
  | cons first rest ih =>
      cases right with
      | nil =>
          have hfirst := heq first.1
          simp [find?] at hfirst
      | cons first' rest' =>
          obtain ⟨key, value⟩ := first
          obtain ⟨key', value'⟩ := first'
          have hkey : key = key' := by
            refine Decidable.byContradiction fun hne => ?_
            by_cases hlt : key < key'
            · have hnone := hright.find?_of_lt hlt
              rw [← heq] at hnone
              simp [find?] at hnone
            · have hnone := hleft.find?_of_lt (lt_of_not_lt hlt hne)
              rw [heq] at hnone
              simp [find?] at hnone
          subst hkey
          have hvalue : value = value' := by simpa [find?] using heq key
          subst hvalue
          have hrest : rest = rest' := by
            refine ih (List.pairwise_cons.mp hleft).2 (List.pairwise_cons.mp hright).2 fun other => ?_
            by_cases hother : other = key
            · subst hother
              exact hleft.find?_tail.trans hright.find?_tail.symm
            · simpa [find?, hother] using heq other
          rw [hrest]

end Table

namespace Value

inductive Ordered : Value → Prop where
  | string (text : String) : Ordered (.string text)
  | integer (number : Int64) : Ordered (.integer number)
  | float (number : Binary64) : Ordered (.float number)
  | boolean (truth : Bool) : Ordered (.boolean truth)
  | datetime (datetime : Datetime) : Ordered (.datetime datetime)
  | array {elements : List Value} (h : ∀ element ∈ elements, Ordered element) :
      Ordered (.array elements)
  | table {entries : Table} (hsorted : Table.Sorted entries)
      (h : ∀ entry ∈ entries, Ordered entry.2) : Ordered (.table entries)

end Value

namespace Table

structure Ordered (table : Table) : Prop where
  sorted : Sorted table
  values : ∀ entry ∈ table, entry.2.Ordered

theorem Ordered.nil : Ordered [] := ⟨List.Pairwise.nil, nofun⟩

theorem Ordered.insert {table : Table} {key : String} {value : Value} (h : Ordered table)
    (hvalue : value.Ordered) : Ordered (Table.insert table key value) where
  sorted := h.sorted.insert key value
  values entry hentry := by
    rcases mem_insert hentry with heq | hmem
    · exact heq ▸ hvalue
    · exact h.values entry hmem

theorem Ordered.find? {table : Table} {key : String} {value : Value} (h : Ordered table)
    (hfind : Table.find? table key = some value) : value.Ordered :=
  h.values _ (mem_of_find? hfind)

theorem ordered_of_table {table : Table} (h : (Value.table table).Ordered) : Ordered table := by
  cases h with
  | table hsorted hvalues => exact ⟨hsorted, hvalues⟩

theorem Ordered.value {table : Table} (h : Ordered table) : (Value.table table).Ordered :=
  .table h.sorted h.values

end Table

end HostBridge
