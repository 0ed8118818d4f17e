import HostBridge.Document.Overlay
import HostBridge.Proofs.Document.Ordered

namespace HostBridge

namespace Value

theorem overlay_none (value : Value) : overlay none value = value := by
  cases value <;> rfl

theorem overlay_of_table?_eq_none {value : Value} (old : Option Value) (h : value.table? = none) :
    overlay old value = value := by
  cases value with
  | table => cases h
  | string | integer | float | boolean | datetime | array =>
      cases old with
      | none => rfl
      | some old => cases old <;> rfl

theorem overlay_table {old : Option Value} (h : old.bind table? = none) (entries : Table) :
    overlay old (.table entries) = .table entries := by
  cases old with
  | none => rfl
  | some old =>
      cases old with
      | table => cases h
      | string | integer | float | boolean | datetime | array => rfl

/-- What a key holds in a table with another one laid over it, given what it holds in both. -/
def overlay? (old : Option Value) : Option Value → Option Value
  | some value => some (overlay old value)
  | none => old

end Value

namespace Table

theorem find?_overlay {new : Table} (hnew : Sorted new) (old : Table) (key : String) :
    find? (overlay old new) key = Value.overlay? (find? old key) (find? new key) := by
  induction new generalizing old with
  | nil => rfl
  | cons first rest ih =>
      obtain ⟨key', value⟩ := first
      have hrest : Sorted rest := (List.pairwise_cons.mp hnew).2
      rw [overlay, ih hrest, find?_insert, find?]
      by_cases heq : key = key'
      · subst heq
        have htail : find? rest key = none := hnew.find?_tail
        rw [htail, if_pos rfl, if_pos rfl]
        rfl
      · rw [if_neg heq, if_neg heq]

theorem find?_overlay_nil {new : Table} (hnew : Sorted new) (key : String) :
    find? (overlay [] new) key = find? new key := by
  rw [find?_overlay hnew]
  cases find? new key with
  | none => rfl
  | some value => exact congrArg some (Value.overlay_none value)

end Table

end HostBridge
