import HostBridge.Document.Binary64
import HostBridge.Document.Datetime

namespace HostBridge

inductive Value where
  | string (text : String)
  | integer (number : Int64)
  | float (number : Binary64)
  | boolean (truth : Bool)
  | datetime (datetime : Datetime)
  | array (elements : List Value)
  | table (entries : List (String × Value))

abbrev Table := List (String × Value)

namespace Value

instance : Inhabited Value := ⟨.table []⟩

def string? : Value → Option String
  | .string text => some text
  | _ => none

def integer? : Value → Option Int64
  | .integer number => some number
  | _ => none

def boolean? : Value → Option Bool
  | .boolean truth => some truth
  | _ => none

def table? : Value → Option Table
  | .table entries => some entries
  | _ => none

mutual

/-- Equality of values; floating-point numbers are compared as numbers. -/
def equals : Value → Value → Bool
  | .string left, .string right => left == right
  | .integer left, .integer right => left == right
  | .float left, .float right => left.equals right
  | .boolean left, .boolean right => left == right
  | .datetime left, .datetime right => left == right
  | .array left, .array right => equalsAll left right
  | .table left, .table right => equalsEntries left right
  | _, _ => false

def equalsAll : List Value → List Value → Bool
  | [], [] => true
  | left :: lefts, right :: rights => equals left right && equalsAll lefts rights
  | _, _ => false

def equalsEntries : List (String × Value) → List (String × Value) → Bool
  | [], [] => true
  | (key, left) :: lefts, (key', right) :: rights =>
    key == key' && equals left right && equalsEntries lefts rights
  | _, _ => false

end

end Value

namespace Table

def find? : List (String × Value) → String → Option Value
  | [], _ => none
  | (key', value) :: rest, key => if key = key' then some value else find? rest key

def insert (table : Table) (key : String) (value : Value) : Table :=
  match table with
  | [] => [(key, value)]
  | (key', value') :: rest =>
    if key < key' then (key, value) :: (key', value') :: rest
    else if key = key' then (key, value) :: rest
    else (key', value') :: Table.insert rest key value

/-- The table of entries in any order; of two with one key the later counts. -/
def ofEntries (entries : List (String × Value)) : Table :=
  entries.foldl (fun table entry => table.insert entry.1 entry.2) []

theorem find?_insert (table : Table) (key key' : String) (value : Value) :
    find? (Table.insert table key value) key' =
      if key' = key then some value else find? table key' := by
  induction table with
  | nil => simp [Table.insert, find?]
  | cons entry rest ih =>
    obtain ⟨first, value'⟩ := entry
    simp only [Table.insert]
    split
    · simp [find?]
    · split
      · rename_i h
        subst h
        by_cases h' : key' = key <;> simp [find?, h']
      · rename_i hne
        simp only [find?, ih]
        by_cases h : key' = first
        · subst h
          simp [Ne.symm hne]
        · simp [h]

end Table

end HostBridge
