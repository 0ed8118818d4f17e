import HostBridge.Document.Moment
import HostBridge.Document.Value

/-!
# Trees under construction

Headers and dotted keys create tables on the way to what they name, and a table may be created in
one of these ways only once. A tree therefore remembers of each table how it came about, and its
keys in the order in which they came; a value that was written as a whole is never extended.

The order matters to one kind of table. Below the root a table whose first key is
`reservedDatetimeKey` is no table but the datetime that the text of this key says, and whatever else
it holds does not count. If the key does not hold the text of a datetime, the tree has no value.
-/

namespace HostBridge

inductive Origin where
  /-- By its own header. -/
  | header
  /-- On the way to a header below it. -/
  | implied
  /-- By a dotted key. -/
  | dotted
  /-- By an inline table, as a whole. -/
  | inline
  deriving DecidableEq, Repr

/-- What a key of a tree holds: a value without parts, an array, a table, or an array of tables with
the last one open. -/
inductive Node where
  | leaf (value : Value)
  | array (elements : List Node)
  | table (origin : Origin) (entries : List (String × Node))
  | tables (closed : List Node) (last : List (String × Node))

/-- The entries of a table under construction, in the order in which they came. -/
abbrev Branch := List (String × Node)

/-- A table that begins with this key stands for a datetime. -/
def reservedDatetimeKey : String := "$__toml_private_datetime"

namespace Branch

def standsForDatetime (branch : Branch) : Bool :=
  (branch.head?.map Prod.fst) == some reservedDatetimeKey

/-- The datetime that the first entry says, which must be a text that is a datetime as a whole. -/
def datetime? : Branch → Option Datetime
  | (_, .leaf (.string text)) :: _ =>
    match Moment.datetime? text.toList with
    | some (found, []) => some found
    | _ => none
  | _ => none

/-- The value of a branch below the root, given its value as a table. -/
def value? (branch : Branch) (table : Option Table) : Option Value :=
  if branch.standsForDatetime then branch.datetime?.map .datetime else table.map .table

end Branch

mutual

def Node.toValue? : Node → Option Value
  | .leaf value => some value
  | .array elements => (Node.toValues? elements).map .array
  | .table _ entries => Branch.value? entries (Branch.toTable? entries)
  | .tables closed last => do
    let elements ← Node.toValues? closed
    let element ← Branch.value? last (Branch.toTable? last)
    return .array (elements ++ [element])

def Node.toValues? : List Node → Option (List Value)
  | [] => some []
  | node :: rest => do
    let value ← Node.toValue? node
    return value :: (← Node.toValues? rest)

/-- A branch as a table, whatever its first key is. -/
def Branch.toTable? : List (String × Node) → Option (List (String × Value))
  | [] => some []
  | (key, node) :: rest => do
    let value ← Node.toValue? node
    return Table.insert (← Branch.toTable? rest) key value

end

namespace Branch

def find? (branch : Branch) (key : String) : Option Node :=
  branch.lookup key

/-- Sets what a key holds; a key that is there keeps its place. -/
def put (branch : Branch) (key : String) (node : Node) : Branch :=
  match branch with
  | [] => [(key, node)]
  | entry :: rest =>
    if entry.1 == key then (key, node) :: rest else entry :: Branch.put rest key node

/-- Sets what a key holds and makes it the last one. -/
def putLast (branch : Branch) (key : String) (node : Node) : Branch :=
  (branch.filter fun entry => entry.1 != key) ++ [(key, node)]

/-- Changes the table that the keys of a header lead to. Missing tables are implied, and an array of
tables leads to its last one. -/
def atHeader (change : Branch → Option Branch) : List String → Branch → Option Branch
  | [], branch => change branch
  | key :: path, branch =>
    match branch.find? key with
    | none => (atHeader change path []).map fun inner => branch.put key (.table .implied inner)
    | some (.leaf _) | some (.array _) | some (.table .inline _) => none
    | some (.table origin inner) =>
      (atHeader change path inner).map fun inner => branch.put key (.table origin inner)
    | some (.tables closed last) =>
      (atHeader change path last).map fun last => branch.put key (.tables closed last)

/-- Opens a table by its header, as the last one. So far it may be implied, but not more. -/
def openTable (key : String) (branch : Branch) : Option Branch :=
  match branch.find? key with
  | none => some (branch.put key (.table .header []))
  | some (.table .implied inner) => some (branch.putLast key (.table .header inner))
  | some _ => none

def openElement (key : String) (branch : Branch) : Option Branch :=
  match branch.find? key with
  | none => some (branch.put key (.tables [] []))
  | some (.tables closed last) =>
    some (branch.put key (.tables (closed ++ [.table .header last]) []))
  | some _ => none

def define (key : String) (value : Node) (branch : Branch) : Option Branch :=
  match branch.find? key with
  | none => some (branch.put key value)
  | some _ => none

/-- Gives a new key a value in the table that a dotted key leads to, which must be dotted itself. No
table with a header is entered. -/
def defineBelow (key : String) (value : Node) : Origin → List String → Branch → Option Branch
  | origin, [], branch => if origin = .dotted then branch.define key value else none
  | _, next :: path, branch =>
    match branch.find? next with
    | none =>
      (defineBelow key value .dotted path []).map fun inner =>
        branch.put next (.table .dotted inner)
    | some (.leaf _) | some (.array _) | some (.table .header _) | some (.table .inline _) => none
    | some (.table origin inner) =>
      (defineBelow key value origin path inner).map fun inner =>
        branch.put next (.table origin inner)
    | some (.tables closed last) =>
      (defineBelow key value .header path last).map fun last =>
        branch.put next (.tables closed last)

/-- Gives a dotted key a value; `path` are its keys but the last one. -/
def assign (path : List String) (key : String) (value : Node) (branch : Branch) :
    Option Branch :=
  if path.isEmpty then branch.define key value else branch.defineBelow key value .header path

end Branch

end HostBridge
