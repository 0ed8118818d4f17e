import HostBridge.Document.Value
import HostBridge.Text.Pieces

namespace HostBridge

namespace Table

def descend (table : Table) : List String → Option Value
  | [] => none
  | [key] => Table.find? table key
  | key :: next :: rest =>
    match Table.find? table key with
    | some (.table inner) => descend inner (next :: rest)
    | _ => none

def get? (table : Table) (key : String) : Option Value :=
  table.descend ((pieces '.' key.toList).map String.ofList)

end Table

end HostBridge
