import HostBridge.Document.Value

namespace HostBridge

mutual

/-- What a key holds after `new` is laid over what it held. -/
def Value.overlay : Option Value → Value → Value
  | some (.table old), .table new => .table (Table.overlay old new)
  | _, value => value

def Table.overlay (old : List (String × Value)) : List (String × Value) → List (String × Value)
  | [] => old
  | (key, value) :: rest =>
    Table.overlay (Table.insert old key (Value.overlay (Table.find? old key) value)) rest

end

end HostBridge
