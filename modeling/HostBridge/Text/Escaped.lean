import HostBridge.Text.Visible

namespace HostBridge.Escaped

def numbered (c : Char) : List Char :=
  ['\\', 'u', '\x7B'] ++ Nat.toDigits 16 c.toNat ++ ['\x7D']

def escapeChar (c : Char) : List Char :=
  if c = '\x00' then ['\\', '0']
  else if c = '\t' then ['\\', 't']
  else if c = '\n' then ['\\', 'n']
  else if c = '\r' then ['\\', 'r']
  else if c = '"' ∨ c = '\\' then ['\\', c]
  else if isVisible c then [c]
  else numbered c

def quoted (text : String) : String :=
  String.ofList ('"' :: text.toList.flatMap escapeChar ++ ['"'])

end HostBridge.Escaped
