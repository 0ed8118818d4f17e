namespace HostBridge.Hex

/-- A number in at least so many digits. -/
def padded (width number : Nat) : String :=
  let digits := Nat.toDigits 16 number
  String.ofList (List.replicate (width - digits.length) '0' ++ digits)

def address (address : UInt64) : String :=
  "0x" ++ padded 1 address.toNat

def ofBytes (bytes : List UInt8) : String :=
  String.join (bytes.map fun byte => padded 2 byte.toNat)

def digit? (c : Char) : Option Nat :=
  if c.isDigit then some (c.toNat - '0'.toNat)
  else if 'a' ≤ c ∧ c ≤ 'f' then some (c.toNat - 'a'.toNat + 10)
  else if 'A' ≤ c ∧ c ≤ 'F' then some (c.toNat - 'A'.toNat + 10)
  else none

def number? (digits : List Char) : Option Nat :=
  if digits.isEmpty then none
  else digits.foldlM (fun number c => (digit? c).map (16 * number + ·)) 0

def bytes? : List Char → Option (List UInt8)
  | [] => some []
  | [_] => none
  | high :: low :: rest => do
    let byte := 16 * (← digit? high) + (← digit? low)
    return UInt8.ofNat byte :: (← bytes? rest)

end HostBridge.Hex
