namespace HostBridge.Utf16

abbrev Unit := UInt16

/-- U+FFFD. -/
def replacement : Char := '\uFFFD'

def IsHigh (unit : Unit) : Prop := 0xD800 ≤ unit ∧ unit < 0xDC00

def IsLow (unit : Unit) : Prop := 0xDC00 ≤ unit ∧ unit < 0xE000

instance (unit : Unit) : Decidable (IsHigh unit) := inferInstanceAs (Decidable (_ ∧ _))

instance (unit : Unit) : Decidable (IsLow unit) := inferInstanceAs (Decidable (_ ∧ _))

def encodeChar (c : Char) : List Unit :=
  if c.toNat < 0x10000 then
    [UInt16.ofNat c.toNat]
  else
    [UInt16.ofNat (0xD800 + (c.toNat - 0x10000) / 0x400),
      UInt16.ofNat (0xDC00 + (c.toNat - 0x10000) % 0x400)]

def encodeChars (text : List Char) : List Unit :=
  text.flatMap encodeChar

def encode (text : String) : List Unit :=
  encodeChars text.toList

def combine (high low : Unit) : Char :=
  Char.ofNat (0x10000 + (high.toNat - 0xD800) * 0x400 + (low.toNat - 0xDC00))

def single (unit : Unit) : Char :=
  if IsHigh unit ∨ IsLow unit then replacement else Char.ofNat unit.toNat

def decodeChars : List Unit → List Char
  | high :: low :: rest =>
    if IsHigh high ∧ IsLow low then combine high low :: decodeChars rest
    else single high :: decodeChars (low :: rest)
  | [unit] => [single unit]
  | [] => []

def decode (units : List Unit) : String :=
  String.ofList (decodeChars units)

/-- Whether every surrogate is half of a pair. -/
def isWellFormed : List Unit → Bool
  | high :: low :: rest =>
    if IsHigh high ∧ IsLow low then isWellFormed rest
    else ¬(IsHigh high ∨ IsLow high) && isWellFormed (low :: rest)
  | [unit] => ¬(IsHigh unit ∨ IsLow unit)
  | [] => true

def decode? (units : List Unit) : Option String :=
  if isWellFormed units then some (decode units) else none

end HostBridge.Utf16
