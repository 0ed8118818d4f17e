import HostBridge.Memory.Stored

/-!
# Double-precision numbers

Reading rounds an exact quotient to the nearest double, ties to the even significand. Writing picks
the fewest digits that read back, and of those the nearest to the number, the greater of two that
are equally near.
-/

namespace HostBridge.Binary64

def signBit : Nat := 0x8000000000000000

/-- The weight of the exponent in the bits; also the least significand of a normal number. -/
def exponentUnit : Nat := 0x10000000000000

def infinityBits : Nat := 0x7FF0000000000000

def infinity : Binary64 := ⟨UInt64.ofNat infinityBits⟩

def nan : Binary64 := ⟨0x7FF8000000000000⟩

def negate (number : Binary64) : Binary64 :=
  ⟨number.bits ^^^ 0x8000000000000000⟩

def isNegative (number : Binary64) : Bool :=
  signBit ≤ number.bits.toNat

def magnitudeBits (number : Binary64) : Nat :=
  number.bits.toNat % signBit

def isNan (number : Binary64) : Bool :=
  infinityBits < number.magnitudeBits

def isInfinite (number : Binary64) : Bool :=
  number.magnitudeBits == infinityBits

/-- Equality of numbers: a NaN differs from itself, and the two zeros are equal. -/
def equals (left right : Binary64) : Bool :=
  !left.isNan && !right.isNan
    && (left.bits == right.bits || left.magnitudeBits == 0 && right.magnitudeBits == 0)

/-- The quotient rounded to the nearest integer, ties to the even one. -/
def roundedQuotient (numerator denominator : Nat) : Nat :=
  let quotient := numerator / denominator
  let twice := 2 * (numerator % denominator)
  if denominator < twice || (twice == denominator && quotient % 2 == 1) then quotient + 1
  else quotient

def scaled (numerator denominator : Nat) (shift : Int) : Nat × Nat :=
  match shift with
  | .ofNat up => (numerator <<< up, denominator)
  | .negSucc down => (numerator, denominator <<< (down + 1))

def bitsOfQuotient (numerator denominator : Nat) : Nat :=
  if numerator == 0 then
    0
  else
    let guess : Int := max ((numerator.log2 : Int) - (denominator.log2 : Int) - 53) (-1074)
    let (top, bottom) := scaled numerator denominator (-guess)
    let exponent := if 2 * exponentUnit ≤ top / bottom then guess + 1 else guess
    let (top, bottom) := scaled numerator denominator (-exponent)
    let significand := roundedQuotient top bottom
    let bits :=
      if significand < exponentUnit then significand
      else (exponent + 1074).toNat * exponentUnit + significand
    min bits infinityBits

/-- The double nearest to `digits * 10 ^ exponent`. Exponents so large or small that no double is
near are cut off first. -/
def ofDecimal (digits : Nat) (exponent : Int) : Binary64 :=
  let least : Int := -400 - ((Nat.toDigits 10 digits).length : Int)
  let exponent := max least (min exponent 400)
  let bits := match exponent with
    | .ofNat up => bitsOfQuotient (digits * Nat.pow 10 up) 1
    | .negSucc down => bitsOfQuotient digits (Nat.pow 10 (down + 1))
  ⟨UInt64.ofNat bits⟩

/-- A finite magnitude as `significand * 2 ^ exponent`. -/
def decode (magnitude : Nat) : Nat × Int :=
  let field : Nat := magnitude / exponentUnit
  let fraction : Nat := magnitude % exponentUnit
  if field == 0 then (fraction, -1074) else (exponentUnit + fraction, (field : Int) - 1075)

/-- The decimals next to a quotient on the grid of multiples of `10 ^ place`, the nearer first, and
the greater first if both are equally near. -/
def neighbours (numerator denominator : Nat) (place : Int) : List Nat :=
  let (top, bottom) := match place with
    | .ofNat up => (numerator, denominator * Nat.pow 10 up)
    | .negSucc down => (numerator * Nat.pow 10 (down + 1), denominator)
  let below := top / bottom
  if 2 * (top % bottom) < bottom then [below, below + 1] else [below + 1, below]

/-- The first grid, from the coarsest tried, on which a neighbour of the magnitude reads back. -/
def shortestFrom (magnitude numerator denominator : Nat) (place : Int) : Nat → Nat × Int
  | 0 => (0, place)
  | tries + 1 =>
    match (neighbours numerator denominator place).find? fun digits =>
        (ofDecimal digits place).bits.toNat == magnitude with
    | some digits => (digits, place)
    | none => shortestFrom magnitude numerator denominator (place - 1) tries

def shortest (magnitude : Nat) : Nat × Int :=
  if magnitude == 0 then
    (0, 0)
  else
    let (significand, exponent) := decode magnitude
    let (numerator, denominator) := scaled significand 1 exponent
    let place : Int := (Nat.toDigits 10 (numerator / denominator)).length
    shortestFrom magnitude numerator denominator place (place.toNat + 400)

/-- The decimal `digits * 10 ^ exponent` in positional notation, with at least one digit on each
side of the point. -/
def positional (digits : Nat) (exponent : Int) : List Char :=
  match exponent with
  | .ofNat up => Nat.toDigits 10 (digits * Nat.pow 10 up) ++ ['.', '0']
  | .negSucc down =>
    let places := down + 1
    let fraction := Nat.toDigits 10 (digits % Nat.pow 10 places)
    Nat.toDigits 10 (digits / Nat.pow 10 places)
      ++ '.' :: List.replicate (places - fraction.length) '0' ++ fraction

def text (number : Binary64) : String :=
  let sign := if number.isNegative then "-" else ""
  if number.isNan then "NaN"
  else if number.isInfinite then sign ++ "inf"
  else
    let (digits, exponent) := shortest number.magnitudeBits
    sign ++ String.ofList (positional digits exponent)

end HostBridge.Binary64
