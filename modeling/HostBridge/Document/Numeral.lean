import HostBridge.Document.Binary64
import HostBridge.Document.Scan

namespace HostBridge.Numeral

open Scan

def sign : List Char → Bool × List Char
  | '+' :: rest => (false, rest)
  | '-' :: rest => (true, rest)
  | text => (false, text)

/-- The digits of a decimal integer: a single zero, or a run that does not start with one. -/
def decimalDigits? : Scanner (List Char)
  | '0' :: rest => some (['0'], rest)
  | text => digits? Char.isDigit text

def int64? (negative : Bool) (magnitude : Nat) : Option Int64 :=
  let number : Int := if negative then -magnitude else magnitude
  if Int64.minValue.toInt ≤ number ∧ number ≤ Int64.maxValue.toInt then
    some (Int64.ofInt number)
  else
    none

/-- An unsigned integer in a base other than ten, read after the base's mark. -/
def based? (base : Nat) (isDigit : Char → Bool) : Scanner Int64 := fun text => do
  let (digits, rest) ← digits? isDigit text
  return (← int64? false (digitsValue base digits), rest)

def integer? : Scanner Int64
  | '0' :: 'x' :: rest => based? 16 isHexDigit rest
  | '0' :: 'o' :: rest => based? 8 isOctalDigit rest
  | '0' :: 'b' :: rest => based? 2 isBinaryDigit rest
  | text => do
    let (negative, text) := sign text
    let (digits, rest) ← decimalDigits? text
    return (← int64? negative (digitsValue 10 digits), rest)

def fraction? : Scanner (Option (List Char))
  | '.' :: rest => do
    let (digits, rest) ← digits? Char.isDigit rest
    return (some digits, rest)
  | text => some (none, text)

def exponent? : Scanner (Option Int)
  | c :: rest =>
    if c == 'e' || c == 'E' then do
      let (negative, rest) := sign rest
      let (digits, rest) ← digits? Char.isDigit rest
      let magnitude : Int := digitsValue 10 digits
      return (some (if negative then -magnitude else magnitude), rest)
    else some (none, c :: rest)
  | [] => some (none, [])

def signed (negative : Bool) (number : Binary64) : Binary64 :=
  if negative then number.negate else number

def named? (text : List Char) : Option (Binary64 × List Char) :=
  let (negative, text) := sign text
  match word? ['i', 'n', 'f'] text, word? ['n', 'a', 'n'] text with
  | some rest, _ => some (signed negative Binary64.infinity, rest)
  | _, some rest => some (signed negative Binary64.nan, rest)
  | none, none => none

/-- A number with a fraction or an exponent; one too large is refused, unless it is negative. -/
def decimal? (text : List Char) : Option (Binary64 × List Char) := do
  let (negative, text) := sign text
  let (whole, rest) ← decimalDigits? text
  let (fraction, rest) ← fraction? rest
  let (exponent, rest) ← exponent? rest
  guard (fraction.isSome || exponent.isSome)
  let places := fraction.getD []
  let number :=
    Binary64.ofDecimal (digitsValue 10 (whole ++ places)) (exponent.getD 0 - places.length)
  guard (negative || !number.isInfinite)
  return (signed negative number, rest)

def float? : Scanner Binary64 := fun text =>
  match decimal? text with
  | some found => some found
  | none => named? text

end HostBridge.Numeral
