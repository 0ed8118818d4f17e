import HostBridge.Document.Datetime
import HostBridge.Document.Scan

namespace HostBridge.Moment

open Scan

def date? : Scanner Date := fun text => do
  let (year, rest) ← fixedDigits? 4 text
  let rest ← char? '-' rest
  let (month, rest) ← fixedDigits? 2 rest
  let rest ← char? '-' rest
  let (day, rest) ← fixedDigits? 2 rest
  let date : Date := ⟨year, month, day⟩
  guard date.isValid
  return (date, rest)

def nanoseconds? : Scanner Nat
  | '.' :: rest =>
    let digits := rest.takeWhile Char.isDigit
    if digits.isEmpty then none
    else
      let kept := digits.take 9
      some (digitsValue 10 kept * Nat.pow 10 (9 - kept.length), rest.drop digits.length)
  | text => some (0, text)

def time? : Scanner TimeOfDay := fun text => do
  let (hour, rest) ← fixedDigits? 2 text
  let rest ← char? ':' rest
  let (minute, rest) ← fixedDigits? 2 rest
  let rest ← char? ':' rest
  let (second, rest) ← fixedDigits? 2 rest
  let (nanosecond, rest) ← nanoseconds? rest
  let time : TimeOfDay := ⟨hour, minute, second, nanosecond⟩
  guard time.isValid
  return (time, rest)

def offset? : Scanner (Option UtcOffset)
  | c :: rest =>
    if c == 'Z' || c == 'z' then
      some (some .zulu, rest)
    else if c == '+' || c == '-' then do
      let (hours, rest) ← fixedDigits? 2 rest
      let rest ← char? ':' rest
      let (minutes, rest) ← fixedDigits? 2 rest
      guard (hours ≤ 23 && minutes ≤ 59)
      let distance : Int := 60 * hours + minutes
      return (some (.minutes (if c == '-' then -distance else distance)), rest)
    else some (none, c :: rest)
  | [] => some (none, [])

def timeAfterDate? : List Char → Option (TimeOfDay × List Char)
  | c :: rest => if c == 'T' || c == 't' || c == ' ' then time? rest else none
  | [] => none

def datetime? : Scanner Datetime := fun text =>
  match date? text with
  | some (date, rest) =>
    match timeAfterDate? rest with
    | some (time, rest) => do
      let (offset, rest) ← offset? rest
      return (⟨some date, some time, offset⟩, rest)
    | none => some (⟨some date, none, none⟩, rest)
  | none => (time? text).map fun (time, rest) => (⟨none, some time, none⟩, rest)

end HostBridge.Moment
