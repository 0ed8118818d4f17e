import HostBridge.Document.Scan

/-!
# Quoted text in documents

Basic strings have escapes, literal strings have none; both come on one line or, in triple quotes,
on several. In the long forms a line break right after the opening quotes is dropped, up to two
quotes may precede the closing ones, and a line break in a basic string may be escaped together
with all blank space after it.
-/

namespace HostBridge.Quoted

open Scan

def quote : Char := '"'

def apostrophe : Char := '\''

/-- The character of a number, unless it is a surrogate or too large. -/
def scalar? (number : Nat) : Option Char :=
  if number.isValidChar then some (Char.ofNat number) else none

def hexEscape? (width : Nat) : Scanner Char := fun text => do
  let digits := text.take width
  guard (digits.length == width && digits.all isHexDigit)
  return (← scalar? (digitsValue 16 digits), text.drop width)

/-- The character of an escape, read after the backslash. -/
def escape? : Scanner Char
  | 'b' :: rest => some ('\x08', rest)
  | 't' :: rest => some ('\t', rest)
  | 'n' :: rest => some ('\n', rest)
  | 'f' :: rest => some ('\x0C', rest)
  | 'r' :: rest => some ('\r', rest)
  | '"' :: rest => some ('"', rest)
  | '\\' :: rest => some ('\\', rest)
  | 'u' :: rest => hexEscape? 4 rest
  | 'U' :: rest => hexEscape? 8 rest
  | _ => none

/-- A basic string on one line as it is written, read after its opening quote. A character after a
backslash never closes it. -/
def basicBody? : Scanner (List Char)
  | '\\' :: c :: rest => (basicBody? rest).map fun (body, rest) => ('\\' :: c :: body, rest)
  | c :: rest =>
    if c == quote then some ([], rest)
    else if isPrintable c then (basicBody? rest).map fun (body, rest) => (c :: body, rest)
    else none
  | [] => none

/-- The text that is written with escapes, in no more than `fuel` characters. -/
def unescape? : Nat → List Char → Option (List Char)
  | _, [] => some []
  | 0, _ => none
  | fuel + 1, '\\' :: rest => do
    let (escaped, rest) ← escape? rest
    return escaped :: (← unescape? fuel rest)
  | fuel + 1, c :: rest => (unescape? fuel rest).map (c :: ·)

def basicRest? : Scanner (List Char) := fun text => do
  let (body, rest) ← basicBody? text
  return (← unescape? body.length body, rest)

def literalRest? : Scanner (List Char)
  | c :: rest =>
    if c == apostrophe then
      some ([], rest)
    else if isPrintable c then do
      let (text, rest) ← literalRest? rest
      return (c :: text, rest)
    else none
  | [] => none

/-- The closing quotes of a long string and the quotes of the text right before them. -/
def closing? (mark : Char) (text : List Char) : Option (List Char × List Char) :=
  let quotes := text.takeWhile (· == mark)
  if quotes.length < 3 then none
  else
    let count := min quotes.length 5
    some (List.replicate (count - 3) mark, text.drop count)

def skipSpace : List Char → List Char
  | '\n' :: rest => skipSpace rest
  | '\r' :: '\n' :: rest => skipSpace rest
  | c :: rest => if isBlank c then skipSpace rest else c :: rest
  | [] => []

/-- The rest of a long string; only in a basic one does a backslash escape. -/
def longRest? (mark : Char) : Nat → Scanner (List Char)
  | fuel + 1, c :: rest =>
    match closing? mark (c :: rest) with
    | some found => some found
    | none => do
      let (piece, rest) ←
        if c == '\\' && mark == quote then
          if (newline? (skipBlanks rest)).isSome then some ([], skipSpace rest)
          else (escape? rest).map fun (escaped, rest) => ([escaped], rest)
        else if isPrintable c then some ([c], rest)
        else (newline? (c :: rest)).map (['\n'], ·)
      let (text, rest) ← longRest? mark fuel rest
      return (piece ++ text, rest)
  | _, _ => none

def long? (mark : Char) : Scanner (List Char) := fun text =>
  let body := (newline? text).getD text
  longRest? mark (body.length + 1) body

def short? : Scanner (List Char)
  | c :: rest =>
    if c == quote then basicRest? rest
    else if c == apostrophe then literalRest? rest
    else none
  | [] => none

def string? : Scanner (List Char) := fun text =>
  match word? [quote, quote, quote] text, word? [apostrophe, apostrophe, apostrophe] text with
  | some rest, _ => long? quote rest
  | _, some rest => long? apostrophe rest
  | none, none => short? text

end HostBridge.Quoted
