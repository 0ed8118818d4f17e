namespace HostBridge

abbrev Scanner (α : Type) := List Char → Option (α × List Char)

namespace Scan

def isBlank (c : Char) : Bool := c == ' ' || c == '\t'

/-- Characters that a document may hold on a line: a tab, and all that are no ASCII controls. -/
def isPrintable (c : Char) : Bool := c == '\t' || (' ' ≤ c && c != '\x7F')

def isBinaryDigit (c : Char) : Bool := c == '0' || c == '1'

def isOctalDigit (c : Char) : Bool := '0' ≤ c && c ≤ '7'

def isHexDigit (c : Char) : Bool :=
  c.isDigit || ('a' ≤ c && c ≤ 'f') || ('A' ≤ c && c ≤ 'F')

def digitValue (c : Char) : Nat :=
  if c.isDigit then c.toNat - '0'.toNat
  else if 'a' ≤ c then c.toNat - 'a'.toNat + 10
  else c.toNat - 'A'.toNat + 10

def digitsValue (base : Nat) (digits : List Char) : Nat :=
  digits.foldl (fun value digit => base * value + digitValue digit) 0

def skipBlanks (text : List Char) : List Char :=
  text.dropWhile isBlank

def newline? : List Char → Option (List Char)
  | '\n' :: rest => some rest
  | '\r' :: '\n' :: rest => some rest
  | _ => none

def skipComment : List Char → List Char
  | '#' :: rest => rest.dropWhile isPrintable
  | text => text

/-- The text after the end of a line that holds nothing more than a comment. -/
def lineEnd? (text : List Char) : Option (List Char) :=
  match skipComment (skipBlanks text) with
  | [] => some []
  | rest => newline? rest

/-- Skips blanks, comments and line breaks, at most `fuel` lines of them. -/
def skipLines : Nat → List Char → Option (List Char)
  | 0, text => some text
  | fuel + 1, text =>
    match skipBlanks text with
    | '#' :: rest => (newline? (rest.dropWhile isPrintable)).bind (skipLines fuel)
    | '\n' :: rest => skipLines fuel rest
    | '\r' :: rest => (newline? ('\r' :: rest)).bind (skipLines fuel)
    | rest => some rest

/-- The digits of a run in which single underscores may stand between two digits. -/
def digitsAfter (isDigit : Char → Bool) : List Char → List Char × List Char
  | '_' :: c :: rest =>
    if isDigit c then
      let (digits, rest) := digitsAfter isDigit rest
      (c :: digits, rest)
    else ([], '_' :: c :: rest)
  | c :: rest =>
    if isDigit c then
      let (digits, rest) := digitsAfter isDigit rest
      (c :: digits, rest)
    else ([], c :: rest)
  | [] => ([], [])

def digits? (isDigit : Char → Bool) : Scanner (List Char)
  | c :: rest =>
    if isDigit c then
      let (digits, rest) := digitsAfter isDigit rest
      some (c :: digits, rest)
    else none
  | [] => none

def fixedDigits? (width : Nat) : Scanner Nat := fun text =>
  let digits := text.take width
  if digits.length == width && digits.all Char.isDigit then
    some (digitsValue 10 digits, text.drop width)
  else none

def char? (c : Char) : List Char → Option (List Char)
  | c' :: rest => if c == c' then some rest else none
  | [] => none

def word? (word text : List Char) : Option (List Char) :=
  if word.isPrefixOf text then some (text.drop word.length) else none

end Scan

end HostBridge
