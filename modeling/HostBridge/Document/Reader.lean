import HostBridge.Document.Moment
import HostBridge.Document.Numeral
import HostBridge.Document.Quoted
import HostBridge.Document.Tree

/-!
# Reading documents

A document is a TOML text: a sequence of statements, one a line, each of them a header, a header of
an array of tables, or an assignment. The statements are read first and then carried out on an empty
tree.
-/

namespace HostBridge

/-- A dotted key: the last key and those before it. -/
structure DottedKey where
  path : List String
  last : String
  deriving DecidableEq, Repr

namespace DottedKey

def keys (key : DottedKey) : List String :=
  key.path ++ [key.last]

def ofList? (keys : List String) : Option DottedKey :=
  keys.getLast?.map fun last => ⟨keys.dropLast, last⟩

end DottedKey

inductive Statement where
  | header (key : DottedKey)
  | element (key : DottedKey)
  | assign (key : DottedKey) (value : Node)

namespace Reader

open Scan

/-- Values nest less deep than this, and keys have fewer pieces. -/
def nestingLimit : Nat := 80

def isKeyChar (c : Char) : Bool := c.isAlphanum || c == '-' || c == '_'

def simpleKey? (text : List Char) : Option (String × List Char) :=
  match Quoted.short? text with
  | some (key, rest) => some (String.ofList key, rest)
  | none =>
    let key := text.takeWhile isKeyChar
    if key.isEmpty then none else some (String.ofList key, text.dropWhile isKeyChar)

/-- Pieces of a key with dots between them; blanks around a piece do not count. -/
def keyPieces? : Nat → Scanner (List String)
  | 0, _ => none
  | fuel + 1, text => do
    let (key, rest) ← simpleKey? (skipBlanks text)
    match skipBlanks rest with
    | '.' :: rest =>
      let (keys, rest) ← keyPieces? fuel rest
      return (key :: keys, rest)
    | rest => return ([key], rest)

def dottedKey? : Scanner DottedKey := fun text => do
  let (keys, rest) ← keyPieces? (nestingLimit - 1) text
  return (← DottedKey.ofList? keys, rest)

def plain? (text : List Char) : Option (Value × List Char) :=
  match Quoted.string? text with
  | some (found, rest) => some (.string (String.ofList found), rest)
  | none =>
    match Moment.datetime? text with
    | some (found, rest) => some (.datetime found, rest)
    | none =>
      match Numeral.float? text with
      | some (found, rest) => some (.float found, rest)
      | none =>
        match Numeral.integer? text with
        | some (found, rest) => some (.integer found, rest)
        | none =>
          match word? ['t', 'r', 'u', 'e'] text with
          | some rest => some (.boolean true, rest)
          | none =>
            (word? ['f', 'a', 'l', 's', 'e'] text).map fun rest => (.boolean false, rest)

def leaf? : Scanner Node := fun text =>
  (plain? text).map fun (value, rest) => (.leaf value, rest)

/-- The elements of an array and its closing bracket; fewer than `fuel` characters remain. -/
def elements? (value? : Nat → Scanner Node) : Nat → Scanner (List Node)
  | 0, _ => none
  | fuel + 1, text => do
    let text ← skipLines fuel text
    match text with
    | ']' :: rest => return ([], rest)
    | text =>
      let (value, rest) ← value? fuel text
      match ← skipLines fuel rest with
      | ',' :: rest =>
        let (values, rest) ← elements? value? fuel rest
        return (value :: values, rest)
      | ']' :: rest => return ([value], rest)
      | _ => none

/-- The assignments of an inline table, at least one, and its closing brace; fewer than `fuel`
characters remain. -/
def assignments? (value? : Nat → Scanner Node) (branch : Branch) : Nat → Scanner Branch
  | 0, _ => none
  | fuel + 1, text => do
    let (key, rest) ← dottedKey? text
    let rest ← char? '=' rest
    let (value, rest) ← value? fuel (skipBlanks rest)
    let branch ← branch.assign key.path key.last value
    match skipBlanks rest with
    | ',' :: rest => assignments? value? branch fuel rest
    | '\x7D' :: rest => return (branch, rest)
    | _ => none

/-- A value in which no more than `depth` arrays and inline tables enclose one another; no more than
`fuel` characters remain. -/
def value? : Nat → Nat → Scanner Node
  | 0, _, text => leaf? text
  | depth + 1, fuel, text =>
    match text with
    | '[' :: rest =>
      (elements? (value? depth) fuel rest).map fun (values, rest) => (.array values, rest)
    | '\x7B' :: rest =>
      match skipBlanks rest with
      | '\x7D' :: rest => some (.table .inline [], rest)
      | _ =>
        (assignments? (value? depth) [] fuel rest).map fun (branch, rest) =>
          (.table .inline branch, rest)
    | _ => leaf? text

/-- An assignment without the end of its line; no more than `fuel` characters remain. -/
def assignment? (fuel : Nat) : Scanner Statement := fun text => do
  let (key, rest) ← dottedKey? text
  let rest ← char? '=' rest
  let (value, rest) ← value? (nestingLimit - 1) fuel (skipBlanks rest)
  return (.assign key value, rest)

/-- A statement without the end of its line; no more than `fuel` characters remain. -/
def statement? (fuel : Nat) : Scanner Statement
  | '[' :: '[' :: rest => do
    let (key, rest) ← dottedKey? rest
    return (.element key, ← word? [']', ']'] rest)
  | '[' :: rest => do
    let (key, rest) ← dottedKey? rest
    return (.header key, ← char? ']' rest)
  | text => assignment? fuel text

/-- The statements of a document, one a line; lines may be empty. Fewer than `fuel` characters
remain. -/
def statements? : Nat → List Char → Option (List Statement)
  | 0, _ => none
  | fuel + 1, text =>
    match skipBlanks text with
    | [] => some []
    | '#' :: rest => (lineEnd? ('#' :: rest)).bind (statements? fuel)
    | '\n' :: rest => statements? fuel rest
    | '\r' :: rest => (newline? ('\r' :: rest)).bind (statements? fuel)
    | text => do
      let (statement, rest) ← statement? fuel text
      let rest ← lineEnd? rest
      return statement :: (← statements? fuel rest)

/-- Carries out statements; `header` is the one in force. -/
def build? (header : List String) (branch : Branch) : List Statement → Option Branch
  | [] => some branch
  | .header key :: rest => do
    build? key.keys (← Branch.atHeader (Branch.openTable key.last) key.path branch) rest
  | .element key :: rest => do
    build? key.keys (← Branch.atHeader (Branch.openElement key.last) key.path branch) rest
  | .assign key value :: rest => do
    build? header (← Branch.atHeader (Branch.assign key.path key.last value) header branch) rest

def document? (text : String) : Option Table := do
  let chars := match text.toList with
    | '\uFEFF' :: rest => rest
    | chars => chars
  Branch.toTable? (← build? [] [] (← statements? (chars.length + 1) chars))

end Reader

end HostBridge
