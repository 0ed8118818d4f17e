namespace HostBridge

inductive Level where
  | error
  | warn
  | info
  | debug
  | trace
  deriving DecidableEq, Repr

namespace Level

def all : List Level := [.error, .warn, .info, .debug, .trace]

def name : Level → String
  | .error => "ERROR"
  | .warn => "WARN"
  | .info => "INFO"
  | .debug => "DEBUG"
  | .trace => "TRACE"

/-- The number of the level, from 1 for the least verbose one. -/
def verbosity : Level → Nat
  | .error => 1
  | .warn => 2
  | .info => 3
  | .debug => 4
  | .trace => 5

def passes (level threshold : Level) : Bool :=
  level.verbosity ≤ threshold.verbosity

def ofVerbosity? (number : Nat) : Option Level :=
  all.find? fun level => level.verbosity == number

def ofName? (text : String) : Option Level :=
  all.find? fun level => level.name == text

def decimal (digits : List Char) : Nat :=
  digits.foldl (fun value digit => 10 * value + (digit.toNat - '0'.toNat)) 0

/-- An unsigned decimal numeral, with an optional plus sign and any leading zeros. -/
def numeral? (text : List Char) : Option Nat :=
  let digits := match text with
    | '+' :: rest => rest
    | _ => text
  if digits.isEmpty || digits.any (!·.isDigit) then none else some (decimal digits)

/-- A level by its number, or by its name in either case. -/
def parse? (text : String) : Option Level :=
  match (numeral? text.toList).bind ofVerbosity? with
  | some level => some level
  | none => ofName? text.toUpper

end Level

end HostBridge
