import HostBridge.Document.Lookup
import HostBridge.Document.Overlay
import HostBridge.Document.Reader
import HostBridge.FileTree
import HostBridge.Settings.Shape

namespace HostBridge

structure Configuration where
  settings : Settings
  /-- The whole document, with the tables of others. -/
  document : Table

namespace Configuration

def initial : Configuration := ⟨{}, []⟩

instance : Inhabited Configuration := ⟨initial⟩

def ofDocument (path : String) (document : Table) : Except Error Configuration :=
  match Settings.ofDocument document with
  | .ok settings => .ok ⟨settings, document⟩
  | .error fault => .error (.config path fault.message)

def readDocument (path text : String) : Except Error Table :=
  match Reader.document? text with
  | some document => .ok document
  | none => .error (.config path "syntax")

def parse (text : String) : Except Error Configuration := do
  let path := "<inline>"
  ofDocument path (← readDocument path text)

def readFile? (path : String) (file : StoredFile) : Except Error (Option Table) := do
  match ← file.read with
  | none => return none
  | some text =>
    let document ← readDocument path text
    discard (ofDocument path document)
    return some document

def addFile (document : Table) (path : String) (file : StoredFile) : Except Error Table := do
  match ← readFile? path file with
  | none => return document
  | some incoming => return Table.overlay document incoming

def load (basePath : String) (base : StoredFile) (userPath : String) (user : StoredFile) :
    Except Error Configuration := do
  let document ← addFile [] basePath base
  let document ← addFile document userPath user
  ofDocument userPath document

/-- Equality of settings and documents; a document with a NaN differs from itself. -/
def equals (left right : Configuration) : Bool :=
  left.settings == right.settings && Value.equalsEntries left.document right.document

def get? (configuration : Configuration) (key : String) : Option Value :=
  Table.get? configuration.document key

def string? (configuration : Configuration) (key : String) : Option String :=
  (configuration.get? key).bind Value.string?

def integer? (configuration : Configuration) (key : String) : Option Int64 :=
  (configuration.get? key).bind Value.integer?

def boolean? (configuration : Configuration) (key : String) : Option Bool :=
  (configuration.get? key).bind Value.boolean?

end Configuration

end HostBridge
