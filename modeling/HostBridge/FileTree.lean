import HostBridge.Error
import HostBridge.Path

namespace HostBridge

/-- Why a path cannot be followed, or nothing be created at its end. -/
inductive Obstacle where
  | missing
  /-- Something is there already. -/
  | occupied
  /-- The path goes on behind something that is no directory. -/
  | notDirectory
  | directory
  | longName
  /-- No name holds a NUL. -/
  | invalidName
  deriving DecidableEq, Repr

def Obstacle.message : Obstacle → String
  | .missing => "No such file or directory (os error 2)"
  | .occupied => "File exists (os error 17)"
  | .notDirectory => "Not a directory (os error 20)"
  | .directory => "Is a directory (os error 21)"
  | .longName => "File name too long (os error 36)"
  | .invalidName => "file name contained an unexpected NUL byte"

inductive StoredFile where
  | missing
  | unreachable (obstacle : Obstacle)
  | directory
  | content (bytes : ByteArray)

namespace StoredFile

def ofText (text : String) : StoredFile := .content text.toUTF8

def ofObstacle : Obstacle → StoredFile
  | .missing => .missing
  | obstacle => .unreachable obstacle

def read : StoredFile → Except Error (Option String)
  | .missing => .ok none
  | .unreachable obstacle => .error (.io obstacle.message)
  | .directory => .error (.io Obstacle.directory.message)
  | .content bytes =>
    match String.fromUTF8? bytes with
    | some text => .ok (some text)
    | none => .error (.io "stream did not contain valid UTF-8")

end StoredFile

structure FileTree where
  entries : List (List String × StoredFile)

namespace FileTree

/-- What the names lead to; the root itself is a directory. -/
def entry (tree : FileTree) (names : List String) : StoredFile :=
  if names.isEmpty then .directory else (tree.entries.lookup names).getD .missing

/-- The names that a name leads to from a directory; a dot stays there, and two dots lead back. -/
def step (directory : List String) (name : String) : Except Obstacle (List String) :=
  if name == "" || name == "." then .ok directory
  else if name == ".." then .ok directory.dropLast
  else if 255 < name.utf8ByteSize then .error .longName
  else .ok (directory ++ [name])

/-- Follows the names of a path from a directory. There need be nothing at the end of the path. -/
def follow (tree : FileTree) (directory : List String) :
    List String → Except Obstacle (List String)
  | [] => .ok directory
  | name :: rest =>
    match tree.entry directory with
    | .directory => (step directory name).bind fun next => tree.follow next rest
    | .content _ => .error .notDirectory
    | .missing | .unreachable _ => .error .missing

def pathLimit : Nat := 4096

/-- Where a path leads; every path starts at the root, and the empty one leads nowhere. -/
def resolve (tree : FileTree) (path : String) : Except Obstacle (List String) :=
  if path.isEmpty then .error .missing
  else if path.toList.contains '\x00' then .error .invalidName
  else if path.utf8ByteSize < pathLimit then tree.follow [] (Path.names path)
  else .error .longName

def file (tree : FileTree) (path : String) : StoredFile :=
  match tree.resolve path with
  | .ok names => tree.entry names
  | .error obstacle => .ofObstacle obstacle

def hasFile (tree : FileTree) (path : String) : Bool :=
  match tree.file path with
  | .content _ => true
  | _ => false

def put (tree : FileTree) (names : List String) (file : StoredFile) : FileTree :=
  ⟨(names, file) :: tree.entries.filter fun entry => entry.1 != names⟩

def write (tree : FileTree) (path : String) (bytes : ByteArray) : Except Obstacle FileTree := do
  let names ← tree.resolve path
  match tree.entry names with
  | .directory => throw .directory
  | _ => return tree.put names (.content bytes)

/-- Creates a directory where there is nothing; slashes at the end of its path do not count. -/
def createDirectory (tree : FileTree) (path : String) : Except Obstacle FileTree := do
  let names ← tree.resolve (Path.trimmed path)
  match tree.entry names with
  | .missing => return tree.put names .directory
  | _ => throw .occupied

/-- Brings about at a path what is to be found there; nothing has to be done for a missing file. -/
def store (tree : FileTree) (path : String) : StoredFile → Except Obstacle FileTree
  | .missing | .unreachable _ => .ok tree
  | .directory => tree.createDirectory path
  | .content bytes => tree.write path bytes

end FileTree

end HostBridge
