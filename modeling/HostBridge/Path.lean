import HostBridge.Text.Pieces

namespace HostBridge.Path

def isAbsolute (path : String) : Bool :=
  path.toList.head? == some '/'

/-- A path seen from a directory; an absolute one stands for itself. -/
def join (directory path : String) : String :=
  if isAbsolute path then path
  else if directory.isEmpty || directory.toList.getLast? == some '/' then directory ++ path
  else directory ++ "/" ++ path

/-- The names on a path, those between two slashes in a row included. -/
def names (path : String) : List String :=
  (pieces '/' path.toList).map String.ofList

/-- A path without the slashes at its end, unless it is made of slashes alone. -/
def trimmed (path : String) : String :=
  match path.toList.reverse.dropWhile (· == '/') with
  | [] => path
  | rest => String.ofList rest.reverse

end HostBridge.Path
