import CallGraph.Text.Basic
/-!
# Paths

Paths as text: names between slashes. Relative paths start at the working directory. Nothing here looks at files.
-/

namespace CallGraph.Path

def isAbsolute (p : String) : Bool := p.toList.head? == some '/'

def endsWithSlash (p : String) : Bool := p.toList.getLast? == some '/'

/-- What stands between the slashes of a path, empty stretches left out. -/
def names (p : String) : List String :=
  ((p.toList.splitOn '/').filter (!·.isEmpty)).map String.ofList

/-- The steps a lookup takes. A slash at the end asks for a directory, as a final `.` does. -/
def steps (p : String) : List String :=
  if endsWithSlash p then names p ++ ["."] else names p

/-- `p` seen from `base`: absolute paths stay as they are. -/
def join (base p : String) : String :=
  if isAbsolute p || base.isEmpty then p
  else if endsWithSlash base then base ++ p
  else base ++ "/" ++ p

/-- The path with these names. -/
def ofNames (absolute : Bool) (ns : List String) : String :=
  (if absolute then "/" else "") ++ Text.join "/" ns

/-- The names of a path without those that stay in place; a relative path may begin with one. -/
def parts (p : String) : List String :=
  match names p with
  | [] => []
  | n :: rest => (if n = "." && isAbsolute p then [] else [n]) ++ rest.filter (· ≠ ".")

/-- The names of the directory a path lies in; none for the working directory and the root themselves. -/
def parent? (p : String) : Option (List String) :=
  if (parts p).isEmpty then none else some (parts p).dropLast

/-- The order of paths by their names: name by name, and a directory before what is below it. -/
def precedes : List String → List String → Bool
  | [], _ => true
  | _ :: _, [] => false
  | a :: before, b :: after => if a = b then precedes before after else decide (a < b)

/-- The extension of a file name: what follows its last dot, unless that dot is the first character. -/
def extension? (name : String) : Option String :=
  let pieces := name.toList.splitOn '.'
  if pieces.length ≤ 1 || name = ".." || pieces.dropLast = [[]] then none
  else pieces.getLast?.map String.ofList

end CallGraph.Path
