import CallGraph.Files.Tree
/-!
# Scanning a directory

All paths below a directory that lead to regular files, links followed. A link that leads nowhere fails the scan, as does
one that leads back to a directory on the way to it, and a directory whose path the system does not take.
-/

namespace CallGraph

/-- A directory that a scan came to, under the path `path` and through the directories `above`. -/
structure Visit where
  above : List Location
  place : Location
  path : String

/-- What a scan finds under a name. -/
inductive Finding
  | file
  | directory (place : Location)
  /-- neither a file nor a directory -/
  | other
  /-- a link that leads nowhere, or back to a directory on the way -/
  | stuck

/-- The paths of the files that a finding at `path` stands for; `scan` scans a directory. -/
def Finding.paths (path : String) (scan : Location → Option (List String)) : Finding → Option (List String)
  | .file => some [path]
  | .directory place => scan place
  | .other => some []
  | .stuck => none

/-- The visit of the directory `place`, found under a name. -/
def Visit.enter (v : Visit) (name : String) (place : Location) : Visit :=
  ⟨v.place :: v.above, place, Path.join v.path name⟩

namespace FileTree

/-- The names in a directory. -/
def namesIn (t : FileTree) (place : Location) : List String :=
  t.entries.filterMap fun (l, _) =>
    match FileTree.below? place l with
    | some [name] => some name
    | _ => none

def finding (t : FileTree) (v : Visit) (name : String) : Finding :=
  match t.get? (v.place ++ [name]) with
  | some .directory => .directory (v.place ++ [name])
  | some (.file _) => .file
  | some (.link _) =>
    match t.find (Path.join v.path name) with
    | .ok (target, .directory) => if target ∈ v.place :: v.above then .stuck else .directory target
    | .ok (_, .file _) => .file
    | .ok _ => .other
    | .error _ => .stuck
  | _ => .other

/-- The paths of the files below the directory of a visit. A way down meets no link twice, so the square of the number of
entries bounds its length. -/
def scanFrom (t : FileTree) : (fuel : Nat) → Visit → Option (List String)
  | 0, _ => none
  | fuel + 1, v =>
    if (pathFault? v.path).isSome then none
    else ((t.namesIn v.place).mapM fun name =>
      (t.finding v name).paths (Path.join v.path name) fun place => scanFrom t fuel (v.enter name place)).map List.flatten

/-- The paths of all files below the directory at `path`. -/
def scan (t : FileTree) (path : String) : Option (List String) :=
  match t.find path with
  | .ok (place, .directory) => t.scanFrom ((t.entries.length + 1) * (t.entries.length + 1)) ⟨[], place, path⟩
  | _ => none

end FileTree

end CallGraph
