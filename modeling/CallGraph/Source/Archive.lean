import CallGraph.Failure
import CallGraph.Files.Tree
import CallGraph.Zip.Directory
/-!
# Source archives

Places where source files are looked up: zip archives and directories. An archive lists its entries by names with slashes
between directories, and gives the text of an entry by its name. `findEntry?` says which name belongs to a source file.
-/

namespace CallGraph

inductive Archive
  | zip (path : String)
  | directory (path : String)
  deriving DecidableEq, Repr

/-- Why an archive cannot be listed, or an entry not be read. -/
inductive EntryFault
  | files (cause : FileFault)
  /-- the archive is no zip file, or the entry is none that can be read -/
  | unusable
  /-- the data of the entry are damaged -/
  | corrupt
  deriving DecidableEq, Repr

namespace Archive

/-- The bytes and members of the zip file at a path. -/
def openZip (t : FileTree) (path : String) : Except EntryFault (ByteArray × List Zip.Member) :=
  match t.find path with
  | .error fault => .error (.files fault)
  | .ok (_, .file data) =>
    match Zip.members? data with
    | some members => .ok (data, members)
    | none => .error .unusable
  | .ok _ => .error .unusable

/-- Checks that a path leads to a zip file. -/
def checkZip (t : FileTree) (path : String) : Except Failure Unit :=
  match openZip t path with
  | .ok _ => .ok ()
  | .error _ => .error (.misconfigured (.archiveUnreadable path))

/-- The archive at a path, which must be a directory or a zip file. -/
def ofPath (t : FileTree) (path : String) : Except Failure Archive :=
  if t.isDirectory path then .ok (.directory path)
  else if t.isFile path then (checkZip t path).map fun _ => .zip path
  else .error (.misconfigured (.archiveMissing path))

/-- The regular files below a directory, by their names from there. Links are not followed. -/
def filesBelow (t : FileTree) (root : Location) : List String :=
  t.entries.filterMap fun
    | (l, .file _) => (FileTree.below? root l).map (Text.join "/")
    | _ => none

/-- Why the directories below a directory cannot all be read: the path of one of them, seen from `path`, is none that the
system takes. -/
def fault? (t : FileTree) (root : Location) (path : String) : Option FileFault :=
  t.entries.findSome? fun
    | (l, .directory) =>
      (FileTree.below? root l).bind fun names => FileTree.pathFault? (Path.join path (Text.join "/" names))
    | _ => none

/-- The names of the entries that are files; those of a directory in ascending order. -/
def entryNames (t : FileTree) : Archive → Except EntryFault (List String)
  | zip path =>
    (openZip t path).map fun (_, members) =>
      ((members.map (·.name)).filter (!Path.endsWithSlash ·)).eraseDups
  | directory path =>
    match t.find path with
    | .error fault => .error (.files fault)
    | .ok (root, .directory) =>
      match fault? t root path with
      | some fault => .error (.files fault)
      | none => .ok ((filesBelow t root).mergeSort fun a b => decide (a ≤ b))
    | .ok _ => .ok []

/-- The text of an entry. In a zip file a name used twice means the later member. -/
def readEntry (t : FileTree) (name : String) : Archive → Except EntryFault String
  | zip path =>
    match openZip t path with
    | .error fault => .error fault
    | .ok (data, members) =>
      match members.reverse.find? (·.name = name) with
      | none => .error .unusable
      | some m =>
        match m.content data with
        | .error .unusable => .error .unusable
        | .error .corrupt => .error .corrupt
        | .ok bytes =>
          match String.fromUTF8? bytes with
          | some text => .ok text
          | none => .error (.files .notText)
  | directory path =>
    match t.readText (Path.join path name) with
    | .ok text => .ok text
    | .error fault => .error (.files fault)

/-- The entry that holds the source file `candidate`: one of that very name, or else the first one that has it below
some source root. A file of the default package is only found at the top, for below a directory its package is
another. -/
def findEntry? (names : List String) (candidate : String) : Option String :=
  match names.find? (· = candidate) with
  | some name => some name
  | none =>
    if candidate.toList.contains '/' then names.find? fun name => ('/' :: candidate.toList).isSuffixOf name.toList
    else none

end Archive

end CallGraph
