import CallGraph.Files.Scan
import CallGraph.Pattern.Reader
import CallGraph.Source.Archive
/-!
# Inputs

What a run starts from: the artifacts that were analysed, the classes to leave out, and the archives in which source
files are looked up.
-/

namespace CallGraph

/-! ## Artifacts -/

namespace Artifacts

/-- The parts of a list with colons in between. -/
def parts (spec : String) : List String :=
  ((spec.toList.splitOn ':').filter (!·.isEmpty)).map String.ofList

/-- Whether a path names a jar. -/
def isJar (path : String) : Bool :=
  match (Path.names path).getLast? with
  | some name => Path.extension? name = some "jar"
  | none => false

/-- The jars below a directory in the order of their paths, name by name. -/
def jarsBelow (t : FileTree) (directory : String) : Except Failure (List String) :=
  match t.scan directory with
  | none => .error (.misconfigured .directoryUnreadable)
  | some paths =>
    let jars := paths.filter isJar
    if jars.isEmpty then .error (.misconfigured (.noJars directory))
    else .ok (jars.mergeSort fun a b => Path.precedes (Path.names a) (Path.names b))

/-- The artifacts that a list names, a single directory standing for the jars below it. -/
def named (t : FileTree) (spec : String) : Except Failure (List String) :=
  match parts spec with
  | [] => .error (.misconfigured .noArtifacts)
  | [part] => if t.isDirectory part then jarsBelow t part else .ok [part]
  | several => .ok several

def check (t : FileTree) (path : String) : Except Failure Unit :=
  if t.isFile path then Archive.checkZip t path else .error (.misconfigured (.artifactMissing path))

/-- Checks paths in order. -/
def checkAll (t : FileTree) : List String → Except Failure Unit
  | [] => .ok ()
  | path :: rest =>
    match check t path with
    | .error failure => .error failure
    | .ok () => checkAll t rest

/-- The artifacts that a list names; each is a zip file. -/
def resolve (t : FileTree) (spec : String) : Except Failure (List String) :=
  match named t spec with
  | .error failure => .error failure
  | .ok paths => (checkAll t paths).map fun () => paths

end Artifacts

/-! ## Exclusions -/

/-- A pattern as it was written, and what it means. -/
structure Exclusion where
  text : String
  pattern : Pattern

namespace Exclusions

/-- The patterns in a text: one to a line, but for blank lines and comments. -/
def lines (text : String) : List String :=
  ((Text.lines text.toList).map Text.trim).filterMap fun line =>
    if line.isEmpty || line.head? = some '#' then none else some (String.ofList line)

def read (line : String) : Except Failure Exclusion :=
  match Pattern.ofText? line with
  | some pattern => .ok ⟨line, pattern⟩
  | none => .error (.misconfigured (.badPattern line))

/-- The exclusions in a file; none if there is no file. -/
def load (t : FileTree) : Option String → Except Failure (List Exclusion)
  | none => .ok []
  | some path =>
    match t.readText path with
    | .error cause => .error (.misconfigured (.exclusionsUnreadable path cause))
    | .ok text => (lines text).mapM read

/-- Whether a class is excluded: some pattern is found in its name. -/
def excludes (es : List Exclusion) (className : String) : Bool :=
  es.any fun e => e.pattern.isIn (ClassName.unmarked className)

end Exclusions

/-! ## Archives -/

/-- The archives to search for source files: the artifacts first, then the others, in order. -/
def Archive.searchList (t : FileTree) (artifacts extra : List String) : Except Failure (List Archive) :=
  (artifacts ++ extra).mapM (Archive.ofPath t)

end CallGraph
