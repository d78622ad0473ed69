import CallGraph.CommandLine.Run
/-!
# The program

Loads what a command line names from the disk, carries it out, and writes what has changed. Of a directory that holds
outputs only the directories and links are loaded, so that the way to each output is known.
-/

namespace CallGraph.Main

/-- The location of a path as it is written. -/
def locate (home : Location) (p : String) : Location :=
  (Path.names p).foldl (fun l n => if n = "." then l else if n = ".." then l.dropLast else l ++ [n])
    (if Path.isAbsolute p then [] else home)

/-- Loads the entry at a location and those above it; if `deep`, also what is below it. -/
partial def load (deep : Bool) (l : Location) (files : FileTree) : IO FileTree := do
  if l.isEmpty || (!deep && (files.get? l).isSome) then return files
  let files ← load false l.dropLast files
  let place := (← IO.currentDir) / Path.ofNames true l
  match ← place.symlinkMetadata.toBaseIO with
  | .error _ => return files
  | .ok info =>
    match info.type with
    | .dir =>
      let mut files := files.put l .directory
      if deep then
        for e in ← place.readDir do
          files ← load true (l ++ [e.fileName]) files
      return files
    | .symlink =>
      if (files.get? l).isSome then return files
      let target := toString (← IO.FS.realPath place)
      load deep (Path.names target) (files.put l (.link target))
    | .file | .other => return files.put l (.file (← IO.FS.readBinFile place))

/-- Loads the directories and links next to an output. -/
def loadBeside (l : Location) (files : FileTree) : IO FileTree := do
  let mut files ← load false l.dropLast files
  let place := (← IO.currentDir) / Path.ofNames true l.dropLast
  if ← place.isDir then
    for e in ← place.readDir do
      match (← e.path.symlinkMetadata).type with
      | .dir | .symlink => files ← load false (l.dropLast ++ [e.fileName]) files
      | _ => pure ()
  return files

/-- Loads the files that an invocation reads and the places that it writes to. -/
def loadFor (i : CommandLine.Invocation) : IO FileTree := do
  let home := Path.names (toString (← IO.currentDir))
  let mut files ← load false home { entries := [], home }
  for p in i.settingsPath.toList ++ Settings.standardPaths do
    files ← load true (locate home p) files
  match i.command with
  | .initConfig path _ =>
    let l := locate home (path.getD Settings.standardPath)
    loadBeside l (← load true l files)
  | .extract jars graph output overrides =>
    let s := overrides.apply ((Settings.loadOrDefault files i.settingsPath).toOption.getD {})
    for p in graph :: Artifacts.parts jars ++ s.analysis.exclusions.toList ++ s.resolution.sourceArchives do
      files ← load true (locate home p) files
    loadBeside (locate home output) files

/-- Writes what has changed. -/
def store (before after : FileTree) : IO Unit := do
  for (l, e) in FileTree.newEntries before after do
    let place := (← IO.currentDir) / Path.ofNames true l
    match e with
    | .directory => IO.FS.createDirAll place
    | .file content => IO.FS.writeBinFile place content
    | .link _ | .full => pure ()

/-- Reads a command line and carries it out on the disk. -/
def run (args : List String) : IO CommandLine.Response :=
  match CommandLine.Invocation.ofArguments args with
  | .error reason => return .rejected reason
  | .ok i => do
    let before ← loadFor i
    let (response, after) := i.execute before {}
    store before after
    return response

end CallGraph.Main

def main (args : List String) : IO UInt32 := do
  let response ← CallGraph.Main.run args
  IO.print response.output
  for line in response.complaint do
    IO.eprintln line
  match response with
  | .rejected .versionWanted => IO.println "0.1.0"
  | .rejected .helpWanted | .rejected .nothingGiven => CallGraph.CommandLine.usage.forM IO.println
  | _ => pure ()
  return response.exitCode
