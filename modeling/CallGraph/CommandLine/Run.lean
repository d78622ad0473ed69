import CallGraph.CommandLine.Command
import CallGraph.Extraction
import CallGraph.Settings.File
/-!
# Carrying out a command line

From arguments and files to a response and the files afterwards.
-/

namespace CallGraph.CommandLine

/-- How a command line ends. -/
inductive Response
  | rejected (reason : Rejection)
  /-- with a line to print, or none -/
  | done (line : Option String)
  /-- while doing something that is worth to be named, or not -/
  | failed (doing : Option String) (cause : Failure)

/-- The exit code: 2 for a command line that cannot be read, 1 for a command that fails. Who asks for help or for the
version gets it. -/
def Response.exitCode : Response → UInt32
  | rejected .helpWanted | rejected .versionWanted | done _ => 0
  | failed .. => 1
  | rejected _ => 2

/-- What is reported of a failure: a line for each thing that failed, the outermost first. -/
def Response.complaint : Response → List String
  | failed doing cause => doing.toList ++ [cause.message]
  | rejected reason => if reason.message.isEmpty then [] else [reason.message]
  | done _ => []

/-- What is printed. -/
def Response.output : Response → String
  | done (some line) => line ++ "\n"
  | _ => ""

def extract (files : FileTree) (timing : Timing) (s : Settings) (jars graph output : String) : Response × FileTree :=
  match s.check with
  | .error cause => (.failed none cause, files)
  | .ok s =>
    match Extraction.run s (.ofSnapshot graph) timing files jars output with
    | (.error cause, files) => (.failed (some ("Extraction to " ++ output ++ " failed")) cause, files)
    | (.ok _, files) => (.done none, files)

def initConfig (files : FileTree) (s : Settings) (path : Option String) (force : Bool) : Response × FileTree :=
  match s.check with
  | .error cause => (.failed none cause, files)
  | .ok s =>
    match s.saveNew files path force with
    | (.error cause, files) => (.failed none cause, files)
    | (.ok path, files) => (.done (some ("Wrote " ++ path)), files)

/-- Carries out what was asked for. -/
def Invocation.execute (i : Invocation) (files : FileTree) (timing : Timing) : Response × FileTree :=
  match Settings.loadOrDefault files i.settingsPath with
  | .error cause => (.failed (some "Failed to load configuration") cause, files)
  | .ok s =>
    match i.command with
    | .extract jars graph output overrides => extract files timing (overrides.apply s) jars graph output
    | .initConfig path force => initConfig files s path force

/-- Reads a command line and carries it out. -/
def run (files : FileTree) (timing : Timing) (args : List String) : Response × FileTree :=
  match Invocation.ofArguments args with
  | .error reason => (.rejected reason, files)
  | .ok i => i.execute files timing

end CallGraph.CommandLine
