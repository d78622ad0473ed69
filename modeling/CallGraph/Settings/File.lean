import CallGraph.Files.Tree
import CallGraph.Settings.Check
import CallGraph.Settings.Document
import CallGraph.Toml.Reader
import CallGraph.Toml.Writer
/-!
# Settings files

Loading settings from a file and saving them to one. A run without a settings file of its own looks for one in the
working directory and goes on with the defaults if there is none. Settings whose numbers do not fit a TOML integer
cannot be saved, and then no file changes.
-/

namespace CallGraph.Settings

/-- The settings in a file. -/
def load (files : FileTree) (path : String) : Except Failure Settings :=
  match files.readText path with
  | .error fault => .error (.files fault)
  | .ok text =>
    match (Toml.ofText? text).bind ofToml? with
    | some s => .ok s
    | none => .error (.misconfigured .settingsUnreadable)

/-- The name of a new settings file. -/
def standardPath : String := "cgextract.toml"

/-- The settings files a run looks for, in order. -/
def standardPaths : List String := [standardPath, ".cgextract.toml"]

/-- The settings in the given file, else in the first of the standard files that is there, else the defaults. -/
def loadOrDefault (files : FileTree) : Option String → Except Failure Settings
  | some path => if files.has path then load files path else .error (.misconfigured (.settingsMissing path))
  | none =>
    match standardPaths.find? files.has with
    | some path => load files path
    | none => .ok {}

/-- Saves settings; also gives the files afterwards. -/
def save (s : Settings) (files : FileTree) (path : String) : Except Failure Unit × FileTree :=
  match s.document.text? with
  | none => (.error (.misconfigured .settingsUnwritable), files)
  | some text =>
    match files.write path text.toUTF8 with
    | (.error fault, files) => (.error (.files fault), files)
    | (.ok (), files) => (.ok (), files)

/-- Saves settings as a new file, or over an old one if `force` allows it; gives the path of the file. -/
def saveNew (s : Settings) (files : FileTree) (path : Option String) (force : Bool) :
    Except Failure String × FileTree :=
  let path := path.getD standardPath
  if files.has path && !force then (.error (.misconfigured (.settingsPresent path)), files)
  else
    match s.save files path with
    | (.error failure, files) => (.error failure, files)
    | (.ok (), files) => (.ok path, files)

end CallGraph.Settings
