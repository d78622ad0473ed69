import CallGraph.Files.Fault
import CallGraph.Method
import CallGraph.Settings.Basic
/-!
# Failures

Why a run fails. A failure is one of four kinds, each with its causes: the run was set up wrongly
(`Misconfiguration`), there is no sound graph (`GraphFault`), a chunk of output could not be written, or another file
operation failed. `Failure.message` is what the user reads; where a reader of foreign text reports details of its own,
the message ends at the point where they would follow.
-/

namespace CallGraph

inductive Misconfiguration
  | zeroChunkSize
  | zeroSensitivity (policy : Policy)
  | zeroTimeout
  | zeroWriterChunkSize
  | settingsMissing (path : String)
  | settingsUnreadable
  | settingsUnwritable
  | settingsPresent (path : String)
  | noArtifacts
  | noJars (directory : String)
  | directoryUnreadable
  | artifactMissing (path : String)
  | archiveMissing (path : String)
  | archiveUnreadable (path : String)
  | exclusionsUnreadable (path : String) (cause : FileFault)
  | badPattern (pattern : String)
  | snapshotUnreadable (path : String) (cause : FileFault)
  deriving DecidableEq, Repr

/-- An option whose value differs between a recorded graph and the request for one. -/
structure OptionMismatch where
  option : String
  built : String
  requested : String
  deriving DecidableEq, Repr

def OptionMismatch.text (m : OptionMismatch) : String :=
  m.option ++ " (built " ++ m.built ++ ", requested " ++ m.requested ++ ")"

inductive GraphFault
  | repeatedMethod (id : MethodId)
  | repeatedNode (id : NodeId)
  | missingMethod (node : NodeId) (method : MethodId)
  | missingTarget (site : String) (node target : NodeId)
  | malformedSnapshot (path : String)
  | otherPolicy (built requested : Policy)
  | otherSensitivity (built requested : UInt32)
  | otherOptions (mismatches : List OptionMismatch)
  /-- the engine gave up, with a message of its own -/
  | engine (message : String)
  /-- the engine broke down -/
  | engineCrashed
  deriving DecidableEq, Repr

inductive Failure
  | misconfigured (cause : Misconfiguration)
  | noGraph (cause : GraphFault)
  | chunk (index : Nat) (path : String) (cause : FileFault)
  | files (cause : FileFault)
  deriving DecidableEq, Repr

def Misconfiguration.message : Misconfiguration → String
  | zeroChunkSize => "output.chunk_size must be at least 1"
  | zeroSensitivity policy => s!"policy {policy.name} needs a sensitivity of at least 1"
  | zeroTimeout => "analysis.timeout_ms must be positive"
  | zeroWriterChunkSize => "chunk size must be at least 1"
  | settingsMissing path => s!"config file {path} does not exist"
  | settingsUnreadable | settingsUnwritable | directoryUnreadable => ""
  | settingsPresent path => s!"{path} already exists, pass --force to overwrite"
  | noArtifacts => "no input artifacts given"
  | noJars directory => s!"no .jar files found in {directory}"
  | artifactMissing path => s!"input artifact {path} does not exist"
  | archiveMissing path => s!"archive {path} does not exist"
  | archiveUnreadable path => s!"cannot read archive {path}: "
  | exclusionsUnreadable path cause => s!"cannot read exclusions {path}: {cause.message}"
  | badPattern pattern => s!"bad exclusion pattern '{pattern}': "
  | snapshotUnreadable path cause => s!"cannot open graph snapshot {path}: {cause.message}"

def GraphFault.message : GraphFault → String
  | repeatedMethod id => s!"method id {id.val} appears more than once"
  | repeatedNode id => s!"node id {id.val} appears more than once"
  | missingMethod node method => s!"node {node.val} refers to missing method {method.val}"
  | missingTarget site node target => s!"call site '{site}' in node {node.val} targets missing node {target.val}"
  | malformedSnapshot path => s!"malformed graph snapshot {path}: "
  | otherPolicy built requested => s!"snapshot was built with policy {built.name} but {requested.name} was requested"
  | otherSensitivity built requested => s!"snapshot was built with sensitivity {built} but {requested} was requested"
  | otherOptions mismatches =>
    "snapshot was built with different engine options: " ++ Text.join ", " (mismatches.map OptionMismatch.text)
  | engine message => message
  | engineCrashed => "construction task failed: "

def Failure.message : Failure → String
  | misconfigured cause => "Configuration error: " ++ cause.message
  | noGraph cause => "Graph construction failed: " ++ cause.message
  | chunk index path cause => s!"Failed to write output chunk {index} to {path}: {cause.message}"
  | files cause => "IO error: " ++ cause.message

end CallGraph
