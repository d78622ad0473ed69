import CallGraph.Inputs
import CallGraph.Snapshot.Replay
/-!
# Engines

An engine builds the graph of a program. It reads files but changes none, and from time to time asks whether to stop.
`Engine.ofSnapshot` is the engine that replays a recorded graph.
-/

namespace CallGraph

/-- What an engine is asked for. -/
structure Request where
  artifacts : List String
  exclusions : List Exclusion
  options : Settings.Analysis

/-- Whether a class is left out of the graph. -/
def Request.excludes (r : Request) (className : String) : Bool := Exclusions.excludes r.exclusions className

/-- How the work of an engine ends. -/
inductive Build
  | graph (outcome : Outcome)
  | failed (cause : Failure)
  /-- the engine broke down and has nothing to say -/
  | crashed

/-- The graph, or why there is none. -/
def Build.result : Build → Except Failure Outcome
  | graph outcome => .ok outcome
  | failed cause => .error cause
  | crashed => .error (.noGraph .engineCrashed)

/-- An engine. `stop n` answers the question whether to stop that comes after `n` others. -/
abbrev Engine := (files : FileTree) → Request → (stop : Nat → Bool) → Build

/-- The engine that replays the snapshot in a file, if the options it was recorded with are those asked for. -/
def Engine.ofSnapshot (path : String) : Engine := fun files request stop =>
  match Snapshot.load files path with
  | .error cause => .failed cause
  | .ok snapshot =>
    match snapshot.mismatch? request.options with
    | some fault => .failed (.noGraph fault)
    | none => .graph (snapshot.replay request.excludes request.options.nodeLimit? stop)

end CallGraph
