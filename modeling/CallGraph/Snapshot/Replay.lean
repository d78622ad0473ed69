import CallGraph.Snapshot.Basic
import Std.Data.HashSet
/-!
# Replaying a snapshot

The graph of a snapshot, less the methods that are excluded. Before each node the token is asked whether to stop; a node
beyond the bound stops the replay as well. Whatever the cut, targets that were not reached are dropped, so the graph is
sound as far as it goes.
-/

namespace CallGraph

/-- Whether a graph is whole, and what cut it short. -/
inductive Completeness
  | complete
  | cancelled
  | limited (bound : Nat)
  deriving DecidableEq, Repr, Inhabited

/-- Why a graph is not whole. -/
def Completeness.reason? : Completeness → Option String
  | complete => none
  | cancelled => some "graph construction was cancelled"
  | limited bound => some s!"node limit of {bound} reached"

structure Outcome where
  graph : Graph
  completeness : Completeness

namespace Snapshot

/-- The ids of the methods whose class is excluded. -/
def excludedIds (s : Snapshot) (excludes : String → Bool) : Std.HashSet MethodId :=
  .ofList ((s.methods.filter fun m => excludes m.signature.declaringClass).map (·.id))

/-- Adds nodes to `g`; `asked` is how often the token was asked before. -/
def addNodes (excluded : MethodId → Bool) (limit : Option Nat) (poll : Nat → Bool) (asked : Nat) :
    List Node → Graph → Outcome
  | [], g => ⟨g, .complete⟩
  | n :: rest, g =>
    if poll asked then ⟨g, .cancelled⟩
    else if excluded n.method then addNodes excluded limit poll (asked + 1) rest g
    else match limit with
      | some bound =>
        if bound ≤ g.nodeCount then ⟨g, .limited bound⟩
        else addNodes excluded limit poll (asked + 1) rest (g.addNode n)
      | none => addNodes excluded limit poll (asked + 1) rest (g.addNode n)

/-- The graph of a snapshot, of at most `limit` nodes and without the classes in `excludes`. -/
def replay (s : Snapshot) (excludes : String → Bool) (limit : Option Nat) (poll : Nat → Bool) : Outcome :=
  let excluded := s.excludedIds excludes
  let methods := (s.methods.filter fun m => !excluded.contains m.id).foldl Graph.addMethod .empty
  let outcome := addNodes excluded.contains limit poll 0 s.nodes methods
  { outcome with graph := outcome.graph.prune }

end Snapshot

end CallGraph
