import CallGraph.Graph
import CallGraph.Json.Reader
import CallGraph.Files.Tree
/-!
# Snapshots

A snapshot is a graph that an analyser recorded, with the policy and options it was built with. It is a JSON document;
what a snapshot leaves out has its default. `mismatch?` says whether it answers a request.
-/

namespace CallGraph

instance : Named InstructionKind where
  all := [.invoke, .new, .other]
  name
    | .invoke => "invoke"
    | .new => "new"
    | .other => "other"

/-- The options a graph was built with. -/
structure RecordedOptions where
  reflection : Reflection
  staticInit : Bool
  zeroLengthArray : Bool
  constantSpecificKeys : Bool
  stacksForLexicalScoping : Bool
  lexicalScopingForGlobals : Bool
  deriving DecidableEq, Repr

/-- The options that a request asks for. -/
def RecordedOptions.ofSettings (a : Settings.Analysis) : RecordedOptions :=
  { reflection := a.reflection, staticInit := a.staticInit, zeroLengthArray := a.zeroLengthArray,
    constantSpecificKeys := a.constantSpecificKeys, stacksForLexicalScoping := a.stacksForLexicalScoping,
    lexicalScopingForGlobals := a.lexicalScopingForGlobals }

/-- Options that are not recorded had their defaults. -/
def RecordedOptions.default : RecordedOptions := .ofSettings {}

structure Snapshot where
  policy : Policy
  sensitivity : UInt32 := 1
  options : RecordedOptions := .default
  methods : List Method := []
  nodes : List Node := []
  deriving DecidableEq, Repr

/-! ## Reading -/

namespace Snapshot

open Json

def signature? (j : Json) : Option Signature :=
  match fields? ["declaring_class", "name", "descriptor"] j with
  | some [c, n, d] => do return ⟨← required text? c, ← required text? n, ← required text? d⟩
  | _ => none

def instruction? (j : Json) : Option Instruction :=
  match fields? ["kind", "site", "offset"] j with
  | some [k, s, o] => do
    return ⟨← required named? k, ← defaulted none (optional? text?) s, ← defaulted none (optional? word?) o⟩
  | _ => none

def lineEntry? (j : Json) : Option LineEntry :=
  match fields? ["start_pc", "line"] j with
  | some [s, l] => do return ⟨← required word? s, ← required word? l⟩
  | _ => none

def method? (j : Json) : Option Method :=
  match fields? ["id", "signature", "synthetic", "instructions", "line_table"] j with
  | some [i, s, y, is, ls] => do
    return ⟨⟨← required word? i⟩, ← required signature? s, ← defaulted false bool? y,
      ← defaulted [] (list? instruction?) is, ← defaulted [] (list? lineEntry?) ls⟩
  | _ => none

def contextEntry? (j : Json) : Option ContextEntry :=
  match fields? ["method", "pc", "site"] j with
  | some [m, p, s] => do return ⟨⟨← required word? m⟩, ← required word? p, ← required text? s⟩
  | _ => none

def context? (j : Json) : Option Context :=
  match fields? ["kind", "entries"] j with
  | some [k, es] => do return .ofKind (← required text? k) (← defaulted [] (list? contextEntry?) es)
  | _ => none

def callSite? (j : Json) : Option CallSite :=
  match fields? ["site", "pc", "targets"] j with
  | some [s, p, ts] => do
    return ⟨← required text? s, ← required word? p, ← defaulted [] (list? fun t => (word? t).map NodeId.mk) ts⟩
  | _ => none

/-- A node without a context is analysed once for all callers. -/
def node? (j : Json) : Option Node :=
  match fields? ["id", "method", "context", "call_sites"] j with
  | some [i, m, c, ss] => do
    let context ← defaulted none (optional? context?) c
    return ⟨⟨← required word? i⟩, ⟨← required word? m⟩, context.getD .everywhere,
      ← defaulted [] (list? callSite?) ss⟩
  | _ => none

def options? (j : Json) : Option RecordedOptions :=
  let d := RecordedOptions.default
  match fields? ["reflection", "handle_static_init", "handle_zero_length_array", "use_constant_specific_keys",
      "use_stacks_for_lexical_scoping", "use_lexical_scoping_for_globals"] j with
  | some [r, i, z, k, s, g] => do
    return ⟨← defaulted d.reflection named? r, ← defaulted d.staticInit bool? i, ← defaulted d.zeroLengthArray bool? z,
      ← defaulted d.constantSpecificKeys bool? k, ← defaulted d.stacksForLexicalScoping bool? s,
      ← defaulted d.lexicalScopingForGlobals bool? g⟩
  | _ => none

def ofJson? (j : Json) : Option Snapshot :=
  match fields? ["policy", "sensitivity", "options", "methods", "nodes"] j with
  | some [p, s, o, ms, ns] => do
    return ⟨← required named? p, ← defaulted 1 word? s, ← defaulted .default options? o,
      ← defaulted [] (list? method?) ms, ← defaulted [] (list? node?) ns⟩
  | _ => none

/-- The snapshot in a file. -/
def load (t : FileTree) (path : String) : Except Failure Snapshot :=
  match t.find path with
  | .error cause => .error (.misconfigured (.snapshotUnreadable path cause))
  | .ok (_, .file content) =>
    match (Json.ofBytes? content).bind ofJson? with
    | some s => .ok s
    | none => .error (.noGraph (.malformedSnapshot path))
  | .ok _ => .error (.noGraph (.malformedSnapshot path))

/-! ## Fitness for a request -/

end Snapshot

/-- The options that differ from the requested ones. -/
def RecordedOptions.mismatches (built requested : RecordedOptions) : List OptionMismatch :=
  let flag (name : String) (b r : Bool) : List OptionMismatch := if b = r then [] else [⟨name, toString b, toString r⟩]
  (if built.reflection = requested.reflection then []
    else [⟨"reflection", built.reflection.title, requested.reflection.title⟩]) ++
  flag "handle_static_init" built.staticInit requested.staticInit ++
  flag "handle_zero_length_array" built.zeroLengthArray requested.zeroLengthArray ++
  flag "use_constant_specific_keys" built.constantSpecificKeys requested.constantSpecificKeys ++
  flag "use_stacks_for_lexical_scoping" built.stacksForLexicalScoping requested.stacksForLexicalScoping ++
  flag "use_lexical_scoping_for_globals" built.lexicalScopingForGlobals requested.lexicalScopingForGlobals

/-- Why a snapshot does not answer a request, if it does not: its policy, the depth of its contexts, if the policy has
one, or its options differ. -/
def Snapshot.mismatch? (s : Snapshot) (requested : Settings.Analysis) : Option GraphFault :=
  if s.policy ≠ requested.policy then some (.otherPolicy s.policy requested.policy)
  else if requested.policy.usesDepth && s.sensitivity ≠ requested.sensitivity then
    some (.otherSensitivity s.sensitivity requested.sensitivity)
  else
    let mismatches := s.options.mismatches (.ofSettings requested)
    if mismatches.isEmpty then none else some (.otherOptions mismatches)

end CallGraph
