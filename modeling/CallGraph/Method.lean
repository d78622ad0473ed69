import CallGraph.ClassName
import CallGraph.Ids
/-!
# Methods

An analysed method: its signature, the instructions that can be call sites, and its line table.
-/

namespace CallGraph

/-- What identifies a method in a program: declaring class in internal form, name and descriptor. -/
structure Signature where
  declaringClass : String
  name : String
  descriptor : String
  deriving DecidableEq, Repr, Inhabited

/-- The signature as records and frames show it. -/
def Signature.text (s : Signature) : String :=
  ClassName.dotted s.declaringClass ++ "." ++ s.name ++ s.descriptor

inductive InstructionKind
  | invoke | new | other
  deriving DecidableEq, Repr, Inhabited

/-- One instruction. `site` identifies a call or allocation; `offset` is missing where the analyser could not map the
instruction to bytecode. -/
structure Instruction where
  kind : InstructionKind
  site : Option String := none
  offset : Option UInt32 := none
  deriving DecidableEq, Repr, Inhabited

/-- Calls and allocations are call sites. -/
def Instruction.isCallSite (i : Instruction) : Bool :=
  match i.kind with
  | .invoke | .new => true
  | .other => false

/-- Code from offset `startPc` on, up to the next entry, comes from line `line`. -/
structure LineEntry where
  startPc : UInt32
  line : UInt32
  deriving DecidableEq, Repr, Inhabited

/-- `synthetic` methods are made by the analyser and have no source. -/
structure Method where
  id : MethodId
  signature : Signature
  synthetic : Bool := false
  instructions : List Instruction := []
  lineTable : List LineEntry := []
  deriving DecidableEq, Repr, Inhabited

/-- The entry of a line table that covers `pc`: of those that start at or before it one that starts last, and among
equals the one stored last. -/
def LineEntry.covering? (pc : UInt32) (table : List LineEntry) : Option LineEntry :=
  table.foldl (fun best e => if e.startPc ≤ pc && best.all (·.startPc ≤ e.startPc) then some e else best) none

/-- The source line of the code at `pc`. -/
def Method.line? (m : Method) (pc : UInt32) : Option UInt32 :=
  (LineEntry.covering? pc m.lineTable).map (·.line)

/-- The bytecode offset of the instruction at `index`. -/
def Method.offset? (m : Method) (index : Nat) : Option UInt32 :=
  m.instructions[index]?.bind (·.offset)

/-- Why a call site has no line, or a context no frames. -/
inductive Unresolved
  /-- a context entry names a method the graph does not hold -/
  | unknownMethod (id : MethodId)
  /-- the instruction at `index` of `method` has no bytecode offset -/
  | missingOffset (method : Signature) (index : Nat)
  /-- there is no rule for contexts of this kind -/
  | unsupportedContext (kind : String)
  deriving DecidableEq, Repr

def Unresolved.message : Unresolved → String
  | .unknownMethod id => s!"context entry refers to unknown method {id.val}"
  | .missingOffset method index => s!"instruction {index} of {method.text} has no bytecode offset"
  | .unsupportedContext kind => s!"unsupported context kind '{kind}'"

end CallGraph
