import CallGraph.Graph
/-!
# Context frames

A context as a list of frames, one per entry: the method, the line where the call or allocation stands, and the site's
text, which is shown where there is no line.
-/

namespace CallGraph

structure Frame where
  method : Signature
  line : Option UInt32
  site : String
  deriving DecidableEq, Repr

def Frame.text (f : Frame) : String :=
  match f.line with
  | some line => s!"{f.method.text}:{line}"
  | none => f.site

namespace Context

/-- The entries of a context that has frames. -/
def entries : Context → Except Unresolved (List ContextEntry)
  | everywhere => .ok []
  | callString entries | allocationString entries => .ok entries
  | unsupported kind => .error (.unsupportedContext kind)

end Context

/-- The frame of an entry; none for an entry in a synthetic method, if those are left out. -/
def ContextEntry.frame? (e : ContextEntry) (g : Graph) (options : Settings.Resolution) :
    Except Unresolved (Option Frame) :=
  match g.method? e.method with
  | none => .error (.unknownMethod e.method)
  | some m =>
    if options.excludeSynthetic && m.synthetic then .ok none
    else .ok (some ⟨m.signature, if options.sourceNumbers then m.line? e.pc else none, e.site⟩)

/-- The frames of a context in the order asked for. -/
def Context.frames (c : Context) (g : Graph) (options : Settings.Resolution) : Except Unresolved (List Frame) :=
  match c.entries with
  | .error cause => .error cause
  | .ok entries =>
    match entries.mapM (·.frame? g options) with
    | .error cause => .error cause
    | .ok frames =>
      let frames := frames.filterMap id
      .ok (match options.frameOrder with
        | .outerFirst => frames
        | .innerFirst => frames.reverse)

end CallGraph
