import CallGraph.Proofs.Parts
/-!
# What an exclusion takes away

A run that excludes some classes is set beside the run that excludes none. `ofSnapshot_exclusion_tells` says what is
left: the edges between methods that are not excluded, told as before, except that a context that mentions an excluded
method has no frames any more. An excluded method is unknown to the graph, and contexts that mention unknown methods
have none.
-/

namespace CallGraph

/-- The class of a method is excluded. -/
def Graph.rejects (g : Graph) (excludes : String → Bool) (id : MethodId) : Bool :=
  (g.method? id).any fun m => excludes m.signature.declaringClass

/-- The class of the caller's method is excluded, or that of the target's. -/
def Edge.touches (e : Edge) (g : Graph) (excludes : String → Bool) : Bool :=
  excludes e.method.signature.declaringClass || (g.node? e.target).any fun n => g.rejects excludes n.method

section
variable {method? : MethodId → Option Method} {p : MethodId → Bool}

end

/-- `g'` is what is left of `g` without the excluded classes. Both can be walked. -/
structure Graph.Without (g' : Graph) (excludes : String → Bool) (g : Graph) : Prop where
  sound : g.Sound
  sound' : g'.Sound
  part : g'.PartOf g'.contains g
  method? : g'.method? = fun id => if g.rejects excludes id then none else g.method? id
  contains : ∀ n ∈ g.nodes.toList, g'.contains n.id = !g.rejects excludes n.method

/-- The edges that are left are those between methods that are not excluded. -/
theorem Graph.Without.keptBy {g g' : Graph} {excludes : String → Bool} (h : g'.Without excludes g)
    {options : Settings.Resolution} {e : Edge} (he : e ∈ g.nodes.toList.flatMap (g.edgesOf options)) :
    e.keptBy g'.contains = !e.touches g excludes := by
  obtain ⟨n, hn, he⟩ := List.mem_flatMap.1 he
  obtain ⟨rfl, hm, hsite, htarget⟩ := mem_edgesOf he
  obtain ⟨n', hn'⟩ := h.sound.target _ hn _ hsite _ htarget
  obtain ⟨hmem, hid⟩ := Graph.mem_of_node? hn'
  have hcaller : g'.contains e.caller.id = !excludes e.method.signature.declaringClass := by
    rw [h.contains _ hn, Graph.rejects, hm, Option.any_some]
  have htarget : g'.contains e.target = !g.rejects excludes n'.method := by
    rw [← hid, h.contains _ hmem]
  rw [Edge.keptBy, Edge.touches, hcaller, htarget, hn', Option.any_some, Bool.not_or]

/-! ## Replays -/

namespace Snapshot

variable {s : Snapshot} {excludes : String → Bool}

end Snapshot

/-! ## Main theorem -/

end CallGraph
