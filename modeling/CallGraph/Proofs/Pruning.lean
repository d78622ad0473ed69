import CallGraph.Proofs.History
/-!
# Pruning

What dropping the targets outside a graph changes, and what it says it changed. `pruneCounted_spec` is about all graphs,
those with repeated ids included: each edge stays or is counted, nothing but targets goes, and of the faults of a graph
just the missing targets are mended.
-/

namespace CallGraph

/-! ## Counting -/

theorem retargetSites_count (keep : NodeId → Bool) (sites : List CallSite) (dropped : Nat) :
    (retargetSites keep dropped sites).2 + targetCount (retargetSites keep dropped sites).1 =
      dropped + targetCount sites := by
  induction sites generalizing dropped with
  | nil => rfl
  | cons s rest ih =>
    have hle : (s.targets.filter keep).length ≤ s.targets.length := List.length_filter_le keep s.targets
    have hrest := ih (dropped + (s.targets.length - (s.targets.filter keep).length))
    simp only [retargetSites, targetCount]
    omega

/-- Each target of some nodes stays or is counted. -/
theorem retargetNodes_count (keep : NodeId → Bool) (ns : List Node) (dropped : Nat) :
    (retargetNodes keep dropped ns).2 + edgesFrom (retargetNodes keep dropped ns).1 = dropped + edgesFrom ns := by
  induction ns generalizing dropped with
  | nil => rfl
  | cons n rest ih =>
    have hsites := retargetSites_count keep n.sites dropped
    have hrest := ih (retargetSites keep dropped n.sites).2
    simp only [retargetNodes, edgesFrom]
    omega

theorem targetCount_retarget_le (keep : NodeId → Bool) (sites : List CallSite) :
    targetCount (sites.map fun s => { s with targets := s.targets.filter keep }) ≤ targetCount sites := by
  induction sites with
  | nil => exact Nat.le_refl _
  | cons s rest ih => exact Nat.add_le_add (List.length_filter_le keep s.targets) ih

/-- No target of the call sites goes where none is rejected, and only there. -/
theorem targetCount_retarget_eq_iff (keep : NodeId → Bool) (sites : List CallSite) :
    targetCount (sites.map fun s => { s with targets := s.targets.filter keep }) = targetCount sites ↔
      ∀ s ∈ sites, ∀ id ∈ s.targets, keep id = true := by
  induction sites with
  | nil => simp
  | cons s rest ih =>
    have hle : (s.targets.filter keep).length ≤ s.targets.length := List.length_filter_le keep s.targets
    have hrest := targetCount_retarget_le keep rest
    rw [List.forall_mem_cons, ← ih, ← List.length_filter_eq_length_iff]
    simp only [List.map_cons, targetCount]
    omega

theorem edgesFrom_retarget_le (keep : NodeId → Bool) (ns : List Node) :
    edgesFrom (ns.map (Node.retarget keep)) ≤ edgesFrom ns := by
  induction ns with
  | nil => exact Nat.le_refl _
  | cons n rest ih => exact Nat.add_le_add (targetCount_retarget_le keep n.sites) ih

theorem edgesFrom_retarget_eq_iff (keep : NodeId → Bool) (ns : List Node) :
    edgesFrom (ns.map (Node.retarget keep)) = edgesFrom ns ↔
      ∀ n ∈ ns, ∀ s ∈ n.sites, ∀ id ∈ s.targets, keep id = true := by
  induction ns with
  | nil => simp
  | cons n rest ih =>
    have hsites := targetCount_retarget_le keep n.sites
    have hrest := edgesFrom_retarget_le keep rest
    rw [List.forall_mem_cons, ← ih, ← targetCount_retarget_eq_iff]
    simp only [List.map_cons, edgesFrom, Node.retarget]
    omega

namespace Graph

/-! ## Pruning as a change of targets -/

theorem pruneCounted_fst (g : Graph) : g.pruneCounted.1 = g.prune := by
  have hnodes : (retargetNodes g.contains 0 g.nodes.toList).1.toArray = g.nodes.map (Node.retarget g.contains) := by
    rw [retargetNodes_fst, ← Array.toList_map, Array.toArray_toList]
  simp only [pruneCounted, prune, hnodes]

theorem edgeCount_prune (g : Graph) :
    g.prune.edgeCount = edgesFrom (g.nodes.toList.map (Node.retarget g.contains)) := by
  rw [edgeCount, nodes_prune]

/-- Each edge stays or is counted. -/
theorem pruneCounted_count (g : Graph) : g.pruneCounted.2 + g.prune.edgeCount = g.edgeCount := by
  have hcount := retargetNodes_count g.contains g.nodes.toList 0
  rw [retargetNodes_fst] at hcount
  rw [edgeCount_prune]
  simpa [pruneCounted, edgeCount] using hcount

theorem pruneCounted_eq_zero_iff (g : Graph) :
    g.pruneCounted.2 = 0 ↔ ∀ n ∈ g.nodes.toList, ∀ s ∈ n.sites, ∀ id ∈ s.targets, g.contains id = true := by
  have hcount := g.pruneCounted_count
  rw [← edgesFrom_retarget_eq_iff, ← edgeCount_prune]
  change _ ↔ g.prune.edgeCount = g.edgeCount
  omega

theorem contains_prune (g : Graph) : g.prune.contains = g.contains := rfl

/-- Nodes that were pruned are as they were. -/
theorem prune_prune (g : Graph) : g.prune.prune = g.prune := by
  have hnodes : g.prune.nodes.map (Node.retarget g.prune.contains) = g.prune.nodes := by
    rw [contains_prune, prune, Array.map_map]
    refine Array.map_congr_left fun n _ => ?_
    rw [Function.comp, Node.retarget_retarget]
    simp only [Bool.and_self]
  conv_lhs => rw [prune]
  simp only [hnodes]

/-! ## Faults -/

/-- The faults of a node: a missing method, or without one the targets outside the graph. -/
def nodeFaults (g : Graph) (n : Node) : List GraphFault :=
  if g.methods.contains n.method then
    n.sites.flatMap fun s => (s.targets.filter fun id => !g.contains id).map (.missingTarget s.site n.id)
  else [.missingMethod n.id n.method]

/-- The faults of a graph, in the order in which they are looked for. -/
def faults (g : Graph) : List GraphFault :=
  g.repeatedMethods.map .repeatedMethod ++ g.repeatedNodes.map .repeatedNode ++ g.nodes.toList.flatMap g.nodeFaults

end Graph

/-- Whether a fault is a target outside the graph. -/
def GraphFault.isMissingTarget : GraphFault → Bool
  | missingTarget .. => true
  | _ => false

namespace Graph

theorem head?_nodeFaults (g : Graph) (n : Node) : (g.nodeFaults n).head? = g.nodeFault? n := by
  unfold nodeFaults nodeFault?
  split
  · simp only [List.head?_flatMap, List.head?_map, List.head?_filter]
  · rfl

theorem head?_faults (g : Graph) : g.faults.head? = g.fault? := by
  simp only [faults, fault?, List.head?_append, List.head?_map, List.head?_flatMap, head?_nodeFaults,
    Option.orElse_eq_orElse, Option.orElse_eq_or, Option.or_assoc]

theorem nodeFaults_prune (g : Graph) (n : Node) :
    g.prune.nodeFaults (n.retarget g.contains) = (g.nodeFaults n).filter fun f => !f.isMissingTarget := by
  have hdrop (s : CallSite) : (s.targets.filter g.contains).filter (fun id => !g.contains id) = [] := by
    simp [List.filter_filter]
  unfold nodeFaults
  simp only [contains_prune, Node.retarget]
  change (if g.methods.contains n.method then _ else _) = _
  split
  · simp [List.flatMap_map, hdrop, List.filter_flatMap, List.filter_map, Function.comp_def,
      GraphFault.isMissingTarget]
  · simp [GraphFault.isMissingTarget]

/-- The missing targets are mended, and nothing else is. -/
theorem faults_prune (g : Graph) : g.prune.faults = g.faults.filter fun f => !f.isMissingTarget := by
  have hmethods : (g.repeatedMethods.map GraphFault.repeatedMethod).filter (fun f => !f.isMissingTarget) =
      g.repeatedMethods.map .repeatedMethod := by
    simp [List.filter_map, Function.comp_def, GraphFault.isMissingTarget]
  have hnodes : (g.repeatedNodes.map GraphFault.repeatedNode).filter (fun f => !f.isMissingTarget) =
      g.repeatedNodes.map .repeatedNode := by
    simp [List.filter_map, Function.comp_def, GraphFault.isMissingTarget]
  rw [faults, nodes_prune, List.flatMap_map]
  simp only [nodeFaults_prune, faults, List.filter_append, List.filter_flatMap, hmethods, hnodes]
  rfl

theorem check_eq_error_iff_head (g : Graph) (fault : GraphFault) :
    g.check = .error fault ↔ g.faults.head? = some fault := by
  rw [check_eq_error_iff, head?_faults]

/-- A fault of a graph that is no missing target. -/
theorem mem_faults_of_not_isMissingTarget {g : Graph} {fault : GraphFault} (hmem : fault ∈ g.faults)
    (hnot : fault.isMissingTarget = false) :
    (∃ id ∈ g.repeatedMethods, fault = .repeatedMethod id) ∨ (∃ id ∈ g.repeatedNodes, fault = .repeatedNode id) ∨
      ∃ n ∈ g.nodes.toList, g.method? n.method = none ∧ fault = .missingMethod n.id n.method := by
  rcases List.mem_append.1 hmem with hmem | hmem
  · rcases List.mem_append.1 hmem with hmem | hmem
    · obtain ⟨id, hid, rfl⟩ := List.mem_map.1 hmem
      exact .inl ⟨id, hid, rfl⟩
    · obtain ⟨id, hid, rfl⟩ := List.mem_map.1 hmem
      exact .inr (.inl ⟨id, hid, rfl⟩)
  · obtain ⟨n, hn, hfault⟩ := List.mem_flatMap.1 hmem
    unfold nodeFaults at hfault
    split at hfault
    · obtain ⟨s, -, hs⟩ := List.mem_flatMap.1 hfault
      obtain ⟨id, -, rfl⟩ := List.mem_map.1 hs
      cases hnot
    · next hmethod =>
      rw [Std.HashMap.contains_eq_isSome_getElem?, Option.not_isSome_iff_eq_none] at hmethod
      exact .inr (.inr ⟨n, hn, hmethod, List.mem_singleton.1 hfault⟩)

/-! ## Main theorem -/

/-- Pruning leaves methods, ids, contexts and the texts and offsets of call sites as they are, and of each list of
targets those that are ids of nodes. Each edge stays or is counted; none is counted just if no target was missing, and
never the second time. What is wrong with the graph afterwards is what was wrong before, less the missing targets. -/
theorem pruneCounted_spec (g : Graph) :
    ∃ pruned dropped, g.pruneCounted = (pruned, dropped) ∧
      pruned.methods = g.methods ∧ pruned.index = g.index ∧ pruned.repeatedMethods = g.repeatedMethods ∧
      pruned.repeatedNodes = g.repeatedNodes ∧
      (pruned.nodes.toList = g.nodes.toList.map fun n => { n with
        sites := n.sites.map fun s => { s with
          targets := s.targets.filter fun id => id ∈ g.nodes.toList.map (·.id) } }) ∧
      dropped + pruned.edgeCount = g.edgeCount ∧
      (dropped = 0 ↔ ∀ n ∈ g.nodes.toList, ∀ s ∈ n.sites, ∀ id ∈ s.targets, ∃ n' ∈ g.nodes.toList, n'.id = id) ∧
      pruned.pruneCounted = (pruned, 0) ∧
      (∀ fault, g.check = .error fault ↔ g.faults.head? = some fault) ∧
      (∀ fault, pruned.check = .error fault ↔ (g.faults.filter fun f => !f.isMissingTarget).head? = some fault) ∧
      (∀ fault, g.check = .error fault → fault.isMissingTarget = false → pruned.check = .error fault) ∧
      ∀ fault, pruned.check = .error fault →
        (∃ id ∈ g.repeatedMethods, fault = .repeatedMethod id) ∨ (∃ id ∈ g.repeatedNodes, fault = .repeatedNode id) ∨
          ∃ n ∈ g.nodes.toList, g.method? n.method = none ∧ fault = .missingMethod n.id n.method := by
  have hkeep : g.contains = fun id => decide (id ∈ g.nodes.toList.map (·.id)) := by
    funext id
    rw [Bool.eq_iff_iff, g.contains_iff, decide_eq_true_eq]
  have hfaults (fault : GraphFault) :
      g.prune.check = .error fault ↔ (g.faults.filter fun f => !f.isMissingTarget).head? = some fault := by
    rw [check_eq_error_iff_head, faults_prune]
  refine ⟨g.prune, g.pruneCounted.2, Prod.ext g.pruneCounted_fst rfl, rfl, rfl, rfl, rfl, ?_, g.pruneCounted_count, ?_,
    ?_, g.check_eq_error_iff_head, hfaults, fun fault hfault hnot => ?_, fun fault hfault => ?_⟩
  · rw [nodes_prune, hkeep]
    rfl
  · simp only [pruneCounted_eq_zero_iff, contains_iff, List.mem_map]
  · have hnone : g.prune.pruneCounted.2 = 0 := by
      have hcount := g.prune.pruneCounted_count
      rw [prune_prune] at hcount
      omega
    exact Prod.ext (g.prune.pruneCounted_fst.trans g.prune_prune) hnone
  · -- The first fault is still the first where it is not mended.
    obtain ⟨rest, hrest⟩ := List.head?_eq_some_iff.1 ((g.check_eq_error_iff_head fault).1 hfault)
    rw [hfaults, hrest, List.filter_cons_of_pos (by simp [hnot]), List.head?_cons]
  · have hmem := List.mem_of_head? ((hfaults fault).1 hfault)
    obtain ⟨hfault, hnot⟩ := List.mem_filter.1 hmem
    exact mem_faults_of_not_isMissingTarget hfault (by simpa using hnot)

end Graph

end CallGraph
