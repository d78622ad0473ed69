import CallGraph.Graph
import Mathlib.Data.List.Nodup
/-!
# What a graph holds

Lookups in terms of the lists of what was added, what pruning keeps, and what a sound graph is: `check_eq_ok_iff`.
-/

namespace CallGraph

theorem repeatsAfter_eq_nil_iff {α : Type} [DecidableEq α] (xs seen : List α) :
    repeatsAfter seen xs = [] ↔ xs.Nodup ∧ ∀ x ∈ xs, x ∉ seen := by
  induction xs generalizing seen with
  | nil => simp [repeatsAfter]
  | cons x xs ih =>
    rw [repeatsAfter]
    split
    · next hx => simp [hx]
    · next hx =>
      rw [ih, List.nodup_cons]
      constructor
      · rintro ⟨hn, hs⟩
        refine ⟨⟨fun hm => hs x hm List.mem_cons_self, hn⟩, ?_⟩
        intro y hy
        rcases List.mem_cons.1 hy with rfl | hy
        · exact hx
        · exact fun h => hs y hy (List.mem_cons_of_mem _ h)
      · rintro ⟨⟨hm, hn⟩, hs⟩
        refine ⟨hn, fun y hy h => ?_⟩
        rcases List.mem_cons.1 h with rfl | h
        · exact hm hy
        · exact hs y (List.mem_cons_of_mem _ hy) h

theorem Node.retarget_retarget (keep keep' : NodeId → Bool) (n : Node) :
    (n.retarget keep).retarget keep' = n.retarget fun id => keep' id && keep id := by
  simp [retarget, List.filter_filter]

namespace Graph

/-! ## Methods -/

theorem method?_addMethod (g : Graph) (m : Method) (id : MethodId) :
    (g.addMethod m).method? id = (g.method? id).or (if m.id = id then some m else none) := by
  unfold addMethod method?
  split
  · next h =>
    rw [Std.HashMap.contains_eq_isSome_getElem?] at h
    by_cases hid : m.id = id
    · obtain ⟨m', hm'⟩ := Option.isSome_iff_exists.1 (hid ▸ h)
      simp [hm']
    · simp [hid]
  · next h =>
    rw [Std.HashMap.contains_eq_isSome_getElem?, Option.not_isSome_iff_eq_none] at h
    rw [Std.HashMap.getElem?_insert]
    by_cases hid : m.id = id
    · subst hid
      simp [h]
    · simp [hid]

theorem method?_addMethods (ms : List Method) (g : Graph) (id : MethodId) :
    (ms.foldl addMethod g).method? id = (g.method? id).or (ms.find? (·.id = id)) := by
  induction ms generalizing g with
  | nil => simp
  | cons m ms ih =>
    rw [List.foldl_cons, ih, method?_addMethod, List.find?_cons, Option.or_assoc]
    by_cases hid : m.id = id <;> simp [hid]

theorem nodes_addMethod (g : Graph) (m : Method) : (g.addMethod m).nodes = g.nodes := by
  unfold addMethod
  split <;> rfl

theorem nodes_addMethods (ms : List Method) (g : Graph) : (ms.foldl addMethod g).nodes = g.nodes := by
  induction ms generalizing g with
  | nil => rfl
  | cons m ms ih => rw [List.foldl_cons, ih, nodes_addMethod]

theorem repeatedMethods_addMethod {g : Graph} {m : Method} (h : g.method? m.id = none) :
    (g.addMethod m).repeatedMethods = g.repeatedMethods := by
  have hnew : ¬g.methods.contains m.id = true := by
    rw [Std.HashMap.contains_eq_isSome_getElem?, Option.not_isSome_iff_eq_none]
    exact h
  rw [addMethod, if_neg hnew]

/-- Of the ids that are added those are repeated that come again, or stood for a method before. -/
theorem repeatedMethods_addMethods {ms : List Method} {g : Graph} {seen : List MethodId}
    (hseen : ∀ id, (∃ m, g.method? id = some m) ↔ id ∈ seen) :
    (ms.foldl addMethod g).repeatedMethods = g.repeatedMethods ++ repeatsAfter seen (ms.map (·.id)) := by
  induction ms generalizing g seen with
  | nil => simp [repeatsAfter]
  | cons m ms ih =>
    have hcontains : g.methods.contains m.id = true ↔ m.id ∈ seen := by
      rw [Std.HashMap.contains_eq_isSome_getElem?, Option.isSome_iff_exists]
      exact hseen m.id
    rw [List.foldl_cons, List.map_cons, repeatsAfter]
    split
    · next hm =>
      have hadd : g.addMethod m = { g with repeatedMethods := g.repeatedMethods ++ [m.id] } :=
        if_pos (hcontains.2 hm)
      have hsame (id : MethodId) : (g.addMethod m).method? id = g.method? id := by rw [hadd]; rfl
      have hseen' (id : MethodId) : (∃ m', (g.addMethod m).method? id = some m') ↔ id ∈ seen := by
        rw [hsame, hseen]
      rw [ih hseen', hadd, List.append_assoc, List.singleton_append]
    · next hm =>
      have hnone : g.method? m.id = none := by
        rw [← Option.not_isSome_iff_eq_none, Option.isSome_iff_exists, hseen]
        exact hm
      have hseen' (id : MethodId) : (∃ m', (g.addMethod m).method? id = some m') ↔ id ∈ m.id :: seen := by
        rw [method?_addMethod, List.mem_cons, ← hseen]
        by_cases hid : m.id = id
        · subst hid
          simp [hnone]
        · simp [hid, Ne.symm hid]
      rw [ih hseen', repeatedMethods_addMethod hnone]

/-! ## Nodes -/

theorem nodes_addNode (g : Graph) (n : Node) : (g.addNode n).nodes.toList = g.nodes.toList ++ [n] := by
  unfold addNode
  split <;> simp

theorem nodes_addNodes (ns : List Node) (g : Graph) :
    (ns.foldl addNode g).nodes.toList = g.nodes.toList ++ ns := by
  induction ns generalizing g with
  | nil => simp
  | cons n ns ih => rw [List.foldl_cons, ih, nodes_addNode, List.append_assoc, List.singleton_append]

theorem nodeCount_addNode (g : Graph) (n : Node) : (g.addNode n).nodeCount = g.nodeCount + 1 := by
  simpa [nodeCount] using congrArg List.length (nodes_addNode g n)

theorem method?_addNode (g : Graph) (n : Node) (id : MethodId) : (g.addNode n).method? id = g.method? id := by
  unfold addNode
  split <;> rfl

theorem method?_addNodes (ns : List Node) (g : Graph) (id : MethodId) :
    (ns.foldl addNode g).method? id = g.method? id := by
  induction ns generalizing g with
  | nil => rfl
  | cons n ns ih => rw [List.foldl_cons, ih, method?_addNode]

theorem repeatedMethods_addNode (g : Graph) (n : Node) : (g.addNode n).repeatedMethods = g.repeatedMethods := by
  unfold addNode
  split <;> rfl

theorem repeatedMethods_addNodes (ns : List Node) (g : Graph) :
    (ns.foldl addNode g).repeatedMethods = g.repeatedMethods := by
  induction ns generalizing g with
  | nil => rfl
  | cons n ns ih => rw [List.foldl_cons, ih, repeatedMethods_addNode]

/-- An id stands for the first node that has it. -/
theorem node?_eq_find? (g : Graph) (id : NodeId) : g.node? id = g.nodes.toList.find? (·.id = id) := by
  rw [node?, g.index_eq, List.find?_eq_bind_findIdx?_getElem?]
  simp only [Array.getElem?_toList]

theorem mem_of_node? {g : Graph} {id : NodeId} {n : Node} (h : g.node? id = some n) :
    n ∈ g.nodes.toList ∧ n.id = id := by
  rw [node?_eq_find?] at h
  exact ⟨List.mem_of_find?_eq_some h, by simpa using List.find?_some h⟩

theorem node?_of_contains {g : Graph} {id : NodeId} (h : g.contains id = true) : ∃ n, g.node? id = some n := by
  obtain ⟨n, hn, hid⟩ := List.mem_map.1 ((g.contains_iff id).1 h)
  rw [← Option.isSome_iff_exists, node?_eq_find?, List.find?_isSome]
  exact ⟨n, hn, by simpa using hid⟩

/-! ## Pruning -/

theorem nodes_prune (g : Graph) : g.prune.nodes.toList = g.nodes.toList.map (Node.retarget g.contains) := by
  simp [prune]

theorem repeatedMethods_prune (g : Graph) : g.prune.repeatedMethods = g.repeatedMethods := rfl

theorem method?_prune (g : Graph) (id : MethodId) : g.prune.method? id = g.method? id := rfl

/-! ## Sound graphs -/

/-- No id is used twice, and whatever a node refers to is there. -/
structure Sound (g : Graph) : Prop where
  methods : g.repeatedMethods = []
  ids : (g.nodes.toList.map (·.id)).Nodup
  method : ∀ n ∈ g.nodes.toList, ∃ m, g.method? n.method = some m
  target : ∀ n ∈ g.nodes.toList, ∀ s ∈ n.sites, ∀ id ∈ s.targets, ∃ n', g.node? id = some n'

theorem contains_iff_node? (g : Graph) (id : NodeId) : g.contains id = true ↔ ∃ n, g.node? id = some n := by
  refine ⟨node?_of_contains, ?_⟩
  rintro ⟨n, hn⟩
  obtain ⟨hm, hid⟩ := mem_of_node? hn
  exact (g.contains_iff id).2 (List.mem_map.2 ⟨n, hm, hid⟩)

theorem nodeFault?_eq_none_iff (g : Graph) (n : Node) :
    g.nodeFault? n = none ↔ (∃ m, g.method? n.method = some m) ∧
      ∀ s ∈ n.sites, ∀ id ∈ s.targets, ∃ n', g.node? id = some n' := by
  have hc : g.methods.contains n.method = true ↔ ∃ m, g.method? n.method = some m := by
    rw [Std.HashMap.contains_eq_isSome_getElem?, Option.isSome_iff_exists]
    rfl
  unfold nodeFault?
  split
  · next h =>
    simp only [List.findSome?_eq_none_iff, Option.map_eq_none_iff, List.find?_eq_none, Bool.not_eq_true,
      Bool.not_eq_false', contains_iff_node?, ← hc, h, true_and]
  · next h =>
    simp only [reduceCtorEq, false_iff]
    exact fun hs => h (hc.2 hs.1)

theorem fault?_eq_none_iff (g : Graph) : g.fault? = none ↔ g.Sound := by
  simp only [fault?, Option.orElse_eq_orElse, Option.orElse_eq_or, Option.or_eq_none_iff, Option.map_eq_none_iff,
    List.head?_eq_none_iff, List.findSome?_eq_none_iff, nodeFault?_eq_none_iff, g.repeatedNodes_eq,
    repeatsAfter_eq_nil_iff]
  constructor
  · rintro ⟨hm, ⟨hn, -⟩, hf⟩
    exact ⟨hm, hn, fun n hn => (hf n hn).1, fun n hn => (hf n hn).2⟩
  · rintro ⟨hm, hn, hmethod, htarget⟩
    exact ⟨hm, ⟨hn, by simp⟩, fun n hn => ⟨hmethod n hn, htarget n hn⟩⟩

theorem check_eq_ok_iff (g : Graph) : g.check = .ok () ↔ g.Sound := by
  rw [← fault?_eq_none_iff, check]
  cases g.fault? <;> simp

theorem nodes_single (m : Method) (n : Node) : ((Graph.empty.addMethod m).addNode n).nodes.toList = [n] := by
  rw [nodes_addNode, nodes_addMethod]
  rfl

theorem method?_single (m : Method) (n : Node) : ((Graph.empty.addMethod m).addNode n).method? m.id = some m := by
  rw [method?_addNode, method?_addMethod, if_pos rfl]
  simp [method?, Graph.empty]

/-- A graph of one method and one node is sound if the node is of that method and calls only itself. -/
theorem sound_single {m : Method} {n : Node} (hm : m.id = n.method) (ht : ∀ s ∈ n.sites, ∀ id ∈ s.targets, n.id = id) :
    ((Graph.empty.addMethod m).addNode n).Sound := by
  refine ⟨by simp [addNode, addMethod, Graph.empty, contains], by simp [nodes_single], ?_, ?_⟩
  · intro n' hn'
    rw [nodes_single, List.mem_singleton] at hn'
    subst hn'
    exact ⟨m, hm ▸ method?_single m n'⟩
  · intro n' hn' s hs id hid
    rw [nodes_single, List.mem_singleton] at hn'
    subst hn'
    refine ⟨n', ?_⟩
    rw [node?_eq_find?, nodes_single, List.find?_singleton, if_pos (by simpa using ht s hs id hid)]

/-- In a sound graph every node is the one its id stands for. -/
theorem Sound.node?_id {g : Graph} (h : g.Sound) {n : Node} (hn : n ∈ g.nodes.toList) : g.node? n.id = some n := by
  have hc := (g.contains_iff n.id).2 (List.mem_map_of_mem hn)
  obtain ⟨n', hn'⟩ := node?_of_contains hc
  obtain ⟨hm, hid⟩ := mem_of_node? hn'
  rw [hn', List.inj_on_of_nodup_map h.ids hm hn hid]

end Graph

end CallGraph
