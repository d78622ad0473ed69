import CallGraph.Proofs.Memory
import CallGraph.Proofs.Replay
/-!
# The records of a snapshot

What a run should write, in one pass over the nodes of a snapshot and with no graph in between: `Snapshot.reference`. A
replay that nobody stops holds exactly the edges that this pass meets, `tell_edges`; `replay_sound` says which snapshots
have one that can be walked.
-/

namespace CallGraph

namespace Snapshot

/-- The nodes whose methods are not excluded, up to a bound. -/
def keptWithin (s : Snapshot) (excludes : String → Bool) : Option Nat → List Node
  | none => s.kept excludes
  | some bound => (s.kept excludes).take bound

/-- The edges from kept nodes to kept nodes, told in order; callers that are synthetic may be left out. -/
def reference (s : Snapshot) (excludes : String → Bool) (limit : Option Nat) (options : Settings.Resolution)
    (hs : List Holding) : List Record :=
  let kept := s.keptWithin excludes limit
  kept.flatMap fun n =>
    match s.methodOf excludes n.method with
    | none => []
    | some m =>
      if options.excludeSynthetic && m.synthetic then []
      else n.sites.flatMap fun c =>
        (c.targets.filterMap fun id => kept.find? (·.id = id)).map
          (Teller.record ⟨s.methodOf excludes, options, hs⟩ n m c)

/-- Unless it is told to stop, a replay keeps all the nodes that there is room for. -/
theorem ReplayedTo.keptBefore_eq {s : Snapshot} {excludes : String → Bool} {limit : Option Nat} {poll : Nat → Bool}
    {cut : Nat} {o : Outcome} (h : s.ReplayedTo excludes limit poll cut o) (hpoll : ∀ i, poll i = false) :
    s.keptBefore excludes cut = s.keptWithin excludes limit := by
  cases hc : o.completeness with
  | cancelled =>
    have hp := (h.cancelled_iff.1 hc).2
    rw [hpoll] at hp
    exact absurd hp (by simp)
  | complete =>
    have hroom := h.room
    rw [h.complete_iff.1 hc, keptBefore_length] at hroom ⊢
    cases limit with
    | none => rfl
    | some bound => exact (List.take_of_length_le (hroom bound rfl)).symm
  | limited bound =>
    obtain ⟨rfl, hlength, -⟩ := (h.limited_iff bound).1 hc
    rw [List.prefix_iff_eq_take.1 (s.keptBefore_prefix excludes cut), hlength]
    rfl

/-! ## Edges -/

section
variable {s : Snapshot} {excludes : String → Bool} {limit : Option Nat} {g : Graph}

/-- `g` holds the nodes of a snapshot that are kept, with the targets that are. -/
structure Held (s : Snapshot) (excludes : String → Bool) (limit : Option Nat) (g : Graph) : Prop where
  nodes : g.nodes.toList =
    (s.keptWithin excludes limit).map (Node.retarget fun id => id ∈ (s.keptWithin excludes limit).map (·.id))
  method? : g.method? = s.methodOf excludes

theorem ReplayedTo.held {poll : Nat → Bool} {cut : Nat} {o : Outcome} (h : s.ReplayedTo excludes limit poll cut o)
    (hpoll : ∀ i, poll i = false) : s.Held excludes limit o.graph :=
  ⟨h.keptBefore_eq hpoll ▸ h.nodes, funext h.method?⟩

theorem Held.node? (h : s.Held excludes limit g) (id : NodeId) :
    g.node? id = ((s.keptWithin excludes limit).find? (·.id = id)).map
      (Node.retarget fun id => id ∈ (s.keptWithin excludes limit).map (·.id)) := by
  rw [Graph.node?_eq_find?, h.nodes, List.find?_map]
  rfl

/-- The edges of one call site: those to targets that are not kept are dropped on both sides. -/
theorem Held.tell_site (h : s.Held excludes limit g) (options : Settings.Resolution) (hs : List Holding) (n : Node)
    (m : Method) (c : CallSite) (keep : NodeId → Bool)
    (hkeep : keep = fun id => decide (id ∈ (s.keptWithin excludes limit).map (·.id))) :
    ((c.targets.filter keep).map fun id => (⟨n.retarget keep, m, { c with targets := c.targets.filter keep }, id⟩ : Edge)
      ).filterMap (·.tell? g ⟨g.method?, options, hs⟩) =
    (c.targets.filterMap fun id => (s.keptWithin excludes limit).find? (·.id = id)).map
      (Teller.record ⟨s.methodOf excludes, options, hs⟩ n m c) := by
  -- Target by target: either side has a record where the target is kept, and none elsewhere.
  rw [List.filterMap_map, List.filterMap_filter, List.map_filterMap]
  congr 1
  funext id
  simp only [Function.comp_apply, Edge.tell?, h.node?, h.method?, Option.map_map]
  split
  · rfl
  · next hid =>
    have hnone : (s.keptWithin excludes limit).find? (·.id = id) = none := by
      simpa [hkeep] using hid
    rw [hnone]
    rfl

/-- A graph that holds what is kept tells what the snapshot does. -/
theorem Held.tell_edges (h : s.Held excludes limit g) (options : Settings.Resolution) (hs : List Holding) :
    (g.nodes.toList.flatMap (g.edgesOf options)).filterMap (·.tell? g ⟨g.method?, options, hs⟩) =
      s.reference excludes limit options hs := by
  have hedges (n : Node) : g.edgesOf options (n.retarget fun id => id ∈ (s.keptWithin excludes limit).map (·.id)) =
      match s.methodOf excludes n.method with
      | none => []
      | some m => if options.excludeSynthetic && m.synthetic then [] else
          edgesOfSites (n.retarget fun id => id ∈ (s.keptWithin excludes limit).map (·.id)) m
            (n.sites.map fun c =>
              { c with targets := c.targets.filter fun id => id ∈ (s.keptWithin excludes limit).map (·.id) }) := by
    rw [Graph.edgesOf, h.method?]
    rfl
  rw [h.nodes, List.flatMap_map, List.filterMap_flatMap, reference]
  congr 1
  funext n
  rw [hedges]
  cases s.methodOf excludes n.method with
  | none => rfl
  | some m =>
    dsimp only
    split
    · rfl
    · rw [edgesOfSites, List.flatMap_map, List.filterMap_flatMap]
      congr 1
      funext c
      exact h.tell_site options hs n m c _ rfl

end

/-! ## Soundness -/

/-- A replay can be walked if no id is repeated among what it holds, and no method is missing. -/
theorem ReplayedTo.sound_iff {s : Snapshot} {excludes : String → Bool} {limit : Option Nat} {poll : Nat → Bool}
    {cut : Nat} (h : s.ReplayedTo excludes limit poll cut (s.replay excludes limit poll)) :
    (s.replay excludes limit poll).graph.Sound ↔
      ((s.methods.filter fun m => !s.excluded excludes m.id).map (·.id)).Nodup ∧
        ((s.keptBefore excludes cut).map (·.id)).Nodup ∧
        ∀ n ∈ s.keptBefore excludes cut, ∃ m, s.methodOf excludes n.method = some m := by
  have hrepeated := s.repeatedMethods_replay excludes limit poll
  have hmethods := repeatsAfter_eq_nil_iff ((s.methods.filter fun m => !s.excluded excludes m.id).map (·.id)) []
  constructor
  · intro hsound
    refine ⟨(hmethods.1 (hrepeated ▸ hsound.methods)).1, h.ids ▸ hsound.ids, fun n hn => ?_⟩
    have hmem := List.mem_map_of_mem (f := Node.retarget fun id => id ∈ (s.keptBefore excludes cut).map (·.id)) hn
    obtain ⟨m, hm⟩ := hsound.method _ (h.nodes ▸ hmem)
    exact ⟨m, by rw [← h.method?, ← hm]; rfl⟩
  · rintro ⟨hids, hnodes, hmethod⟩
    refine ⟨hrepeated ▸ hmethods.2 ⟨hids, by simp⟩, h.ids ▸ hnodes, ?_, ?_⟩
    · intro n hn
      rw [h.nodes, List.mem_map] at hn
      obtain ⟨n', hn', rfl⟩ := hn
      rw [h.method?]
      exact hmethod n' hn'
    · intro n hn c hc id hid
      rw [h.nodes, List.mem_map] at hn
      obtain ⟨n', -, rfl⟩ := hn
      obtain ⟨c', -, rfl⟩ := List.mem_map.1 hc
      have hkept := (List.mem_filter.1 hid).2
      rw [← Graph.contains_iff_node?, Graph.contains_iff, h.ids]
      simpa using hkept

/-- With ids of their own, and a method for each node, a snapshot has a replay that can be walked. -/
theorem replay_sound (s : Snapshot) (excludes : String → Bool) (limit : Option Nat) (poll : Nat → Bool)
    (hmethods : (s.methods.map (·.id)).Nodup) (hnodes : (s.nodes.map (·.id)).Nodup)
    (hmethod : ∀ n ∈ s.nodes, n.method ∈ s.methods.map (·.id)) : (s.replay excludes limit poll).graph.Sound := by
  obtain ⟨cut, h⟩ := s.exists_replayedTo excludes limit poll
  refine h.sound_iff.2 ⟨hmethods.sublist (List.filter_sublist.map _), ?_, fun n hn => ?_⟩
  · exact hnodes.sublist ((List.filter_sublist.trans (List.take_sublist _ _)).map _)
  · obtain ⟨hmem, hkept⟩ := List.mem_filter.1 hn
    obtain ⟨m, hm, hid⟩ := List.mem_map.1 (hmethod n (List.mem_of_mem_take hmem))
    have hsome : (s.methods.find? (·.id = n.method)).isSome := by
      rw [List.find?_isSome]
      exact ⟨m, hm, by simpa using hid⟩
    rw [methodOf, if_neg (by simpa using hkept)]
    exact Option.isSome_iff_exists.1 hsome

end Snapshot

end CallGraph
