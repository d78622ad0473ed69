import CallGraph.Engine
import CallGraph.Proofs.Files
import CallGraph.Proofs.Graph
import CallGraph.Proofs.Text
import Mathlib
/-!
# How far a replay goes

A replay keeps the nodes of a snapshot that are not excluded, up to the first question that is answered with stop or the
first node that is beyond the bound. `addNodes_cut` says so of the loop; `ofSnapshot_longest_prefix` is the main theorem.
-/

namespace CallGraph

theorem Settings.Analysis.nodeLimit?_eq_some_iff (a : Settings.Analysis) (bound : Nat) :
    a.nodeLimit? = some bound ↔ a.maxNodes.toInt = bound := by
  unfold nodeLimit?
  have hlt : a.maxNodes < 0 ↔ a.maxNodes.toInt < 0 := by
    rw [Int64.lt_iff_toInt_lt, Int64.toInt_zero]
  split
  · next h =>
    rw [hlt] at h
    simp only [reduceCtorEq, false_iff]
    omega
  · next h =>
    rw [hlt] at h
    rw [Option.some.injEq]
    omega

namespace Snapshot

/-- Whether a method is left out: its id is that of a method whose class is excluded. -/
def excluded (s : Snapshot) (excludes : String → Bool) (id : MethodId) : Bool :=
  s.methods.any fun m => m.id = id && excludes m.signature.declaringClass

/-- The nodes whose methods are not excluded, of the first `cut`. -/
def keptBefore (s : Snapshot) (excludes : String → Bool) (cut : Nat) : List Node :=
  (s.nodes.take cut).filter fun n => !s.excluded excludes n.method

/-- The nodes whose methods are not excluded. -/
def kept (s : Snapshot) (excludes : String → Bool) : List Node :=
  s.nodes.filter fun n => !s.excluded excludes n.method

theorem contains_excludedIds (s : Snapshot) (excludes : String → Bool) (id : MethodId) :
    (s.excludedIds excludes).contains id = s.excluded excludes id := by
  rw [excludedIds, Std.HashSet.contains_ofList, Bool.eq_iff_iff, List.contains_iff_mem, excluded, List.any_eq_true]
  simp only [List.mem_map, List.mem_filter, Bool.and_eq_true, decide_eq_true_eq]
  constructor
  · rintro ⟨m, ⟨hm, he⟩, rfl⟩
    exact ⟨m, hm, rfl, he⟩
  · rintro ⟨m, hm, rfl, he⟩
    exact ⟨m, ⟨hm, he⟩, rfl⟩

/-! ## The loop -/

/-- Why a replay of `nodes` that has gone over `cut` of them and kept `count` goes no further. -/
inductive Ending (excluded : MethodId → Bool) (limit : Option Nat) (poll : Nat → Bool) (nodes : List Node)
    (count cut : Nat) : Completeness → Prop
  | complete : cut = nodes.length → Ending excluded limit poll nodes count cut .complete
  | cancelled : cut < nodes.length → poll cut = true → Ending excluded limit poll nodes count cut .cancelled
  | limited {n : Node} : nodes[cut]? = some n → poll cut = false → excluded n.method = false → limit = some count →
      Ending excluded limit poll nodes count cut (.limited count)

/-- `o` is `g` with the nodes `kept`, which are those that are not excluded among the first `cut` of `nodes`. -/
structure Cut (excluded : MethodId → Bool) (limit : Option Nat) (poll : Nat → Bool) (nodes : List Node) (g : Graph)
    (o : Outcome) (cut : Nat) (kept : List Node) : Prop where
  kept_eq : kept = (nodes.take cut).filter fun n => !excluded n.method
  graph : o.graph = kept.foldl Graph.addNode g
  cut_le : cut ≤ nodes.length
  polls : ∀ i < cut, poll i = false
  room : ∀ bound, limit = some bound → g.nodeCount + kept.length ≤ bound
  ending : Ending excluded limit poll nodes (g.nodeCount + kept.length) cut o.completeness

section
variable {excluded : MethodId → Bool} {limit : Option Nat} {poll : Nat → Bool} {n : Node} {rest kept : List Node}
  {g : Graph} {o : Outcome} {cut : Nat}

theorem Ending.cons {count : Nat} {c : Completeness}
    (h : Ending excluded limit (fun i => poll (i + 1)) rest count cut c) :
    Ending excluded limit poll (n :: rest) count (cut + 1) c := by
  cases h with
  | complete h => exact .complete (by simp [h])
  | cancelled h hp => exact .cancelled (by simpa using h) hp
  | limited h hp he hl => exact .limited (by simpa using h) hp he hl

theorem polls_cons (hp : poll 0 = false) (h : ∀ i < cut, poll (i + 1) = false) : ∀ i < cut + 1, poll i = false := by
  intro i hi
  cases i with
  | zero => exact hp
  | succ i => exact h i (by omega)

theorem Cut.stop (c : Completeness) (hroom : ∀ bound, limit = some bound → g.nodeCount ≤ bound)
    (h : Ending excluded limit poll (n :: rest) g.nodeCount 0 c) :
    Cut excluded limit poll (n :: rest) g ⟨g, c⟩ 0 [] :=
  ⟨rfl, rfl, Nat.zero_le _, by simp, hroom, h⟩

theorem Cut.pass (hp : poll 0 = false) (he : excluded n.method = true)
    (h : Cut excluded limit (fun i => poll (i + 1)) rest g o cut kept) :
    Cut excluded limit poll (n :: rest) g o (cut + 1) kept where
  kept_eq := by simp [h.kept_eq, he]
  graph := h.graph
  cut_le := by simpa using h.cut_le
  polls := polls_cons hp h.polls
  room := h.room
  ending := h.ending.cons

theorem Cut.keep (hp : poll 0 = false) (he : excluded n.method = false)
    (h : Cut excluded limit (fun i => poll (i + 1)) rest (g.addNode n) o cut kept) :
    Cut excluded limit poll (n :: rest) g o (cut + 1) (n :: kept) := by
  have hcount : (g.addNode n).nodeCount + kept.length = g.nodeCount + (n :: kept).length := by
    rw [Graph.nodeCount_addNode, List.length_cons]
    omega
  exact ⟨by simp [h.kept_eq, he], h.graph, by simpa using h.cut_le, polls_cons hp h.polls, hcount ▸ h.room,
    (hcount ▸ h.ending).cons⟩

end

theorem addNodes_cut (excluded : MethodId → Bool) (limit : Option Nat) (poll : Nat → Bool) (nodes : List Node)
    (asked : Nat) (g : Graph) (hroom : ∀ bound, limit = some bound → g.nodeCount ≤ bound) :
    ∃ cut kept, Cut excluded limit (fun i => poll (asked + i)) nodes g
      (addNodes excluded limit poll asked nodes g) cut kept := by
  induction nodes generalizing asked g with
  | nil => exact ⟨0, [], rfl, rfl, Nat.le_refl _, by simp, hroom, .complete rfl⟩
  | cons n rest ih =>
    have hshift : (fun i => poll (asked + 1 + i)) = fun i => poll (asked + (i + 1)) := by
      funext i
      rw [Nat.add_right_comm, Nat.add_assoc]
    unfold addNodes
    cases hp : poll asked with
    | true => exact ⟨0, [], .stop _ hroom (.cancelled (by simp) hp)⟩
    | false =>
      cases he : excluded n.method with
      | true =>
        obtain ⟨cut, kept, h⟩ := ih (asked + 1) g hroom
        exact ⟨cut + 1, kept, .pass hp he (hshift ▸ h)⟩
      | false =>
        -- With room for one more node, the replay goes on.
        have hkeep (hroom' : ∀ bound, limit = some bound → (g.addNode n).nodeCount ≤ bound) :
            ∃ cut kept, Cut excluded limit (fun i => poll (asked + i)) (n :: rest) g
              (addNodes excluded limit poll (asked + 1) rest (g.addNode n)) cut kept := by
          obtain ⟨cut, kept, h⟩ := ih (asked + 1) (g.addNode n) hroom'
          exact ⟨cut + 1, n :: kept, .keep hp he (hshift ▸ h)⟩
        simp only [Bool.false_eq_true, if_false]
        cases limit with
        | none => exact hkeep (by simp)
        | some bound =>
          dsimp only
          split
          · next hfull =>
            have hcount : g.nodeCount = bound := Nat.le_antisymm (hroom bound rfl) hfull
            subst hcount
            exact ⟨0, [], .stop _ hroom (.limited (n := n) rfl hp he rfl)⟩
          · next hfree =>
            refine hkeep fun bound' hl => ?_
            rw [Option.some.injEq] at hl
            rw [Graph.nodeCount_addNode]
            omega

/-! ## The graph -/

/-- The method an id stands for once the excluded ones are left out. -/
def methodOf (s : Snapshot) (excludes : String → Bool) (id : MethodId) : Option Method :=
  if s.excluded excludes id then none else s.methods.find? (·.id = id)

/-- `o` is the replay of a snapshot up to node `cut`, and targets that it does not hold are dropped. -/
structure ReplayedTo (s : Snapshot) (excludes : String → Bool) (limit : Option Nat) (poll : Nat → Bool) (cut : Nat)
    (o : Outcome) : Prop where
  nodes : o.graph.nodes.toList =
    (s.keptBefore excludes cut).map (Node.retarget fun id => id ∈ (s.keptBefore excludes cut).map (·.id))
  method? : ∀ id, o.graph.method? id = s.methodOf excludes id
  repeatedMethods : (s.methods.map (·.id)).Nodup → o.graph.repeatedMethods = []
  cut_le : cut ≤ s.nodes.length
  polls : ∀ i < cut, poll i = false
  room : ∀ bound, limit = some bound → (s.keptBefore excludes cut).length ≤ bound
  ending : Ending (s.excluded excludes) limit poll s.nodes (s.keptBefore excludes cut).length cut o.completeness

theorem find?_filter_excluded (s : Snapshot) (excludes : String → Bool) (id : MethodId) :
    (s.methods.filter fun m => !s.excluded excludes m.id).find? (·.id = id) = s.methodOf excludes id := by
  rw [List.find?_filter, methodOf]
  split
  · next he =>
    -- All methods with an excluded id were left out, whatever their own class.
    rw [List.find?_eq_none]
    rintro m - hm
    simp only [Bool.not_eq_true', decide_eq_true_eq] at hm
    rw [hm.2, he] at hm
    exact absurd hm.1 (by simp)
  · next he =>
    congr 1
    funext m
    by_cases hm : m.id = id
    · simp [hm, he]
    · simp [hm]

/-- The graph to which the nodes of a snapshot are added. -/
def methodsKept (s : Snapshot) (excludes : String → Bool) : Graph :=
  (s.methods.filter fun m => !s.excluded excludes m.id).foldl Graph.addMethod .empty

theorem nodes_methodsKept (s : Snapshot) (excludes : String → Bool) :
    (s.methodsKept excludes).nodes.toList = [] ∧ (s.methodsKept excludes).nodeCount = 0 := by
  rw [Graph.nodeCount, methodsKept, Graph.nodes_addMethods]
  exact ⟨rfl, rfl⟩

theorem replay_eq (s : Snapshot) (excludes : String → Bool) (limit : Option Nat) (poll : Nat → Bool) :
    s.replay excludes limit poll =
      { addNodes (s.excluded excludes) limit poll 0 s.nodes (s.methodsKept excludes) with
        graph := (addNodes (s.excluded excludes) limit poll 0 s.nodes (s.methodsKept excludes)).graph.prune } := by
  -- The loop asks a hash set, which answers as the list of methods does.
  have hex : (s.excludedIds excludes).contains = s.excluded excludes := funext (s.contains_excludedIds excludes)
  simp only [replay, hex, methodsKept]

/-- A replay repeats those method ids that are not excluded and that the snapshot repeats. -/
theorem repeatedMethods_replay (s : Snapshot) (excludes : String → Bool) (limit : Option Nat) (poll : Nat → Bool) :
    (s.replay excludes limit poll).graph.repeatedMethods =
      repeatsAfter [] ((s.methods.filter fun m => !s.excluded excludes m.id).map (·.id)) := by
  have hempty (id : MethodId) : (∃ m, Graph.empty.method? id = some m) ↔ id ∈ ([] : List MethodId) := by
    simp [Graph.method?, Graph.empty]
  obtain ⟨-, hzero⟩ := s.nodes_methodsKept excludes
  obtain ⟨cut, kept, h⟩ :=
    addNodes_cut (s.excluded excludes) limit poll s.nodes 0 (s.methodsKept excludes) (by simp [hzero])
  rw [replay_eq, Graph.repeatedMethods_prune, h.graph, Graph.repeatedMethods_addNodes, methodsKept,
    Graph.repeatedMethods_addMethods hempty]
  rfl

theorem exists_replayedTo (s : Snapshot) (excludes : String → Bool) (limit : Option Nat) (poll : Nat → Bool) :
    ∃ cut, s.ReplayedTo excludes limit poll cut (s.replay excludes limit poll) := by
  obtain ⟨hnil, hzero⟩ := s.nodes_methodsKept excludes
  obtain ⟨cut, kept, h⟩ :=
    addNodes_cut (s.excluded excludes) limit poll s.nodes 0 (s.methodsKept excludes) (by simp [hzero])
  simp only [Nat.zero_add] at h
  have hreplay := s.replay_eq excludes limit poll
  have hkept : kept = s.keptBefore excludes cut := h.kept_eq
  have hnodes : (kept.foldl Graph.addNode (s.methodsKept excludes)).nodes.toList = kept := by
    rw [Graph.nodes_addNodes, hnil, List.nil_append]
  refine ⟨cut, ?_, ?_, ?_, h.cut_le, h.polls, ?_, ?_⟩
  · rw [hreplay, Graph.nodes_prune, h.graph, hnodes, ← hkept]
    congr 2
    funext id
    rw [Bool.eq_iff_iff, Graph.contains_iff, hnodes, decide_eq_true_eq]
  · intro id
    rw [hreplay, Graph.method?_prune, h.graph, Graph.method?_addNodes, methodsKept, Graph.method?_addMethods,
      find?_filter_excluded]
    simp [Graph.method?, Graph.empty]
  · intro hids
    rw [repeatedMethods_replay, repeatsAfter_eq_nil_iff]
    exact ⟨hids.sublist (List.filter_sublist.map _), by simp⟩
  · simpa [hzero, hkept] using h.room
  · simpa [hreplay, hzero, hkept] using h.ending

namespace ReplayedTo

variable {s : Snapshot} {excludes : String → Bool} {limit : Option Nat} {poll : Nat → Bool} {cut : Nat} {o : Outcome}

theorem ids (h : s.ReplayedTo excludes limit poll cut o) :
    o.graph.nodes.toList.map (·.id) = (s.keptBefore excludes cut).map (·.id) := by
  rw [h.nodes, List.map_map]
  rfl

theorem complete_iff (h : s.ReplayedTo excludes limit poll cut o) :
    o.completeness = .complete ↔ cut = s.nodes.length := by
  have hend := h.ending
  generalize o.completeness = c at hend ⊢
  cases hend with
  | complete he => simp [he]
  | cancelled he _ => simpa using Nat.ne_of_lt he
  | limited hn _ _ _ => simpa using Nat.ne_of_lt (List.getElem?_eq_some_iff.1 hn).1

theorem cancelled_iff (h : s.ReplayedTo excludes limit poll cut o) :
    o.completeness = .cancelled ↔ cut < s.nodes.length ∧ poll cut = true := by
  have hend := h.ending
  generalize o.completeness = c at hend ⊢
  cases hend with
  | complete he => simp [he]
  | cancelled he hp => simp [he, hp]
  | limited _ hp _ _ => simp [hp]

theorem limited_iff (h : s.ReplayedTo excludes limit poll cut o) (bound : Nat) :
    o.completeness = .limited bound ↔ limit = some bound ∧ (s.keptBefore excludes cut).length = bound ∧
      poll cut = false ∧ ∃ n, s.nodes[cut]? = some n ∧ s.excluded excludes n.method = false := by
  have hend := h.ending
  generalize o.completeness = c at hend ⊢
  cases hend with
  | complete he => simp [he]
  | cancelled he hp => simp [hp]
  | limited hn hp he hl =>
    simp only [Completeness.limited.injEq, hl, Option.some.injEq, hp, true_and]
    exact ⟨fun hb => ⟨hb, hb, _, hn, he⟩, fun hb => hb.1⟩

end ReplayedTo

theorem keptBefore_prefix (s : Snapshot) (excludes : String → Bool) (cut : Nat) :
    s.keptBefore excludes cut <+: s.kept excludes :=
  (List.take_prefix cut s.nodes).filter _

theorem keptBefore_length (s : Snapshot) (excludes : String → Bool) :
    s.keptBefore excludes s.nodes.length = s.kept excludes := by
  rw [keptBefore, List.take_length, kept]

/-- A node that is met and not excluded is kept beyond what was kept before it. -/
theorem keptBefore_length_lt {s : Snapshot} {excludes : String → Bool} {cut : Nat} {n : Node}
    (hn : s.nodes[cut]? = some n) (he : s.excluded excludes n.method = false) :
    (s.keptBefore excludes cut).length < (s.kept excludes).length := by
  have hsucc : s.keptBefore excludes (cut + 1) = s.keptBefore excludes cut ++ [n] := by
    rw [keptBefore, List.take_add_one, hn, List.filter_append, keptBefore]
    simp [he]
  have hle := (s.keptBefore_prefix excludes (cut + 1)).length_le
  rw [hsucc, List.length_append, List.length_singleton] at hle
  omega

/-- Nobody says stop and there is room for every node: the replay is complete. -/
theorem ReplayedTo.complete {s : Snapshot} {excludes : String → Bool} {limit : Option Nat} {poll : Nat → Bool}
    {cut : Nat} {o : Outcome} (h : s.ReplayedTo excludes limit poll cut o)
    (hpoll : ∀ i < s.nodes.length, poll i = false)
    (hroom : ∀ bound, limit = some bound → (s.kept excludes).length ≤ bound) : o.completeness = .complete := by
  cases hc : o.completeness with
  | complete => rfl
  | cancelled =>
    obtain ⟨hlt, hp⟩ := h.cancelled_iff.1 hc
    rw [hpoll cut hlt] at hp
    exact absurd hp (by simp)
  | limited bound =>
    obtain ⟨hl, hlen, -, n, hn, he⟩ := (h.limited_iff bound).1 hc
    have hlt := keptBefore_length_lt hn he
    exact absurd (hroom bound hl) (by omega)

end Snapshot

theorem ofSnapshot_eq_graph_iff {path : String} {files : FileTree} {request : Request} {stop : Nat → Bool}
    {o : Outcome} :
    Engine.ofSnapshot path files request stop = .graph o ↔
      ∃ s, Snapshot.load files path = .ok s ∧ s.mismatch? request.options = none ∧
        o = s.replay request.excludes request.options.nodeLimit? stop := by
  unfold Engine.ofSnapshot
  constructor
  · intro h
    split at h
    · simp at h
    · next s hload =>
      split at h
      · simp at h
      · next hfit => exact ⟨s, hload, hfit, (Build.graph.inj h).symm⟩
  · rintro ⟨s, hload, hfit, rfl⟩
    simp only [hload, hfit]

/-! ## Main theorem -/

open Snapshot in
/-- The replay of a snapshot that can be read and fits the request holds the nodes that are not excluded, up to a cut:
their targets are those of the snapshot that it holds too, and nothing else of them is changed. Before the cut nobody
said stop and there was room; the cut is at the first question answered with stop or at a node that is not excluded and
for which there is no room, if it is not at the end, and the outcome says which. -/
theorem ofSnapshot_longest_prefix {path : String} {files : FileTree} {request : Request} {s : Snapshot}
    (stop : Nat → Bool) (hload : Snapshot.load files path = .ok s) (hfit : s.mismatch? request.options = none) :
    ∃ o cut kept, Engine.ofSnapshot path files request stop = .graph o ∧
      kept = s.keptBefore request.excludes cut ∧ kept <+: s.kept request.excludes ∧
      o.graph.nodes.toList = kept.map (Node.retarget fun id => id ∈ kept.map (·.id)) ∧
      (∀ n ∈ o.graph.nodes.toList, ∀ c ∈ n.sites, ∀ id ∈ c.targets, id ∈ o.graph.nodes.toList.map (·.id)) ∧
      cut ≤ s.nodes.length ∧ (∀ i < cut, stop i = false) ∧
      (∀ bound : Nat, request.options.maxNodes.toInt = bound → kept.length ≤ bound) ∧
      (o.completeness = .cancelled ↔ cut < s.nodes.length ∧ stop cut = true) ∧
      (∀ bound : Nat, o.completeness = .limited bound ↔
        request.options.maxNodes.toInt = bound ∧ kept.length = bound ∧ stop cut = false ∧
          ∃ n, s.nodes[cut]? = some n ∧ s.excluded request.excludes n.method = false) ∧
      (o.completeness = .complete ↔ cut = s.nodes.length) ∧
      (o.completeness = .complete → kept = s.kept request.excludes) ∧
      ((∀ i < s.nodes.length, stop i = false) →
        (∀ bound : Nat, request.options.maxNodes.toInt = bound → (s.kept request.excludes).length ≤ bound) →
        o.completeness = .complete) := by
  have hlimit := request.options.nodeLimit?_eq_some_iff
  obtain ⟨cut, h⟩ := s.exists_replayedTo request.excludes request.options.nodeLimit? stop
  refine ⟨_, cut, _, ?_, rfl, keptBefore_prefix _ _ _, h.nodes, ?_, h.cut_le, h.polls,
    fun bound hb => h.room bound ((hlimit bound).2 hb), h.cancelled_iff, fun bound => ?_, h.complete_iff,
    fun hc => ?_, fun hp hr => h.complete hp fun bound hb => hr bound ((hlimit bound).1 hb)⟩
  · simp only [Engine.ofSnapshot, hload, hfit]
  · intro n hn c hc id hid
    rw [h.ids]
    rw [h.nodes, List.mem_map] at hn
    obtain ⟨n', -, rfl⟩ := hn
    obtain ⟨c', -, rfl⟩ := List.mem_map.1 hc
    simpa using (List.mem_filter.1 hid).2
  · rw [← hlimit]
    exact h.limited_iff bound
  · rw [h.complete_iff.1 hc, keptBefore_length]

/-! ## A replay that is cut short -/

theorem Snapshot.load_atRoot {t : FileTree} {path : String} {s : Snapshot} (name text : String)
    (hroot : FileTree.AtRoot path name) (hfile : t.get? [name] = some (.file text.toUTF8))
    (hread : (Json.read? (text.toList.map some)).bind Snapshot.ofJson? = some s) : Snapshot.load t path = .ok s := by
  simp only [Snapshot.load, hroot.find hfile (by simp), Json.ofBytes?_toUTF8, hread]

/-- A snapshot of three nodes, the second of a method of `B`; each record is the array of its fields. -/
def recordedText : String :=
  "[\"zero-cfa\",1,[],[[0,[\"LA\",\"f\",\"()V\"]],[1,[\"LB\",\"g\",\"()V\"]]]," ++
  "[[10,0,null,[[\"x\",1,[10,11,12]]]],[11,1],[12,0]]]"

def recorded : Snapshot where
  policy := .zeroCfa
  methods := [{ id := ⟨0⟩, signature := ⟨"LA", "f", "()V"⟩ }, { id := ⟨1⟩, signature := ⟨"LB", "g", "()V"⟩ }]
  nodes := [{ id := ⟨10⟩, method := ⟨0⟩, sites := [⟨"x", 1, [⟨10⟩, ⟨11⟩, ⟨12⟩]⟩] }, { id := ⟨11⟩, method := ⟨1⟩ },
    { id := ⟨12⟩, method := ⟨0⟩ }]

/-- A request for one node at most, and for no class with a `B` in its name. -/
def narrowRequest : Request where
  artifacts := []
  exclusions := [⟨"B", .set (.single 'B')⟩]
  options := { maxNodes := 1 }

theorem load_recorded : Snapshot.load ⟨[(["g"], .file recordedText.toUTF8)], []⟩ "/g" = .ok recorded :=
  Snapshot.load_atRoot "g" recordedText (by decide) (by simp [FileTree.get?]) (by cbv)

/-- The excluded node is passed over, and the third one is beyond the bound. -/
theorem ofSnapshot_recorded :
    ∃ o, Engine.ofSnapshot "/g" ⟨[(["g"], .file recordedText.toUTF8)], []⟩ narrowRequest (fun _ => false) = .graph o ∧
      o.completeness = .limited 1 ∧
      o.graph.nodes.toList = [{ id := ⟨10⟩, method := ⟨0⟩, sites := [⟨"x", 1, [⟨10⟩]⟩] }] := by
  have hfit : recorded.mismatch? narrowRequest.options = none := by decide
  have hmax : narrowRequest.options.maxNodes.toInt = (1 : Nat) := by decide
  obtain ⟨o, cut, kept, hrun, hkept, -, hnodes, -, hcut, -, hroom, hcancelled, hlimited, hcomplete, hall, -⟩ :=
    ofSnapshot_longest_prefix (fun _ => false) load_recorded hfit
  have hfull : ¬(recorded.kept narrowRequest.excludes).length ≤ 1 := by decide
  obtain ⟨bound, hc⟩ : ∃ bound, o.completeness = .limited bound := by
    cases hc : o.completeness with
    | complete => exact absurd (hroom 1 hmax) (hall hc ▸ hfull)
    | cancelled => exact absurd (hcancelled.1 hc).2 (by simp)
    | limited bound => exact ⟨bound, rfl⟩
  obtain ⟨hbound, hlength, -, n, hn, he⟩ := (hlimited bound).1 hc
  obtain rfl : bound = 1 := by omega
  obtain rfl : cut = 2 := by
    have hlt : cut < 3 := (List.getElem?_eq_some_iff.1 hn).1
    have hlengths : ∀ i < 3, (recorded.keptBefore narrowRequest.excludes i).length = 1 → i ≠ 1 → i = 2 := by
      decide
    refine hlengths cut hlt (hkept ▸ hlength) ?_
    rintro rfl
    have hsecond : ∀ n : Node, n ∈ recorded.nodes[1]? → recorded.excluded narrowRequest.excludes n.method = true := by
      decide
    rw [hsecond n hn] at he
    exact absurd he (by simp)
  refine ⟨o, hrun, hc, ?_⟩
  rw [hnodes, hkept]
  decide

end CallGraph
