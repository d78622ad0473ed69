import CallGraph.Proofs.Walk
/-!
# The positions of a graph

Every edge has a position: which node, which of its call sites, and which of the site's targets. A walk over a sound
graph comes to every position whose caller is not left out, once and in order: `drain_positions`.
-/

namespace CallGraph

/-- The place of an edge in a graph. -/
structure Position where
  node : Nat
  site : Nat
  target : Nat
  deriving DecidableEq, Repr

namespace Position

/-- The order of positions: by node, then by call site, then by target. -/
def Before (p q : Position) : Prop :=
  p.node < q.node ∨ p.node = q.node ∧ (p.site < q.site ∨ p.site = q.site ∧ p.target < q.target)

/-- What stands at a position of some nodes. -/
structure At (ns : List Node) (p : Position) (n : Node) (s : CallSite) (target : NodeId) : Prop where
  node : ns[p.node]? = some n
  site : n.sites[p.site]? = some s
  target : s.targets[p.target]? = some target

/-- The positions in the call sites of node number `i`. -/
def ofSites (i : Nat) (sites : List CallSite) : List Position :=
  sites.zipIdx.flatMap fun x => x.1.targets.zipIdx.map fun y => ⟨i, x.2, y.2⟩

/-- The positions in those of `ns` that `keep` accepts. -/
def ofNodes (keep : Node → Bool) (ns : List Node) : List Position :=
  ns.zipIdx.flatMap fun x => if keep x.1 then ofSites x.2 x.1.sites else []

/-! ## Which positions there are -/

theorem mem_ofSites {i : Nat} {sites : List CallSite} {p : Position} :
    p ∈ ofSites i sites ↔
      p.node = i ∧ ∃ s target, sites[p.site]? = some s ∧ s.targets[p.target]? = some target := by
  simp only [ofSites, List.mem_flatMap, List.mem_map, Prod.exists, List.mk_mem_zipIdx_iff_getElem?]
  constructor
  · rintro ⟨s, j, hs, target, k, ht, rfl⟩
    exact ⟨rfl, s, target, hs, ht⟩
  · rintro ⟨rfl, s, target, hs, ht⟩
    exact ⟨s, p.site, hs, target, p.target, ht, rfl⟩

theorem mem_ofNodes {keep : Node → Bool} {ns : List Node} {p : Position} :
    p ∈ ofNodes keep ns ↔ ∃ n s target, p.At ns n s target ∧ keep n = true := by
  simp only [ofNodes, List.mem_flatMap, Prod.exists, List.mk_mem_zipIdx_iff_getElem?]
  constructor
  · rintro ⟨n, i, hn, hp⟩
    split at hp
    · next hk =>
      obtain ⟨rfl, s, target, hs, ht⟩ := mem_ofSites.1 hp
      exact ⟨n, s, target, ⟨hn, hs, ht⟩, hk⟩
    · simp at hp
  · rintro ⟨n, s, target, ⟨hn, hs, ht⟩, hk⟩
    refine ⟨n, p.node, hn, ?_⟩
    rw [if_pos hk]
    exact mem_ofSites.2 ⟨rfl, s, target, hs, ht⟩

theorem node_of_mem {keep : Bool} {i : Nat} {sites : List CallSite} {p : Position}
    (h : p ∈ if keep then ofSites i sites else []) : p.node = i := by
  split at h
  · exact (mem_ofSites.1 h).1
  · simp at h

/-! ## Their order -/

theorem pairwise_zipIdx {α : Type} (xs : List α) : xs.zipIdx.Pairwise fun x y => x.2 < y.2 := by
  have h := List.pairwise_lt_range' (s := 0) (n := xs.length)
  rw [← List.zipIdx_map_snd, List.pairwise_map] at h
  exact h

theorem pairwise_ofSites (i : Nat) (sites : List CallSite) : (ofSites i sites).Pairwise Before := by
  rw [ofSites, List.pairwise_flatMap]
  constructor
  · rintro ⟨s, j⟩ -
    rw [List.pairwise_map]
    exact (pairwise_zipIdx s.targets).imp fun h => .inr ⟨rfl, .inr ⟨rfl, h⟩⟩
  · refine (pairwise_zipIdx sites).imp ?_
    rintro ⟨s, j⟩ ⟨s', j'⟩ hj p hp q hq
    obtain ⟨x, -, rfl⟩ := List.mem_map.1 hp
    obtain ⟨y, -, rfl⟩ := List.mem_map.1 hq
    exact .inr ⟨rfl, .inl hj⟩

theorem pairwise_ofNodes (keep : Node → Bool) (ns : List Node) : (ofNodes keep ns).Pairwise Before := by
  rw [ofNodes, List.pairwise_flatMap]
  constructor
  · rintro ⟨n, i⟩ -
    dsimp only
    split
    · exact pairwise_ofSites i n.sites
    · exact .nil
  · refine (pairwise_zipIdx ns).imp ?_
    rintro ⟨n, i⟩ ⟨n', i'⟩ hi p hp q hq
    refine .inl ?_
    rw [node_of_mem hp, node_of_mem hq]
    exact hi

/-! ## Their edges -/

theorem forall₂_flatMap {α β γ : Type} {R : β → γ → Prop} {f : α → List β} {g : α → List γ} {xs : List α}
    (h : ∀ x ∈ xs, List.Forall₂ R (f x) (g x)) : List.Forall₂ R (xs.flatMap f) (xs.flatMap g) := by
  induction xs with
  | nil => exact .nil
  | cons x xs ih =>
    rw [List.flatMap_cons, List.flatMap_cons]
    exact List.rel_append (h x List.mem_cons_self) (ih fun y hy => h y (List.mem_cons_of_mem _ hy))

theorem forall₂_flatMap_zipIdx {α β γ : Type} {R : β → γ → Prop} {f : α × Nat → List β} {g : α → List γ} {xs : List α}
    (h : ∀ x i, xs[i]? = some x → List.Forall₂ R (f (x, i)) (g x)) :
    List.Forall₂ R (xs.zipIdx.flatMap f) (xs.flatMap g) := by
  have hg : xs.flatMap g = xs.zipIdx.flatMap fun x => g x.1 := by
    conv_lhs => rw [← List.zipIdx_map_fst 0 xs, List.flatMap_map]
  rw [hg]
  apply forall₂_flatMap
  rintro ⟨x, i⟩ hx
  exact h x i (List.mk_mem_zipIdx_iff_getElem?.1 hx)

/-- An edge of a graph stands at a position. -/
structure Of (g : Graph) (p : Position) (e : Edge) : Prop where
  place : p.At g.nodes.toList e.caller e.site e.target
  method : g.method? e.caller.method = some e.method

theorem forall₂_ofSites {g : Graph} {n : Node} {m : Method} {i : Nat} (hn : g.nodes.toList[i]? = some n)
    (hm : g.method? n.method = some m) : List.Forall₂ (Of g) (ofSites i n.sites) (edgesOfSites n m n.sites) := by
  apply forall₂_flatMap_zipIdx
  intro s j hs
  have htargets : List.Forall₂ (Of g) (s.targets.zipIdx.flatMap fun y => [⟨i, j, y.2⟩])
      (s.targets.flatMap fun target => [⟨n, m, s, target⟩]) := by
    apply forall₂_flatMap_zipIdx
    intro target k ht
    exact .cons ⟨⟨hn, hs, ht⟩, hm⟩ .nil
  rwa [← List.map_eq_flatMap, ← List.map_eq_flatMap] at htargets

end Position

/-- Whether a caller is left out: its method is synthetic, and those are not wanted. -/
def Graph.leavesOut (g : Graph) (options : Settings.Resolution) (n : Node) : Bool :=
  options.excludeSynthetic && (g.method? n.method).any (·.synthetic)

open Position in
theorem Graph.Sound.forall₂_ofNodes {g : Graph} (h : g.Sound) (options : Settings.Resolution) :
    List.Forall₂ (Of g) (ofNodes (!g.leavesOut options ·) g.nodes.toList)
      (g.nodes.toList.flatMap (g.edgesOf options)) := by
  apply forall₂_flatMap_zipIdx
  intro n i hn
  obtain ⟨m, hm⟩ := h.method n (List.mem_of_getElem? hn)
  have hleft : g.leavesOut options n = (options.excludeSynthetic && m.synthetic) := by
    rw [leavesOut, hm, Option.any_some]
  simp only [edgesOf, hm, hleft]
  cases options.excludeSynthetic && m.synthetic with
  | true => exact .nil
  | false => exact forall₂_ofSites hn hm

theorem Graph.leavesOut_eq_false_iff (g : Graph) (options : Settings.Resolution) (n : Node) :
    g.leavesOut options n = false ↔
      ¬(options.excludeSynthetic = true ∧ ∃ m, g.method? n.method = some m ∧ m.synthetic = true) := by
  rw [← Bool.not_eq_true, leavesOut, Bool.and_eq_true, Option.any_eq_true]

theorem length_edgesOfSites (n : Node) (m : Method) (sites : List CallSite) :
    (edgesOfSites n m sites).length = targetCount sites := by
  induction sites with
  | nil => rfl
  | cons s rest ih =>
    rw [edgesOfSites] at ih ⊢
    rw [List.flatMap_cons, List.length_append, List.length_map, ih, targetCount]

/-- With no caller left out, there are as many edges to walk as the graph counts. -/
theorem Graph.Sound.length_edges {g : Graph} (h : g.Sound) {options : Settings.Resolution}
    (hall : options.excludeSynthetic = false) : (g.nodes.toList.flatMap (g.edgesOf options)).length = g.edgeCount := by
  have hmethod := h.method
  rw [edgeCount]
  revert hmethod
  generalize g.nodes.toList = ns
  intro hmethod
  induction ns with
  | nil => rfl
  | cons n ns ih =>
    obtain ⟨m, hm⟩ := hmethod n List.mem_cons_self
    have hn : g.edgesOf options n = edgesOfSites n m n.sites := by simp [edgesOf, hm, hall]
    rw [List.flatMap_cons, List.length_append, hn, length_edgesOfSites, edgesFrom,
      ih fun n' hn' => hmethod n' (List.mem_cons_of_mem _ hn')]

/-! ## Main theorem -/

/-- A record names the methods at both ends of the edge at a position. -/
def Position.Told (g : Graph) (p : Position) (r : Record) : Prop :=
  ∃ n s target m n' m', p.At g.nodes.toList n s target ∧ g.method? n.method = some m ∧
    g.node? target = some n' ∧ g.method? n'.method = some m' ∧
    r.caller = m.signature.text ∧ r.target = m'.signature.text

theorem Graph.Sound.told {g : Graph} (h : g.Sound) {p : Position} {e : Edge} {r : Record} (hp : p.Of g e)
    (hr : e.Names g r) : p.Told g r := by
  have hplace := hp.place
  have hn := List.mem_of_getElem? hplace.node
  obtain ⟨n', hn'⟩ := h.target e.caller hn e.site (List.mem_of_getElem? hplace.site) e.target
    (List.mem_of_getElem? hplace.target)
  obtain ⟨m', hm'⟩ := h.method n' (Graph.mem_of_node? hn').1
  exact ⟨e.caller, e.site, e.target, e.method, n', m', hplace, hp.method, hn', hm', hr.caller, hr.target n' m' hn' hm'⟩

theorem forall₂_trans {α β γ : Type} {R : α → β → Prop} {S : β → γ → Prop} {T : α → γ → Prop}
    (h : ∀ a b c, R a b → S b c → T a c) {as : List α} {bs : List β} {cs : List γ} (hab : List.Forall₂ R as bs)
    (hbc : List.Forall₂ S bs cs) : List.Forall₂ T as cs := by
  induction hab generalizing cs with
  | nil =>
    cases hbc
    exact .nil
  | cons hr _ ih =>
    cases hbc with
    | cons hs hrest => exact .cons (h _ _ _ hr hs) (ih hrest)

/-- A walk over a graph comes to each position whose caller is not left out, in order, and gives one record for each,
which names the methods at both ends. Without callers left out, there are as many records as the graph has edges. Behind
the last record there is none, and to ask for more changes nothing. -/
theorem drain_positions {g : Graph} {locator : Locator} {options : Settings.Resolution} {w : Walk}
    (files : Nat → FileTree) (h : Walk.start g locator options = .ok w) :
    ∃ ps : List Position, ps.Pairwise Position.Before ∧
      (∀ p, p ∈ ps ↔ ∃ n s target, p.At g.nodes.toList n s target ∧
        ¬(options.excludeSynthetic = true ∧ ∃ m, g.method? n.method = some m ∧ m.synthetic = true)) ∧
      List.Forall₂ (Position.Told g) ps (w.drain files).1 ∧
      (options.excludeSynthetic = false → (w.drain files).1.length = g.edgeCount) ∧
      ∀ t, (w.drain files).2.next t = (none, (w.drain files).2) := by
  obtain ⟨hsound, hw⟩ := Walk.start_eq_ok h
  have hgraph : w.graph = g := by rw [hw]
  have hroute : w.route = g.nodes.toList.flatMap (g.edgesOf options) := by
    rw [hw]
    rfl
  obtain ⟨hnames, hend⟩ := w.drain_names files
  rw [hgraph, hroute] at hnames
  -- Positions and edges of a sound graph go side by side, and so do edges and records.
  refine ⟨Position.ofNodes (!g.leavesOut options ·) g.nodes.toList, Position.pairwise_ofNodes _ _, ?_, ?_, ?_, hend⟩
  · intro p
    simp only [Position.mem_ofNodes, Bool.not_eq_true', Graph.leavesOut_eq_false_iff]
  · have htold : ∀ p e r, Position.Of g p e → Edge.Names g e r → Position.Told g p r := fun _ _ _ => hsound.told
    exact forall₂_trans htold (hsound.forall₂_ofNodes options) hnames
  · intro hall
    rw [← hnames.length_eq, hsound.length_edges hall]

/-- One node that calls itself from two call sites, and twice from the second. -/
def loopGraph : Graph :=
  (Graph.empty.addMethod { id := ⟨0⟩, signature := ⟨"LA", "f", "()V"⟩ }).addNode
    { id := ⟨7⟩, method := ⟨0⟩, sites := [⟨"x", 1, [⟨7⟩]⟩, ⟨"y", 2, [⟨7⟩, ⟨7⟩]⟩] }

theorem loopGraph_sound : loopGraph.Sound := Graph.sound_single rfl (by simp)

theorem drain_loopGraph :
    ∃ w, Walk.start loopGraph (.ofArchives [] .first) {} = .ok w ∧ (w.drain fun _ => ⟨[], []⟩).1.length = 3 := by
  have hstart : Walk.start loopGraph (.ofArchives [] .first) {} =
      .ok { graph := loopGraph, options := {}, locator := .ofArchives [] .first, ahead := loopGraph.nodes.toList } := by
    rw [Walk.start, loopGraph.check_eq_ok_iff.2 loopGraph_sound]
    rfl
  obtain ⟨ps, -, -, -, hlength, -⟩ := drain_positions (fun _ => ⟨[], []⟩) hstart
  refine ⟨_, hstart, (hlength rfl).trans ?_⟩
  simp [Graph.edgeCount, loopGraph, Graph.nodes_addNode, Graph.nodes_addMethod, Graph.empty, edgesFrom, targetCount]

end CallGraph
