import CallGraph.Proofs.Graph
import CallGraph.Walk
import Mathlib.Data.List.Forall2
/-!
# What a walk comes to

The edges ahead of a walk make a list, its `route`. `next_edge` says what one step does: it gives a record of the first
edge and leaves the others; `drain_names` says what the whole walk does.
-/

namespace CallGraph

/-- An edge and what there is to tell of it. -/
structure Edge where
  caller : Node
  method : Method
  site : CallSite
  target : NodeId

/-- How the record of an edge names its two ends. Where the graph does not know the target, nothing is said of it. -/
structure Edge.Names (g : Graph) (e : Edge) (r : Record) : Prop where
  caller : r.caller = e.method.signature.text
  target : ∀ n m, g.node? e.target = some n → g.method? n.method = some m → r.target = m.signature.text

/-- The edges of some call sites of a caller. -/
def edgesOfSites (n : Node) (m : Method) (sites : List CallSite) : List Edge :=
  sites.flatMap fun s => s.targets.map fun target => ⟨n, m, s, target⟩

/-- The edges of a caller; none if callers like it are left out. -/
def Graph.edgesOf (g : Graph) (options : Settings.Resolution) (n : Node) : List Edge :=
  match g.method? n.method with
  | none => []
  | some m => if options.excludeSynthetic && m.synthetic then [] else edgesOfSites n m n.sites

def Standpoint.route (p : Standpoint) : List Edge :=
  p.targets.map (fun target => ⟨p.caller, p.method, p.site, target⟩) ++ edgesOfSites p.caller p.method p.sites

namespace Walk

/-- The edges ahead, without those of callers that will be passed over. -/
def route (w : Walk) : List Edge :=
  w.standpoint.elim [] Standpoint.route ++ w.ahead.flatMap (w.graph.edgesOf w.options)

/-- The number of nodes that a walk has come to or has ahead. -/
def tally (w : Walk) : Nat := w.stats.nodesVisited + w.stats.syntheticSkipped + w.ahead.length

/-- The walk is at an edge, or at the end. -/
structure Arrived (w : Walk) : Prop where
  targets : ∀ p, w.standpoint = some p → p.targets ≠ []
  ahead : w.standpoint = none → w.ahead = []

/-! ## The start -/

theorem start_eq_ok {g : Graph} {locator : Locator} {options : Settings.Resolution} {w : Walk}
    (h : start g locator options = .ok w) :
    g.Sound ∧ w = { graph := g, options, locator, ahead := g.nodes.toList } := by
  unfold start at h
  cases hc : g.check with
  | error fault => simp [hc, Except.map] at h
  | ok u =>
    refine ⟨g.check_eq_ok_iff.1 hc, ?_⟩
    simpa [hc, Except.map] using h.symm

/-! ## Moving on -/

theorem enterSite_route (n : Node) (m : Method) (sites : List CallSite) :
    (enterSite n m sites).elim [] Standpoint.route = edgesOfSites n m sites := by
  induction sites with
  | nil => rfl
  | cons s rest ih =>
    unfold enterSite
    split
    · next hs => simpa [edgesOfSites, List.isEmpty_iff.1 hs] using ih
    · simp [Standpoint.route, edgesOfSites]

theorem enterSite_some {n : Node} {m : Method} {sites : List CallSite} {p : Standpoint}
    (h : enterSite n m sites = some p) :
    p.caller = n ∧ p.method = m ∧ p.targets ≠ [] ∧ p.description = none ∧ p.site ∈ sites ∧ p.sites ⊆ sites := by
  induction sites with
  | nil => simp [enterSite] at h
  | cons s rest ih =>
    unfold enterSite at h
    split at h
    · obtain ⟨hn, hm, ht, hd, hs, hr⟩ := ih h
      exact ⟨hn, hm, ht, hd, List.mem_cons_of_mem _ hs, fun x hx => List.mem_cons_of_mem _ (hr hx)⟩
    · next hs =>
      simp only [Option.some.injEq] at h
      subst h
      exact ⟨rfl, rfl, by simpa using hs, rfl, List.mem_cons_self, fun x hx => List.mem_cons_of_mem _ hx⟩

/-- Two walks that are alike but for where they are and which nodes they have counted. -/
structure SameLore (w w' : Walk) : Prop where
  graph : w'.graph = w.graph
  options : w'.options = w.options
  locator : w'.locator = w.locator
  contexts : w'.contexts = w.contexts
  edges : w'.stats.edges = w.stats.edges

theorem SameLore.trans {w₁ w₂ w₃ : Walk} (h : SameLore w₁ w₂) (h' : SameLore w₂ w₃) : SameLore w₁ w₃ :=
  ⟨h'.graph.trans h.graph, h'.options.trans h.options, h'.locator.trans h.locator, h'.contexts.trans h.contexts,
    h'.edges.trans h.edges⟩

theorem enterNode_lore (w : Walk) (ns : List Node) : SameLore w (w.enterNode ns) := by
  induction ns generalizing w with
  | nil => exact ⟨rfl, rfl, rfl, rfl, rfl⟩
  | cons n rest ih =>
    unfold enterNode
    split
    · exact ih w
    · split
      · have h := ih { w with stats.syntheticSkipped := w.stats.syntheticSkipped + 1 }
        exact ⟨h.graph, h.options, h.locator, h.contexts, h.edges⟩
      · dsimp only
        split
        · exact ⟨rfl, rfl, rfl, rfl, rfl⟩
        · have h := ih { w with stats.nodesVisited := w.stats.nodesVisited + 1 }
          exact ⟨h.graph, h.options, h.locator, h.contexts, h.edges⟩

theorem enterNode_arrived (w : Walk) (ns : List Node) : (w.enterNode ns).Arrived := by
  induction ns generalizing w with
  | nil => exact ⟨by simp [enterNode], fun _ => rfl⟩
  | cons n rest ih =>
    unfold enterNode
    split
    · exact ih w
    · split
      · exact ih _
      · dsimp only
        split
        · next p hp =>
          refine ⟨fun p' hp' => ?_, by simp⟩
          obtain rfl : p = p' := by simpa using hp'
          exact (enterSite_some hp).2.2.1
        · exact ih _

theorem enterNode_route (w : Walk) (ns : List Node) :
    (w.enterNode ns).route = ns.flatMap (w.graph.edgesOf w.options) := by
  induction ns generalizing w with
  | nil => rfl
  | cons n rest ih =>
    rw [List.flatMap_cons, Graph.edgesOf]
    unfold enterNode
    cases hm : w.graph.method? n.method with
    | none => exact ih w
    | some m =>
      dsimp only
      split
      · exact ih _
      · have hsite := enterSite_route n m n.sites
        cases hp : enterSite n m n.sites with
        | some p =>
          rw [← hsite, hp]
          rfl
        | none =>
          rw [← hsite, hp]
          exact ih _

theorem advance_lore (w : Walk) : SameLore w w.advance := by
  unfold advance
  split
  · exact enterNode_lore w w.ahead
  · split
    · exact ⟨rfl, rfl, rfl, rfl, rfl⟩
    · split
      · exact ⟨rfl, rfl, rfl, rfl, rfl⟩
      · exact enterNode_lore w w.ahead

theorem advance_arrived (w : Walk) : w.advance.Arrived := by
  unfold advance
  split
  · exact enterNode_arrived w w.ahead
  · next p hp =>
    split
    · next ht =>
      refine ⟨fun p' hp' => ?_, fun h => by simp [hp] at h⟩
      obtain rfl : p = p' := by simpa [hp] using hp'
      simpa using ht
    · split
      · next p' hp' =>
        refine ⟨fun p'' hp'' => ?_, by simp⟩
        obtain rfl : p' = p'' := by simpa using hp''
        exact (enterSite_some hp').2.2.1
      · exact enterNode_arrived w w.ahead

/-- To move on passes over nothing that a record would be made of. -/
theorem advance_route (w : Walk) : w.advance.route = w.route := by
  unfold advance
  split
  · next hp => rw [enterNode_route, route, hp, Option.elim_none, List.nil_append]
  · next p hp =>
    split
    · rfl
    · next ht =>
      -- No target is left here: the route goes on at the other call sites of the caller.
      have ht : p.targets = [] := by simpa using ht
      have hsite := enterSite_route p.caller p.method p.sites
      have hroute : w.route = edgesOfSites p.caller p.method p.sites ++ w.ahead.flatMap (w.graph.edgesOf w.options) := by
        rw [route, hp, Option.elim_some, Standpoint.route, ht, List.map_nil, List.nil_append]
      rw [hroute, ← hsite]
      split
      · next p' hp' => rw [hp', route]
      · next hp' => rw [hp', enterNode_route, Option.elim_none, List.nil_append]

/-! ## One step -/

/-- Without edges ahead a walk goes to the very end. -/
theorem advance_of_route_nil {w : Walk} (h : w.route = []) : w.advance.standpoint = none ∧ w.advance.ahead = [] := by
  have harr := advance_arrived w
  have hroute : w.advance.route = [] := (advance_route w).trans h
  have hp : w.advance.standpoint = none := by
    cases hp : w.advance.standpoint with
    | none => rfl
    | some p =>
      have ht := harr.targets p hp
      simp [route, hp, Standpoint.route, ht] at hroute
  exact ⟨hp, harr.ahead hp⟩

/-- At the end there is no record, and there is none later. -/
theorem next_of_route_nil {w : Walk} (t : FileTree) (h : w.route = []) :
    w.next t = (none, w.advance) ∧ w.advance.next t = (none, w.advance) := by
  obtain ⟨hp, ha⟩ := advance_of_route_nil h
  have hagain : w.advance.advance = w.advance := by
    rw [advance.eq_def w.advance, hp, ha]
    simp only [enterNode, ← hp, ← ha]
  constructor
  · rw [next, hp]
  · rw [next, hagain, hp]

/-- Before the end there is a record of the first edge. -/
theorem next_of_route_cons {w : Walk} (t : FileTree) {e : Edge} {rest : List Edge} (h : w.route = e :: rest) :
    ∃ p left, w.advance.standpoint = some p ∧ p.targets = e.target :: left ∧
      e = ⟨p.caller, p.method, p.site, e.target⟩ ∧
      rest = { w.advance with standpoint := some { p with targets := left } }.route ∧
      w.next t = (some (w.advance.record t { p with targets := left } e.target).1,
        (w.advance.record t { p with targets := left } e.target).2) := by
  have harr := advance_arrived w
  have hroute : w.advance.route = e :: rest := (advance_route w).trans h
  cases hp : w.advance.standpoint with
  | none => simp [route, hp, harr.ahead hp] at hroute
  | some p =>
    cases ht : p.targets with
    | nil => exact absurd ht (harr.targets p hp)
    | cons target left =>
      rw [route, hp, Option.elim_some, Standpoint.route, ht, List.map_cons, List.cons_append, List.cons_append,
        List.cons.injEq] at hroute
      obtain ⟨rfl, rfl⟩ := hroute
      refine ⟨p, left, rfl, ht, rfl, rfl, ?_⟩
      rw [next, hp]
      simp only [ht]

theorem record_names (w : Walk) (t : FileTree) (p : Standpoint) (target : NodeId) :
    Edge.Names w.graph ⟨p.caller, p.method, p.site, target⟩ (w.record t p target).1 := by
  refine ⟨rfl, fun n m hn hm => ?_⟩
  have hd := (describe_place w t p).trans (callerFrames_place (w.describe t p).2 p.caller)
  have hd' := hd.trans (targetFrames_place _ n)
  have hn : ((w.describe t p).2.callerFrames p.caller).2.graph.node? target = some n := by rwa [hd.graph]
  unfold record
  simp only [hn, signatureOf, hd'.graph]
  rw [hm]

/-- One step takes the first edge off the route. -/
theorem next_edge {w : Walk} (t : FileTree) {e : Edge} {rest : List Edge} (h : w.route = e :: rest) :
    ∃ r w', w.next t = (some r, w') ∧ e.Names w.graph r ∧ w'.route = rest ∧ w'.graph = w.graph := by
  obtain ⟨p, left, hp, ht, he, hrest, hnext⟩ := next_of_route_cons t h
  have hplace := record_place w.advance t { p with targets := left } e.target
  have hlore := advance_lore w
  refine ⟨_, _, hnext, ?_, ?_, hplace.graph.trans hlore.graph⟩
  · rw [he, ← hlore.graph]
    exact record_names w.advance t { p with targets := left } e.target
  · rw [hrest, route, route, hplace.standpoint, hplace.ahead, hplace.graph, hplace.options]
    rfl

/-! ## A whole walk -/

/-- All records ahead, and the walk at the end; the `k`-th step finds the files as they are in `files k`. -/
def drain (files : Nat → FileTree) (w : Walk) : List Record × Walk :=
  match _h : w.next (files 0) with
  | (none, w) => ([], w)
  | (some r, w') => (r :: (w'.drain fun k => files (k + 1)).1, (w'.drain fun k => files (k + 1)).2)
termination_by w.edges
decreasing_by all_goals exact edges_next _h

theorem drain_of_none {files : Nat → FileTree} {w w' : Walk} (h : w.next (files 0) = (none, w')) :
    w.drain files = ([], w') := by
  rw [drain]
  split
  · next h' =>
    rw [h] at h'
    simp only [Prod.mk.injEq, true_and] at h'
    rw [h']
  · next h' =>
    rw [h] at h'
    simp at h'

theorem drain_of_some {files : Nat → FileTree} {w w' : Walk} {r : Record} (h : w.next (files 0) = (some r, w')) :
    w.drain files = (r :: (w'.drain fun k => files (k + 1)).1, (w'.drain fun k => files (k + 1)).2) := by
  rw [drain]
  split
  · next h' =>
    rw [h] at h'
    simp at h'
  · next h' =>
    rw [h] at h'
    simp only [Prod.mk.injEq, Option.some.injEq] at h'
    rw [← h'.1, ← h'.2]

section
variable {R : Walk → Walk → Prop} {w w' : Walk} {n : Node} (h : R w w')
  (hdetail : w'.options.contextDetail = w.options.contextDetail)
  (hframes : (w'.framesOf n).1 = (w.framesOf n).1 ∧ R (w.framesOf n).2 (w'.framesOf n).2)
include h hdetail hframes

/-- Where both walks show contexts in the same detail, they show them alike if they come to the same frames. -/
theorem callerFrames_simulated :
    (w'.callerFrames n).1 = (w.callerFrames n).1 ∧ R (w.callerFrames n).2 (w'.callerFrames n).2 := by
  unfold callerFrames
  rw [hdetail]
  cases w.options.contextDetail with
  | full => exact hframes
  | target => exact ⟨rfl, h⟩
  | none => exact ⟨rfl, h⟩

theorem targetFrames_simulated :
    (w'.targetFrames n).1 = (w.targetFrames n).1 ∧ R (w.targetFrames n).2 (w'.targetFrames n).2 := by
  unfold targetFrames
  rw [hdetail]
  cases w.options.contextDetail with
  | full => exact hframes
  | target => exact hframes
  | none => exact ⟨rfl, h⟩

end

/-- Walks that go on making records alike, as long as they find their files alike, make lists of records alike. -/
theorem drain_simulated {R : Walk → Walk → Prop} {S : Record → Record → Prop} {M : FileTree → FileTree → Prop}
    (hstep : ∀ w w' t t', R w w' → M t t' → Option.Rel S (w.next t).1 (w'.next t').1 ∧ R (w.next t).2 (w'.next t').2)
    {w w' : Walk} (h : R w w') {files files' : Nat → FileTree} (hfiles : ∀ k, M (files k) (files' k)) :
    List.Forall₂ S (w.drain files).1 (w'.drain files').1 ∧ R (w.drain files).2 (w'.drain files').2 := by
  -- Each record uses up an edge ahead of the first walk; the second keeps up with it.
  induction hn : w.edges using Nat.strongRecOn generalizing w w' files files' with
  | _ n ih =>
    obtain ⟨hrecord, hnext⟩ := hstep w w' _ _ h (hfiles 0)
    rcases hu : w.next (files 0) with ⟨found, u⟩
    rcases hu' : w'.next (files' 0) with ⟨found', u'⟩
    rw [hu, hu'] at hrecord hnext
    cases hrecord with
    | none =>
      rw [drain_of_none hu, drain_of_none hu']
      exact ⟨.nil, hnext⟩
    | some hsame =>
      obtain ⟨hrest, hend⟩ := ih _ (hn ▸ edges_next hu) hnext (fun k => hfiles (k + 1)) rfl
      rw [drain_of_some hu, drain_of_some hu']
      exact ⟨.cons hsame hrest, hend⟩

theorem drain_names (files : Nat → FileTree) (w : Walk) :
    List.Forall₂ (Edge.Names w.graph) w.route (w.drain files).1 ∧
      ∀ t, (w.drain files).2.next t = (none, (w.drain files).2) := by
  -- The route gets shorter by one with each step, whatever files the step finds.
  generalize hr : w.route = es
  induction es generalizing w files with
  | nil =>
    obtain ⟨hnext, -⟩ := next_of_route_nil (files 0) hr
    rw [drain_of_none hnext]
    exact ⟨.nil, fun t => (next_of_route_nil t hr).2⟩
  | cons e rest ih =>
    obtain ⟨r, w', hnext, hnames, hroute, hgraph⟩ := next_edge (files 0) hr
    obtain ⟨hall, hend⟩ := ih (fun k => files (k + 1)) w' hroute
    rw [drain_of_some hnext]
    exact ⟨.cons hnames (hgraph ▸ hall), hend⟩

end Walk

end CallGraph
