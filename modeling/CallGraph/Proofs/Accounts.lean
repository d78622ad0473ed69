import CallGraph.Proofs.Cursor
import CallGraph.Proofs.Sources
import Mathlib.Data.Finset.Card
/-!
# What a walk counts

After any number of requests the counts of a walk are those of the positions it has told of: how many there are, how
many of their call sites have no line or no answer, and for how many nodes frames were asked for that there are not.
What is remembered is never counted again. `requests_account` says so, and that frames are shown as if resolved anew.
-/

namespace CallGraph

/-! ## What there is to count -/

/-- The method and the call site at a place. -/
def Graph.siteAt? (g : Graph) (place : Nat × Nat) : Option (Method × CallSite) := do
  let n ← g.nodes[place.1]?
  let c ← n.sites[place.2]?
  let m ← g.method? n.method
  return (m, c)

namespace Position

/-- The node that calls at a position. -/
def caller? (g : Graph) (p : Position) : Option Node := g.nodes[p.node]?

/-- The node that is called at a position. -/
def target? (g : Graph) (p : Position) : Option Node := do
  let n ← g.nodes[p.node]?
  let c ← n.sites[p.site]?
  let target ← c.targets[p.target]?
  g.node? target

/-- The nodes whose frames are asked for by the record of a position. -/
def needs (g : Graph) (options : Settings.Resolution) (p : Position) : List Node :=
  match options.contextDetail with
  | .none => []
  | .target => (p.target? g).toList
  | .full => (p.caller? g).toList ++ (p.target? g).toList

end Position

/-- What stands at a position. -/
theorem Position.Of.ends {g : Graph} (hg : g.Sound) {x : Position} {e : Edge} (h : x.Of g e) :
    x.caller? g = some e.caller ∧ g.node? e.caller.id = some e.caller ∧
      g.siteAt? x.place = some (e.method, e.site) ∧
      ∃ n, g.node? e.target = some n ∧ x.target? g = some n := by
  have hnode : g.nodes[x.node]? = some e.caller := by rw [← Array.getElem?_toList]; exact h.place.node
  have hmem := List.mem_of_getElem? h.place.node
  obtain ⟨n, hn⟩ := hg.target e.caller hmem e.site (List.mem_of_getElem? h.place.site) e.target
    (List.mem_of_getElem? h.place.target)
  refine ⟨hnode, hg.node?_id hmem, ?_, n, hn, ?_⟩
  · simp [Graph.siteAt?, Position.place, hnode, h.place.site, h.method]
  · simp [Position.target?, hnode, h.place.site, h.place.target, hn]

/-- The frames of a node as text, resolved anew; none if its context does not resolve. -/
def Node.frameTexts? (n : Node) (g : Graph) (options : Settings.Resolution) : Option (List String) :=
  (n.context.frames g options).toOption.map (·.map Frame.text)

/-- A record shows the frames that are asked for, and no frames where a context does not resolve. -/
structure Position.ShowsFrames (g : Graph) (options : Settings.Resolution) (p : Position) (r : Record) : Prop where
  caller : ∃ n, p.caller? g = some n ∧
    r.callerContext = if options.contextDetail = .full then (n.frameTexts? g options).getD [] else []
  target : ∃ n, p.target? g = some n ∧
    r.targetContext = if options.contextDetail = .none then [] else (n.frameTexts? g options).getD []

namespace Walk

/-- What a walk finds out about a call site, if it is looked up while the files are as in `t`. -/
def findAt? (w : Walk) (t : FileTree) (place : Nat × Nat) : Option (Except Unresolved (Option SourceLine)) :=
  if w.options.sourceNumbers then
    (w.graph.siteAt? place).map fun x => (w.locator.locate t x.1 x.2 w.options.sourceText).1
  else none

/-- The call site has no line. -/
def misses (w : Walk) (t : FileTree) (place : Nat × Nat) : Bool :=
  match w.findAt? t place with
  | some (.ok none) => true
  | _ => false

/-- There is no telling whether the call site has a line. -/
def fails (w : Walk) (t : FileTree) (place : Nat × Nat) : Bool :=
  match w.findAt? t place with
  | some (.error _) => true
  | _ => false

/-! ## Frames -/

theorem card_filter_insert {α : Type} [DecidableEq α] (keep : α → Prop) [DecidablePred keep] {a : α} {s : Finset α}
    (h : a ∉ s) : ((insert a s).filter keep).card = (s.filter keep).card + if keep a then 1 else 0 := by
  rw [Finset.filter_insert]
  split
  · rw [Finset.card_insert_of_notMem (by simp [h])]
  · rfl

/-- Frames that are not remembered are resolved, and missing ones are counted. -/
theorem framesOf_of_unknown {w : Walk} {n : Node} (h : w.contexts[n.id]? = none) :
    w.framesOf n = ((n.frameTexts? w.graph w.options).getD [],
      { w with
        contexts := w.contexts.insert n.id ((n.frameTexts? w.graph w.options).getD [])
        stats.degradedContexts :=
          w.stats.degradedContexts + if n.frameTexts? w.graph w.options = none then 1 else 0 }) := by
  rw [framesOf, h, Node.frameTexts?]
  cases n.context.frames w.graph w.options <;> rfl

/-- A walk remembers the frames of these nodes and of no others, and has counted those that have none. -/
structure Knows (w : Walk) (nodes : Finset Node) : Prop where
  ids : ∀ n ∈ nodes, w.graph.node? n.id = some n
  contexts : ∀ id frames, w.contexts[id]? = some frames ↔
    ∃ n ∈ nodes, n.id = id ∧ (n.frameTexts? w.graph w.options).getD [] = frames
  degraded : w.stats.degradedContexts = (nodes.filter fun n => n.frameTexts? w.graph w.options = none).card

theorem Knows.framesOf {w : Walk} {nodes : Finset Node} (h : w.Knows nodes) {n : Node}
    (hn : w.graph.node? n.id = some n) :
    (w.framesOf n).1 = (n.frameTexts? w.graph w.options).getD [] ∧ (w.framesOf n).2.Knows (insert n nodes) := by
  have hids : ∀ n' ∈ insert n nodes, w.graph.node? n'.id = some n' := by
    intro n' hn'
    rcases Finset.mem_insert.1 hn' with rfl | hn'
    · exact hn
    · exact h.ids n' hn'
  by_cases hmem : n ∈ nodes
  · have hknown := (h.contexts n.id _).2 ⟨n, hmem, rfl, rfl⟩
    rw [Walk.framesOf, hknown, Finset.insert_eq_of_mem hmem]
    exact ⟨rfl, h⟩
  · -- Another node with this id would be the same node, so nothing is remembered for it.
    have hunknown : w.contexts[n.id]? = none := by
      rw [Option.eq_none_iff_forall_ne_some]
      intro frames hframes
      obtain ⟨n', hn', hid, -⟩ := (h.contexts n.id frames).1 hframes
      obtain rfl : n' = n := Option.some.inj ((h.ids n' hn').symm.trans (hid ▸ hn))
      exact hmem hn'
    rw [framesOf_of_unknown hunknown]
    refine ⟨rfl, hids, fun id known => ?_, ?_⟩
    · rw [Std.HashMap.getElem?_insert]
      simp only [Finset.mem_insert, exists_eq_or_imp, ← h.contexts]
      by_cases hid : n.id = id
      · subst hid
        simp [hunknown]
      · simp [hid]
    · rw [card_filter_insert _ hmem, ← h.degraded]

theorem Knows.callerFrames {w : Walk} {nodes : Finset Node} (h : w.Knows nodes) {n : Node}
    (hn : w.graph.node? n.id = some n) :
    (w.callerFrames n).1 = (if w.options.contextDetail = .full then (n.frameTexts? w.graph w.options).getD [] else []) ∧
      (w.callerFrames n).2.Knows (if w.options.contextDetail = .full then insert n nodes else nodes) := by
  unfold Walk.callerFrames
  cases w.options.contextDetail with
  | full => exact h.framesOf hn
  | target | none => exact ⟨rfl, h⟩

theorem Knows.targetFrames {w : Walk} {nodes : Finset Node} (h : w.Knows nodes) {n : Node}
    (hn : w.graph.node? n.id = some n) :
    (w.targetFrames n).1 = (if w.options.contextDetail = .none then [] else (n.frameTexts? w.graph w.options).getD []) ∧
      (w.targetFrames n).2.Knows (if w.options.contextDetail = .none then nodes else insert n nodes) := by
  unfold Walk.targetFrames
  cases w.options.contextDetail with
  | full | target => exact h.framesOf hn
  | none => exact ⟨rfl, h⟩

/-- To look up a call site has nothing to do with frames. -/
theorem Knows.lookUp {w : Walk} {nodes : Finset Node} (h : w.Knows nodes) (t : FileTree) (p : Standpoint) :
    (w.lookUp t p).2.Knows nodes := by
  unfold Walk.lookUp
  split
  · exact h
  · split <;> exact ⟨h.ids, h.contexts, h.degraded⟩

theorem Knows.describe {w : Walk} {nodes : Finset Node} (h : w.Knows nodes) (t : FileTree) (p : Standpoint) :
    (w.describe t p).2.Knows nodes := by
  have hlookUp := h.lookUp t p
  unfold Walk.describe
  cases p.description with
  | some text => exact ⟨h.ids, h.contexts, h.degraded⟩
  | none => exact ⟨hlookUp.ids, hlookUp.contexts, hlookUp.degraded⟩

/-! ## Call sites -/

/-- A walk has counted these call sites and no others, by what the walk `s` would find out about them. -/
structure Located (s : Walk) (places : Finset (Nat × Nat)) (w : Walk) : Prop where
  options : w.options = s.options
  rule : w.locator.rule = s.locator.rule
  unresolved : ∀ t, w.stats.unresolvedSites = (places.filter (s.misses t ·)).card
  degraded : ∀ t, w.stats.degradedSites = (places.filter (s.fails t ·)).card

/-- A call site that is looked up is counted, as it would have been with any other files. -/
theorem Located.lookUp {s w : Walk} {places : Finset (Nat × Nat)} (h : Located s places w) {p : Standpoint}
    {place : Nat × Nat} (hplace : s.graph.siteAt? place = some (p.method, p.site)) (hnew : place ∉ places)
    (t : FileTree) : Located s (insert place places) (w.lookUp t p).2 := by
  -- What is found is a matter of the rule, which both walks share.
  have hfound (t' : FileTree) :
      (w.lookUp t p).2.stats.unresolvedSites = w.stats.unresolvedSites + (if s.misses t' place then 1 else 0) ∧
        (w.lookUp t p).2.stats.degradedSites = w.stats.degradedSites + (if s.fails t' place then 1 else 0) := by
    have halike := Locator.locate_alike h.rule t' t p.method p.site s.options.sourceText
    unfold Walk.lookUp misses fails findAt?
    rw [hplace, h.options]
    cases s.options.sourceNumbers with
    | false => exact ⟨rfl, rfl⟩
    | true =>
      simp only [Bool.not_true, Bool.false_eq_true, if_false, if_true, Option.map_some]
      rcases hl : w.locator.locate t p.method p.site s.options.sourceText with ⟨answer, locator⟩
      rw [hl] at halike
      generalize (s.locator.locate t' p.method p.site s.options.sourceText).1 = answer' at halike
      cases halike <;> exact ⟨rfl, rfl⟩
  refine ⟨(lookUp_place w t p).options.trans h.options, ?_, fun t' => ?_, fun t' => ?_⟩
  · rcases lookUp_locator w t p with hl | hl
    · rw [hl, h.rule]
    · rw [hl, Locator.locate_rule, h.rule]
  · rw [card_filter_insert _ hnew, ← h.unresolved t']
    exact (hfound t').1
  · rw [card_filter_insert _ hnew, ← h.degraded t']
    exact (hfound t').2

/-- Described for the first time, a call site is counted; later it is not. -/
theorem Located.describe {s w : Walk} {places : Finset (Nat × Nat)} (h : Located s places w) {p : Standpoint}
    {place : Nat × Nat} (hplace : s.graph.siteAt? place = some (p.method, p.site))
    (hknown : p.description.isSome = true ↔ place ∈ places) (t : FileTree) :
    Located s (insert place places) (w.describe t p).2 := by
  unfold Walk.describe
  cases hd : p.description with
  | some text =>
    rw [Finset.insert_eq_of_mem (hknown.1 (by rw [hd]; rfl))]
    exact ⟨h.options, h.rule, h.unresolved, h.degraded⟩
  | none =>
    have hlookUp := h.lookUp hplace (fun hmem => by simpa [hd] using hknown.2 hmem) t
    exact ⟨hlookUp.options, hlookUp.rule, hlookUp.unresolved, hlookUp.degraded⟩

theorem Located.framesOf {s w : Walk} {places : Finset (Nat × Nat)} (h : Located s places w) (n : Node) :
    Located s places (w.framesOf n).2 := by
  unfold Walk.framesOf
  split
  · exact h
  · dsimp only
    split <;> exact ⟨h.options, h.rule, h.unresolved, h.degraded⟩

theorem Located.callerFrames {s w : Walk} {places : Finset (Nat × Nat)} (h : Located s places w) (n : Node) :
    Located s places (w.callerFrames n).2 := by
  unfold Walk.callerFrames
  split
  · exact h.framesOf n
  all_goals exact h

theorem Located.targetFrames {s w : Walk} {places : Finset (Nat × Nat)} (h : Located s places w) (n : Node) :
    Located s places (w.targetFrames n).2 := by
  unfold Walk.targetFrames
  split
  · exact h.framesOf n
  · exact h.framesOf n
  · exact h

/-! ## One record -/

/-- The nodes that a record of `x` adds to those that are known. -/
theorem union_needs {g : Graph} {options : Settings.Resolution} {x : Position} {caller target : Node}
    (hcaller : x.caller? g = some caller) (htarget : x.target? g = some target) (nodes : Finset Node) :
    nodes ∪ (x.needs g options).toFinset =
      let nodes := if options.contextDetail = .full then insert caller nodes else nodes
      if options.contextDetail = .none then nodes else insert target nodes := by
  unfold Position.needs
  rw [hcaller, htarget]
  cases options.contextDetail with
  | none => simp
  | target => simp [Finset.union_singleton]
  | full =>
    ext n
    simp only [Finset.mem_union, List.mem_toFinset, Option.toList_some, List.cons_append, List.nil_append,
      List.mem_cons, List.not_mem_nil, or_false, reduceCtorEq, if_false, if_true, Finset.mem_insert]
    tauto

/-- A record shows the frames of both ends as far as they are asked for; afterwards the walk knows them. -/
theorem Knows.record {w : Walk} {nodes : Finset Node} (h : w.Knows nodes) (t : FileTree) {p : Standpoint}
    {target : NodeId} {n : Node} {x : Position} (hcaller : w.graph.node? p.caller.id = some p.caller)
    (hn : w.graph.node? target = some n) (hx : x.caller? w.graph = some p.caller) (hx' : x.target? w.graph = some n) :
    x.ShowsFrames w.graph w.options (w.record t p target).1 ∧
      (w.record t p target).2.Knows (nodes ∪ (x.needs w.graph w.options).toFinset) := by
  have hdescribed := describe_place w t p
  have hcalled := hdescribed.trans (callerFrames_place (w.describe t p).2 p.caller)
  have hself : w.graph.node? n.id = some n := by rw [(Graph.mem_of_node? hn).2, hn]
  have hnode : ((w.describe t p).2.callerFrames p.caller).2.graph.node? target = some n := by rw [hcalled.graph, hn]
  obtain ⟨hcallerContext, hknows⟩ := (h.describe t p).callerFrames (n := p.caller) (by rw [hdescribed.graph, hcaller])
  obtain ⟨htargetContext, hknows'⟩ := hknows.targetFrames (n := n) (by rw [hcalled.graph, hself])
  rw [hdescribed.graph, hdescribed.options] at hcallerContext
  rw [hcalled.graph, hcalled.options] at htargetContext
  rw [hcalled.options, hdescribed.options] at hknows'
  unfold Walk.record
  simp only [hnode]
  refine ⟨⟨⟨p.caller, hx, hcallerContext⟩, n, hx', htargetContext⟩, ?_⟩
  rw [union_needs hx hx']
  exact ⟨hknows'.ids, hknows'.contexts, hknows'.degraded⟩

theorem Located.record {s w : Walk} {places : Finset (Nat × Nat)} (h : Located s places w) {p : Standpoint}
    {place : Nat × Nat} (hplace : s.graph.siteAt? place = some (p.method, p.site))
    (hknown : p.description.isSome = true ↔ place ∈ places) (t : FileTree) (target : NodeId) :
    Located s (insert place places) (w.record t p target).2 := by
  have hcalled := (h.describe hplace hknown t).callerFrames p.caller
  unfold Walk.record
  dsimp only
  split
  · next n _ =>
    have htargeted := hcalled.targetFrames n
    exact ⟨htargeted.options, htargeted.rule, htargeted.unresolved, htargeted.degraded⟩
  · exact ⟨hcalled.options, hcalled.rule, hcalled.unresolved, hcalled.degraded⟩

/-! ## One request -/

/-- How a walk from `s` stands that has told of some positions and has others left. -/
structure Accounted (s : Walk) (told left : List Position) (w : Walk) : Prop where
  graph : w.graph = s.graph
  stands : w.Stands told left
  route : List.Forall₂ (Position.Of s.graph) left w.route
  positions : told ++ left = s.graph.positions s.options
  edges : w.stats.edges = told.length
  nodes : ∃ reached, s.graph.nodes.toList = reached ++ w.ahead ∧
    w.stats.nodesVisited = reached.countP (!s.graph.leavesOut s.options ·) ∧
    w.stats.syntheticSkipped = reached.countP (s.graph.leavesOut s.options ·)
  located : Located s (told.map Position.place).toFinset w
  knows : w.Knows (told.flatMap (Position.needs s.graph s.options)).toFinset

variable {s w : Walk} {told left : List Position}

theorem Accounted.methods (h : Accounted s told left w) (hs : s.graph.Sound) :
    ∀ n ∈ w.ahead, ∃ m, w.graph.method? n.method = some m := by
  obtain ⟨reached, hnodes, -⟩ := h.nodes
  rw [h.graph]
  exact fun n hn => hs.method n (hnodes ▸ List.mem_append_right reached hn)

theorem Accounted.advance_nodes (h : Accounted s told left w) (hs : s.graph.Sound) :
    ∃ reached, s.graph.nodes.toList = reached ++ w.advance.ahead ∧
      w.advance.stats.nodesVisited = reached.countP (!s.graph.leavesOut s.options ·) ∧
      w.advance.stats.syntheticSkipped = reached.countP (s.graph.leavesOut s.options ·) := by
  obtain ⟨reached, hnodes, hvisited, hskipped⟩ := h.nodes
  obtain ⟨passed, hahead, hstats⟩ := advance_stats (h.methods hs)
  refine ⟨reached ++ passed, ?_, ?_, ?_⟩
  · rw [hnodes, hahead, List.append_assoc]
  · rw [hstats, List.countP_append, ← hvisited, h.graph, h.located.options]
    rfl
  · rw [hstats, List.countP_append, ← hskipped, h.graph, h.located.options]
    rfl

/-- To move on is to look up nothing. -/
theorem Accounted.advance_located (h : Accounted s told left w) (hs : s.graph.Sound) :
    Located s (told.map Position.place).toFinset w.advance := by
  obtain ⟨passed, -, hstats⟩ := advance_stats (h.methods hs)
  have hlore := advance_lore w
  refine ⟨hlore.options.trans h.located.options, ?_, ?_, ?_⟩
  · rw [hlore.locator]
    exact h.located.rule
  · rw [hstats]
    exact h.located.unresolved
  · rw [hstats]
    exact h.located.degraded

theorem Accounted.advance_knows (h : Accounted s told left w) (hs : s.graph.Sound) :
    w.advance.Knows (told.flatMap (Position.needs s.graph s.options)).toFinset := by
  obtain ⟨passed, -, hstats⟩ := advance_stats (h.methods hs)
  have hlore := advance_lore w
  refine ⟨?_, ?_, ?_⟩
  · rw [hlore.graph]
    exact h.knows.ids
  · rw [hlore.graph, hlore.options, hlore.contexts]
    exact h.knows.contexts
  · rw [hlore.graph, hlore.options, hstats]
    exact h.knows.degraded

/-- Without a position left there is no record; all nodes have been reached then. -/
theorem Accounted.next_nil (h : Accounted s told [] w) (hs : s.graph.Sound) (t : FileTree) :
    ∃ w', w.next t = (none, w') ∧ Accounted s told [] w' ∧ w'.ahead = [] := by
  have hroute : w.route = [] := List.forall₂_nil_left_iff.1 h.route
  have hlore := advance_lore w
  obtain ⟨hplace, hahead⟩ := advance_of_route_nil hroute
  refine ⟨w.advance, (next_of_route_nil t hroute).1, ?_, hahead⟩
  exact {
    graph := hlore.graph.trans h.graph
    stands := .finish hplace hahead
    route := by rw [advance_route]; exact h.route
    positions := h.positions
    edges := hlore.edges.trans h.edges
    nodes := h.advance_nodes hs
    located := h.advance_located hs
    knows := h.advance_knows hs }

/-- Otherwise there is the record of the first one. -/
theorem Accounted.next_cons {x : Position} (h : Accounted s told (x :: left) w) (hs : s.graph.Sound) (t : FileTree) :
    ∃ r w', w.next t = (some r, w') ∧ x.Told s.graph r ∧ x.ShowsFrames s.graph s.options r ∧
      Accounted s (told ++ [x]) left w' ∧ x.node + 1 + w'.ahead.length = s.graph.nodes.size := by
  obtain ⟨e, rest, hx, hrest, hroute⟩ := List.forall₂_cons_left_iff.1 h.route
  have hlore := advance_lore w
  have hgraph : w.advance.graph = s.graph := hlore.graph.trans h.graph
  have hoptions : w.advance.options = s.options := hlore.options.trans h.located.options
  have hpair : told.Pairwise Position.Before := by
    have hall := Position.pairwise_ofNodes (!s.graph.leavesOut s.options ·) s.graph.nodes.toList
    rw [← Graph.positions, ← h.positions] at hall
    exact (List.pairwise_append.1 hall).1
  obtain ⟨p, targets, hp, htargets, he, hleft, hnext⟩ := next_of_route_cons t hroute
  obtain ⟨caller, method, site, target⟩ := e
  obtain ⟨rfl, rfl, rfl, -⟩ := Edge.mk.inj he
  -- The walk stands at this very edge, and so at this very position.
  obtain ⟨p', target', targets', hpoised⟩ := h.stands.advance (h.methods hs) hpair
  obtain rfl : p = p' := Option.some.inj (hp.symm.trans hpoised.place)
  obtain ⟨rfl, rfl⟩ := List.cons.inj (htargets.symm.trans hpoised.targets)
  obtain ⟨hcaller, hself, hsite, n, hn, htarget⟩ := hx.ends hs
  have hplace := record_place w.advance t { p with targets } target
  obtain ⟨hshows, hknows⟩ := (h.advance_knows hs).record t (p := { p with targets }) (by rw [hgraph]; exact hself)
    (by rw [hgraph]; exact hn) (by rw [hgraph]; exact hcaller) (by rw [hgraph]; exact htarget)
  rw [hgraph, hoptions] at hshows hknows
  have hlocated := (h.advance_located hs).record (p := { p with targets }) hsite
    (by rw [List.mem_toFinset]; exact hpoised.known) t target
  have hnames := record_names w.advance t { p with targets } target
  rw [hgraph] at hnames
  refine ⟨_, _, hnext, hs.told hx hnames, hshows, ?_, ?_⟩
  · exact {
      graph := hplace.graph.trans hgraph
      stands := hpoised.record t
      route := by
        rw [hleft] at hrest
        rw [Walk.route, hplace.standpoint, hplace.ahead, hplace.graph, hplace.options]
        exact hrest
      positions := by rw [List.append_assoc]; exact h.positions
      edges := by rw [hplace.edgesTold, List.length_append, ← h.edges, ← hlore.edges]; rfl
      nodes := by
        rw [hplace.ahead, hplace.nodesVisited, hplace.syntheticSkipped]
        exact h.advance_nodes hs
      located := by
        rw [List.map_append, List.toFinset_append, Finset.union_comm]
        exact hlocated
      knows := by
        rw [List.flatMap_append, List.toFinset_append]
        simpa using hknows }
  · rw [hplace.ahead, ← hgraph]
    exact hpoised.ahead

/-! ## Any number of requests -/

/-- The records that the first `k` requests give, and the walk behind them; the `i`-th request finds the files as they
are in `files i`. -/
def requests (files : Nat → FileTree) (w : Walk) : Nat → List Record × Walk
  | 0 => ([], w)
  | k + 1 =>
    let (records, w) := w.requests files k
    let (r, w) := w.next (files k)
    (records ++ r.toList, w)

end Walk

/-- The nodes that a walk has reached after `k` requests: those up to the caller of the last record, and all of them
when a request is made that gives none. -/
def Graph.reached (g : Graph) (options : Settings.Resolution) : Nat → List Node
  | 0 => []
  | k + 1 => match (g.positions options)[k]? with
    | some p => g.nodes.toList.take (p.node + 1)
    | none => g.nodes.toList

namespace Walk

/-- What a walk from `s` has counted and told of by the time it has come to some nodes and told of some positions. -/
structure Accounts (s : Walk) (reached : List Node) (told : List Position) (x : List Record × Walk) : Prop where
  names : List.Forall₂ (Position.Told s.graph) told x.1
  contexts : List.Forall₂ (Position.ShowsFrames s.graph s.options) told x.1
  edges : x.2.stats.edges = x.1.length
  nodesVisited : x.2.stats.nodesVisited = reached.countP (!s.graph.leavesOut s.options ·)
  syntheticSkipped : x.2.stats.syntheticSkipped = reached.countP (s.graph.leavesOut s.options ·)
  unresolvedSites : ∀ t, x.2.stats.unresolvedSites = ((told.map Position.place).toFinset.filter (s.misses t ·)).card
  degradedSites : ∀ t, x.2.stats.degradedSites = ((told.map Position.place).toFinset.filter (s.fails t ·)).card
  degradedContexts : x.2.stats.degradedContexts =
    ((told.flatMap (Position.needs s.graph s.options)).toFinset.filter fun n =>
      n.frameTexts? s.graph s.options = none).card

theorem accounted_start {g : Graph} {locator : Locator} {options : Settings.Resolution}
    (h : start g locator options = .ok s) : s.graph.Sound ∧ Accounted s [] (s.graph.positions s.options) s := by
  obtain ⟨hsound, rfl⟩ := start_eq_ok h
  exact ⟨hsound, {
    graph := rfl
    stands := .start rfl rfl
    route := hsound.forall₂_ofNodes options
    positions := rfl
    edges := rfl
    nodes := ⟨[], rfl, rfl, rfl⟩
    located := ⟨rfl, rfl, fun _ => rfl, fun _ => rfl⟩
    knows := ⟨by simp, by simp, rfl⟩ }⟩

/-- Each request takes the first of the positions left, as long as there is one. -/
theorem accounted_requests {g : Graph} {locator : Locator} {options : Settings.Resolution}
    (h : start g locator options = .ok s) (files : Nat → FileTree) (k : Nat) :
    Accounted s ((s.graph.positions s.options).take k) ((s.graph.positions s.options).drop k) (s.requests files k).2 ∧
      List.Forall₂ (Position.Told s.graph) ((s.graph.positions s.options).take k) (s.requests files k).1 ∧
      List.Forall₂ (Position.ShowsFrames s.graph s.options) ((s.graph.positions s.options).take k)
        (s.requests files k).1 ∧
      s.graph.nodes.toList = s.graph.reached s.options k ++ (s.requests files k).2.ahead := by
  obtain ⟨hs, hstart⟩ := accounted_start h
  generalize hps : s.graph.positions s.options = ps at hstart ⊢
  induction k with
  | zero =>
    obtain ⟨-, rfl⟩ := start_eq_ok h
    exact ⟨hstart, .nil, .nil, rfl⟩
  | succ k ih =>
    obtain ⟨hk, hnames, hcontexts, hnodes⟩ := ih
    have hdrop : ps.drop k = ps[k]?.toList ++ ps.drop (k + 1) := List.drop_eq_getElem?_toList_append
    rw [requests, Graph.reached, hps, List.take_add_one]
    dsimp only
    cases hx : ps[k]? with
    | none =>
      rw [hx, Option.toList_none, List.nil_append] at hdrop
      have hend : ps.drop (k + 1) = [] := List.drop_of_length_le (by have := List.getElem?_eq_none_iff.1 hx; omega)
      rw [hdrop, hend] at hk
      obtain ⟨w', hnext, hw', hahead⟩ := hk.next_nil hs (files k)
      rw [hnext, Option.toList_none, Option.toList_none, List.append_nil, List.append_nil, hend]
      exact ⟨hw', hnames, hcontexts, by rw [hahead, List.append_nil]⟩
    | some x =>
      rw [hx, Option.toList_some, List.singleton_append] at hdrop
      rw [hdrop] at hk
      obtain ⟨r, w', hnext, hname, hcontext, hw', hlength⟩ := hk.next_cons hs (files k)
      rw [hnext]
      refine ⟨hw', List.rel_append hnames (.cons hname .nil), List.rel_append hcontexts (.cons hcontext .nil), ?_⟩
      obtain ⟨reached, hreached, -⟩ := hw'.nodes
      have hcount : reached.length = x.node + 1 := by
        have := congrArg List.length hreached
        rw [Array.length_toList, List.length_append] at this
        omega
      dsimp only
      rw [← hcount, hreached, List.take_left]

/-! ## Main theorem -/

/-- After any number of requests a walk has told of the first positions of its graph and has counted what there is of
them: the records, the nodes up to the last caller, the call sites without a line or without an answer, each once, and
the nodes whose frames were asked for and are missing, each once. Frames are shown as if their context were resolved
anew. -/
theorem requests_account {g : Graph} {locator : Locator} {options : Settings.Resolution} {w : Walk}
    (h : start g locator options = .ok w) (files : Nat → FileTree) (k : Nat) :
    w.Accounts (g.reached options k) ((g.positions options).take k) (w.requests files k) := by
  obtain ⟨haccounted, hnames, hcontexts, hreached⟩ := accounted_requests h files k
  obtain ⟨-, rfl⟩ := start_eq_ok h
  obtain ⟨reached, hnodes, hvisited, hskipped⟩ := haccounted.nodes
  obtain rfl : reached = g.reached options k := List.append_cancel_right (hnodes.symm.trans hreached)
  exact {
    names := hnames
    contexts := hcontexts
    edges := haccounted.edges.trans hnames.length_eq
    nodesVisited := hvisited
    syntheticSkipped := hskipped
    unresolvedSites := haccounted.located.unresolved
    degradedSites := haccounted.located.degraded
    degradedContexts := by
      have hdegraded := haccounted.knows.degraded
      rw [haccounted.graph, haccounted.located.options] at hdegraded
      exact hdegraded }

end Walk

/-- A node that calls itself twice from one call site, in a context of a kind that has no frames. -/
def strayNode : Node where
  id := ⟨7⟩
  method := ⟨0⟩
  context := .unsupported "receiver"
  sites := [⟨"x", 1, [⟨7⟩, ⟨7⟩]⟩]

/-- A graph of this node, whose method has no lines. -/
def strayGraph : Graph := (Graph.empty.addMethod { id := ⟨0⟩, signature := ⟨"LA", "f", "()V"⟩ }).addNode strayNode

theorem strayGraph_sound : strayGraph.Sound := Graph.sound_single rfl (by simp [strayNode])

/-- Two records are of one node, of one call site without a line and of one context without frames. -/
theorem requests_strayGraph :
    ∃ w, Walk.start strayGraph (.ofArchives [] .first) {} = .ok w ∧
      (w.requests (fun _ => ⟨[], []⟩) 2).2.stats.edges = 2 ∧
      (w.requests (fun _ => ⟨[], []⟩) 2).2.stats.nodesVisited = 1 ∧
      (w.requests (fun _ => ⟨[], []⟩) 2).2.stats.unresolvedSites = 1 ∧
      (w.requests (fun _ => ⟨[], []⟩) 2).2.stats.degradedContexts = 1 := by
  have hstart : Walk.start strayGraph (.ofArchives [] .first) {} = .ok (.atStart strayGraph [] {}) :=
    Walk.start_eq_ok_iff.2 ⟨strayGraph_sound, rfl⟩
  have hnodes : strayGraph.nodes.toList = [strayNode] := Graph.nodes_single _ _
  have hmethod : strayGraph.method? ⟨0⟩ = some { id := ⟨0⟩, signature := ⟨"LA", "f", "()V"⟩ } :=
    Graph.method?_single _ _
  have hnode : strayGraph.node? ⟨7⟩ = some strayNode :=
    strayGraph_sound.node?_id (n := strayNode) (by rw [hnodes]; exact List.mem_cons_self)
  have hfirst : strayGraph.nodes[0]? = some strayNode := by rw [← Array.getElem?_toList, hnodes]; rfl
  have hpositions : strayGraph.positions {} = [⟨0, 0, 0⟩, ⟨0, 0, 1⟩] := by
    rw [Graph.positions, hnodes]
    rfl
  have hneeds : [⟨0, 0, 0⟩, ⟨0, 0, 1⟩].flatMap (Position.needs strayGraph {}) =
      [strayNode, strayNode, strayNode, strayNode] := by
    simp [Position.needs, Position.caller?, Position.target?, hfirst, strayNode, hnode]
  have h := Walk.requests_account hstart (fun _ => ⟨[], []⟩) 2
  have hlength := h.names.length_eq
  rw [hpositions] at hlength
  refine ⟨_, hstart, h.edges.trans hlength.symm, ?_, ?_, ?_⟩
  · rw [h.nodesVisited]
    simp [Graph.reached, hpositions, hnodes, Graph.leavesOut, Walk.atStart]
  · have hsite : strayGraph.siteAt? (0, 0) =
        some ({ id := ⟨0⟩, signature := ⟨"LA", "f", "()V"⟩ }, ⟨"x", 1, [⟨7⟩, ⟨7⟩]⟩) := by
      simp [Graph.siteAt?, hfirst, strayNode, hmethod]
    rw [h.unresolvedSites ⟨[], []⟩, hpositions]
    simp [Position.place, Finset.filter_singleton, Walk.misses, Walk.findAt?, hsite, Locator.locate, Method.siteLine,
      Method.instructionOf?, Walk.atStart, Locator.ofArchives]
  · have hframes : strayNode.frameTexts? strayGraph {} = none := rfl
    rw [h.degradedContexts, hpositions]
    simp [hneeds, Finset.filter_singleton, hframes, Walk.atStart]
end CallGraph
