import CallGraph.Proofs.Positions
import CallGraph.Proofs.Telling
/-!
# What a walk remembers

A walk keeps the description of its call site, the frames of contexts and what it read of the archives. While all of
this is as it would be if looked up anew (`Honest`), its records are those of its route: `drain_told`. The archives may
change under way, so this is said for the holdings that agree with what the walk remembers at the end.
-/

namespace CallGraph

/-- The counts after some more nodes have been passed over or visited. -/
def WalkStats.passing (stats : WalkStats) (g : Graph) (options : Settings.Resolution) (passed : List Node) :
    WalkStats :=
  { stats with
    nodesVisited := stats.nodesVisited + passed.countP (!g.leavesOut options ·)
    syntheticSkipped := stats.syntheticSkipped + passed.countP (g.leavesOut options ·) }

namespace Walk

/-- The holdings have whatever the walk remembers of the archives. -/
def Agrees (w : Walk) (hs : List Holding) : Prop := List.Forall₂ Shelf.Agrees w.locator.shelves hs

def teller (w : Walk) (hs : List Holding) : Teller := ⟨w.graph.method?, w.options, hs⟩

/-- The frames a walk remembers are those of the nodes of its graph. -/
def Recalls (w : Walk) : Prop :=
  ∀ id frames, w.contexts[id]? = some frames →
    ∃ n, w.graph.node? id = some n ∧ frames = n.context.texts w.graph.method? w.options

/-- A walk knows of no call site but what the holdings say that agree with it. -/
def Describes (w : Walk) (p : Standpoint) : Prop :=
  ∀ text hs, p.description = some text → w.Agrees hs → text = p.method.siteText w.options hs p.site

/-- A walk over a graph where nothing is missing, which remembers nothing that is not so. -/
structure Honest (w : Walk) : Prop where
  methods : ∀ n ∈ w.ahead, ∃ m, w.graph.method? n.method = some m
  ends : ∀ e ∈ w.route, w.graph.node? e.caller.id = some e.caller ∧ ∃ n, w.graph.node? e.target = some n
  rule : w.locator.rule = w.options.siteMatch
  recalls : w.Recalls
  describes : ∀ p, w.standpoint = some p → w.Describes p

/-- On its way from `w` to `w'` a walk told the edges `es` by the records `rs`; what it read it read at one of
`moments`. -/
structure Told (moments : FileTree → Prop) (w : Walk) (es : List Edge) (rs : List Record) (w' : Walk) : Prop where
  honest : w'.Honest
  graph : w'.graph = w.graph
  options : w'.options = w.options
  count : w'.stats.edges = w.stats.edges + rs.length
  tally : w'.tally = w.tally
  records : ∀ hs, w'.Agrees hs → w.Agrees hs ∧ rs = es.filterMap (·.tell? w.graph (w.teller hs))
  seen : ∀ archives, List.Forall₂ (Shelf.Seen moments) archives w.locator.shelves →
    List.Forall₂ (Shelf.Seen moments) archives w'.locator.shelves

theorem Told.trans {moments : FileTree → Prop} {w₁ w₂ w₃ : Walk} {es es' : List Edge} {rs rs' : List Record}
    (h : Told moments w₁ es rs w₂) (h' : Told moments w₂ es' rs' w₃) :
    Told moments w₁ (es ++ es') (rs ++ rs') w₃ where
  honest := h'.honest
  graph := h'.graph.trans h.graph
  options := h'.options.trans h.options
  count := by
    rw [h'.count, h.count, List.length_append]
    omega
  tally := h'.tally.trans h.tally
  records hs ha := by
    obtain ⟨ha', hrs'⟩ := h'.records hs ha
    obtain ⟨ha'', hrs⟩ := h.records hs ha'
    have hteller : w₂.teller hs = w₁.teller hs := by rw [teller, teller, h.graph, h.options]
    refine ⟨ha'', ?_⟩
    rw [List.filterMap_append, ← hrs, ← h.graph, ← hteller, ← hrs']
  seen archives hs := h'.seen archives (h.seen archives hs)

/-! ## Moving on -/

theorem enterNode_ahead (w : Walk) (ns : List Node) : (w.enterNode ns).ahead ⊆ ns := by
  induction ns generalizing w with
  | nil => exact fun _ => id
  | cons n rest ih =>
    have hrest (w : Walk) : (w.enterNode rest).ahead ⊆ n :: rest := fun x hx => List.mem_cons_of_mem _ (ih w hx)
    unfold enterNode
    split
    · exact hrest w
    · split
      · exact hrest _
      · dsimp only
        split
        · exact fun x hx => List.mem_cons_of_mem _ hx
        · exact hrest _

/-- Moving on counts the nodes that are no longer ahead, and nothing else. -/
theorem enterNode_stats (w : Walk) {ns : List Node} (h : ∀ n ∈ ns, ∃ m, w.graph.method? n.method = some m) :
    ∃ passed, ns = passed ++ (w.enterNode ns).ahead ∧
      (w.enterNode ns).stats = w.stats.passing w.graph w.options passed := by
  induction ns generalizing w with
  | nil => exact ⟨[], rfl, rfl⟩
  | cons n rest ih =>
    obtain ⟨m, hm⟩ := h n List.mem_cons_self
    have hrest := fun n' hn' => h n' (List.mem_cons_of_mem n hn')
    have hleft : w.graph.leavesOut w.options n = (w.options.excludeSynthetic && m.synthetic) := by
      rw [Graph.leavesOut, hm, Option.any_some]
    unfold enterNode
    simp only [hm]
    split
    · next hout =>
      obtain ⟨passed, hpassed, hstats⟩ := ih { w with stats.syntheticSkipped := w.stats.syntheticSkipped + 1 } hrest
      refine ⟨n :: passed, congrArg (n :: ·) hpassed, hstats.trans ?_⟩
      simp [WalkStats.passing, hleft, hout]
      omega
    · next hin =>
      split
      · refine ⟨[n], rfl, ?_⟩
        simp [WalkStats.passing, hleft, hin]
      · obtain ⟨passed, hpassed, hstats⟩ := ih { w with stats.nodesVisited := w.stats.nodesVisited + 1 } hrest
        refine ⟨n :: passed, congrArg (n :: ·) hpassed, hstats.trans ?_⟩
        simp [WalkStats.passing, hleft, hin]
        omega

theorem enterNode_standpoint {w : Walk} {ns : List Node} {p : Standpoint} (h : (w.enterNode ns).standpoint = some p) :
    p.description = none := by
  induction ns generalizing w with
  | nil => simp [enterNode] at h
  | cons n rest ih =>
    unfold enterNode at h
    split at h
    · exact ih h
    · split at h
      · exact ih h
      · dsimp only at h
        split at h
        · next p' hp' =>
          obtain rfl : p' = p := by simpa using h
          exact (enterSite_some hp').2.2.2.1
        · exact ih h

theorem advance_ahead (w : Walk) : w.advance.ahead ⊆ w.ahead := by
  unfold advance
  split
  · exact enterNode_ahead w w.ahead
  · split
    · exact fun _ => id
    · split
      · exact fun _ => id
      · exact enterNode_ahead w w.ahead

theorem advance_stats {w : Walk} (h : ∀ n ∈ w.ahead, ∃ m, w.graph.method? n.method = some m) :
    ∃ passed, w.ahead = passed ++ w.advance.ahead ∧ w.advance.stats = w.stats.passing w.graph w.options passed := by
  unfold advance
  split
  · exact enterNode_stats w h
  · split
    · exact ⟨[], rfl, rfl⟩
    · split
      · exact ⟨[], rfl, rfl⟩
      · exact enterNode_stats w h

/-- Every node passed over is counted. -/
theorem advance_tally {w : Walk} (h : ∀ n ∈ w.ahead, ∃ m, w.graph.method? n.method = some m) :
    w.advance.tally = w.tally := by
  obtain ⟨passed, hahead, hstats⟩ := advance_stats h
  have hcounted : passed.length = passed.countP (w.graph.leavesOut w.options ·) +
      passed.countP (!w.graph.leavesOut w.options ·) := by
    simpa using List.length_eq_countP_add_countP (w.graph.leavesOut w.options ·)
  rw [tally, tally, hstats, hahead, List.length_append, hcounted, WalkStats.passing]
  dsimp only
  omega

/-- A call site that a walk has just come to is not described yet. -/
theorem advance_standpoint {w : Walk} {p : Standpoint} (h : w.advance.standpoint = some p) :
    w.standpoint = some p ∨ p.description = none := by
  unfold advance at h
  split at h
  · exact .inr (enterNode_standpoint h)
  · next p₀ hp₀ =>
    split at h
    · exact .inl h
    · split at h
      · next p' hp' =>
        obtain rfl : p' = p := by simpa using h
        exact .inr (enterSite_some hp').2.2.2.1
      · exact .inr (enterNode_standpoint h)

theorem Honest.advance {w : Walk} (h : w.Honest) (moments : FileTree → Prop) : Told moments w [] [] w.advance := by
  have hlore := advance_lore w
  have hagrees (hs : List Holding) : w.advance.Agrees hs ↔ w.Agrees hs := by rw [Agrees, Agrees, hlore.locator]
  refine ⟨⟨?_, ?_, ?_, ?_, ?_⟩, hlore.graph, hlore.options, hlore.edges, advance_tally h.methods, ?_, ?_⟩
  · rw [hlore.graph]
    exact fun n hn => h.methods n (advance_ahead w hn)
  · rw [hlore.graph, advance_route]
    exact h.ends
  · rw [hlore.locator, hlore.options]
    exact h.rule
  · rw [Recalls, hlore.contexts, hlore.graph, hlore.options]
    exact h.recalls
  · intro p hp text hs htext ha
    rcases advance_standpoint hp with hp | hnone
    · rw [hlore.options]
      exact h.describes p hp text hs htext ((hagrees hs).1 ha)
    · simp [hnone] at htext
  · exact fun hs ha => ⟨(hagrees hs).1 ha, rfl⟩
  · rw [hlore.locator]
    exact fun _ => id

/-! ## Looking up -/

theorem lookUp_agrees {w : Walk} (t : FileTree) (p : Standpoint) (hrule : w.locator.rule = w.options.siteMatch)
    {hs : List Holding} (ha : (w.lookUp t p).2.Agrees hs) :
    w.Agrees hs ∧ (w.lookUp t p).1 = p.method.siteText w.options hs p.site := by
  unfold lookUp at ha ⊢
  unfold Method.siteText
  cases hnumbers : w.options.sourceNumbers with
  | false => simpa [hnumbers] using ha
  | true =>
    have hlocate := w.locator.locate_agrees t p.method p.site w.options.sourceText hs
    rw [hrule] at hlocate
    simp only [hnumbers, Bool.not_true, Bool.false_eq_true, if_false, if_true] at ha ⊢
    -- Whatever was found, the locator afterwards is the one that the search left.
    split at ha
    · next line locator hfound =>
      rw [hfound] at hlocate
      obtain ⟨hagree, hline⟩ := hlocate ha
      exact ⟨hagree, by rw [← hline]⟩
    · next locator hfound =>
      rw [hfound] at hlocate
      obtain ⟨hagree, hline⟩ := hlocate ha
      exact ⟨hagree, by rw [← hline]⟩
    · next cause locator hfound =>
      rw [hfound] at hlocate
      obtain ⟨hagree, hline⟩ := hlocate ha
      exact ⟨hagree, by rw [← hline]⟩

theorem lookUp_locator (w : Walk) (t : FileTree) (p : Standpoint) :
    (w.lookUp t p).2.locator = w.locator ∨
      (w.lookUp t p).2.locator = (w.locator.locate t p.method p.site w.options.sourceText).2 := by
  unfold lookUp
  split
  · exact .inl rfl
  · split
    all_goals
      next hfound =>
      right
      rw [hfound]

theorem lookUp_contexts (w : Walk) (t : FileTree) (p : Standpoint) : (w.lookUp t p).2.contexts = w.contexts := by
  unfold lookUp
  split
  · rfl
  · split <;> rfl

theorem describe_agrees {w : Walk} (t : FileTree) {p : Standpoint} (hrule : w.locator.rule = w.options.siteMatch)
    (hp : w.Describes p) {hs : List Holding} (ha : (w.describe t p).2.Agrees hs) :
    w.Agrees hs ∧ (w.describe t p).1 = p.method.siteText w.options hs p.site := by
  unfold describe at ha ⊢
  cases hd : p.description with
  | some text =>
    rw [hd] at ha
    exact ⟨ha, hp text hs hd ha⟩
  | none =>
    rw [hd] at ha
    exact lookUp_agrees t p hrule ha

theorem describe_contexts (w : Walk) (t : FileTree) (p : Standpoint) : (w.describe t p).2.contexts = w.contexts := by
  unfold describe
  cases p.description with
  | some text => rfl
  | none => exact lookUp_contexts w t p

theorem describe_locator (w : Walk) (t : FileTree) (p : Standpoint) :
    (w.describe t p).2.locator = w.locator ∨
      (w.describe t p).2.locator = (w.locator.locate t p.method p.site w.options.sourceText).2 := by
  unfold describe
  cases p.description with
  | some text => exact .inl rfl
  | none => exact lookUp_locator w t p

/-- What a walk says of contexts is so, and it goes on remembering nothing else. -/
structure Framed (w : Walk) (texts : List String) (x : List String × Walk) : Prop where
  texts : x.1 = texts
  recalls : x.2.Recalls
  locator : x.2.locator = w.locator

theorem framesOf_framed {w : Walk} (h : w.Recalls) {n : Node} (hn : w.graph.node? n.id = some n) :
    Framed w (n.context.texts w.graph.method? w.options) (w.framesOf n) := by
  obtain ⟨hok, herror⟩ := texts_of_frames n.context w.graph w.options
  unfold framesOf
  split
  · next frames hframes =>
    obtain ⟨n', hn', htexts⟩ := h n.id frames hframes
    obtain rfl : n = n' := Option.some.inj (hn.symm.trans hn')
    exact ⟨htexts, h, rfl⟩
  · -- Looked up now, the frames are remembered for the node with this id, which is `n`.
    have hinsert (w' : Walk) (frames : List String) (hg : w'.graph = w.graph) (ho : w'.options = w.options)
        (hc : w'.contexts = w.contexts.insert n.id frames) (hf : frames = n.context.texts w.graph.method? w.options) :
        w'.Recalls := by
      intro id frames' hid
      rw [hc, Std.HashMap.getElem?_insert] at hid
      rw [hg, ho]
      by_cases he : n.id = id
      · subst he
        obtain rfl : frames = frames' := by simpa using hid
        exact ⟨n, hn, hf⟩
      · exact h id frames' (by simpa [he] using hid)
    dsimp only
    split
    · next frames hframes =>
      have hf := (hok frames hframes).symm
      exact ⟨hf, hinsert _ _ rfl rfl rfl hf, rfl⟩
    · next cause hcause =>
      have hf := (herror cause hcause).symm
      exact ⟨hf, hinsert _ _ rfl rfl rfl hf, rfl⟩

theorem callerFrames_framed {w : Walk} (h : w.Recalls) {n : Node} (hn : w.graph.node? n.id = some n) :
    Framed w (match w.options.contextDetail with
      | .full => n.context.texts w.graph.method? w.options
      | .target | .none => []) (w.callerFrames n) := by
  unfold callerFrames
  cases w.options.contextDetail with
  | full => exact framesOf_framed h hn
  | target | none => exact ⟨rfl, h, rfl⟩

theorem targetFrames_framed {w : Walk} (h : w.Recalls) {n : Node} (hn : w.graph.node? n.id = some n) :
    Framed w (match w.options.contextDetail with
      | .target | .full => n.context.texts w.graph.method? w.options
      | .none => []) (w.targetFrames n) := by
  unfold targetFrames
  cases w.options.contextDetail with
  | target | full => exact framesOf_framed h hn
  | none => exact ⟨rfl, h, rfl⟩

/-! ## One step -/

/-- A record is made from what the call site is called and from the contexts of both ends. -/
theorem record_eq {w : Walk} (t : FileTree) {p : Standpoint} {target : NodeId} {n : Node} (h : w.Recalls)
    (hcaller : w.graph.node? p.caller.id = some p.caller) (hn : w.graph.node? target = some n) :
    (w.record t p target).2.Recalls ∧ (w.record t p target).2.locator = (w.describe t p).2.locator ∧
      ∀ hs, (w.describe t p).1 = p.method.siteText w.options hs p.site →
        (w.record t p target).1 = (w.teller hs).record p.caller p.method p.site n := by
  have hd := describe_place w t p
  have hc := hd.trans (callerFrames_place (w.describe t p).2 p.caller)
  have hself : w.graph.node? n.id = some n := by rw [(Graph.mem_of_node? hn).2, hn]
  have hrecalls : (w.describe t p).2.Recalls := by
    rw [Recalls, describe_contexts, hd.graph, hd.options]
    exact h
  have hcallers := callerFrames_framed hrecalls (hd.graph ▸ hcaller)
  have htargets := targetFrames_framed hcallers.recalls (hc.graph ▸ hself)
  have ht := hc.trans (targetFrames_place _ n)
  have htarget : ((w.describe t p).2.callerFrames p.caller).2.graph.node? target = some n := by rw [hc.graph, hn]
  unfold record
  simp only [htarget]
  refine ⟨htargets.recalls, htargets.locator.trans hcallers.locator, fun hs hsite => ?_⟩
  have hctexts := hcallers.texts
  have httexts := htargets.texts
  rw [hd.graph, hd.options] at hctexts
  rw [hc.graph, hc.options] at httexts
  rw [hsite, hctexts, httexts, signatureOf, ht.graph]
  rfl

theorem record_told {w : Walk} {t : FileTree} {moments : FileTree → Prop} (ht : moments t) (h : w.Honest)
    {p : Standpoint} {target : NodeId} {left : List NodeId} (hp : w.standpoint = some p)
    (htargets : p.targets = target :: left) :
    Told moments w [⟨p.caller, p.method, p.site, target⟩]
      [(w.record t { p with targets := left } target).1] (w.record t { p with targets := left } target).2 := by
  have hroute : w.route = ⟨p.caller, p.method, p.site, target⟩ ::
      { w with standpoint := some { p with targets := left } }.route := by
    simp [route, hp, Standpoint.route, htargets]
  obtain ⟨hcaller, n, hn⟩ := h.ends _ (hroute ▸ List.mem_cons_self)
  have hplace := record_place w t { p with targets := left } target
  obtain ⟨hrecalls, hlocator, hrecord⟩ := record_eq t (p := { p with targets := left }) h.recalls hcaller hn
  have hagrees {hs : List Holding} (ha : (w.record t { p with targets := left } target).2.Agrees hs) :
      w.Agrees hs ∧ (w.describe t { p with targets := left }).1 = p.method.siteText w.options hs p.site :=
    describe_agrees t h.rule (p := { p with targets := left }) (h.describes p hp) (by rwa [Agrees, ← hlocator])
  refine ⟨⟨?_, ?_, ?_, hrecalls, ?_⟩, hplace.graph, hplace.options, hplace.edgesTold, ?_, ?_, ?_⟩
  · rw [hplace.ahead, hplace.graph]
    exact h.methods
  · -- The edges that are left are the tail of those there were.
    intro e he
    rw [hplace.graph]
    refine h.ends e (hroute ▸ List.mem_cons_of_mem _ ?_)
    rw [route, hplace.standpoint, hplace.ahead, hplace.graph, hplace.options] at he
    exact he
  · rw [hlocator, hplace.options]
    rcases describe_locator w t { p with targets := left } with hl | hl
    · rw [hl]
      exact h.rule
    · rw [hl, Locator.locate_rule]
      exact h.rule
  · -- The only description that can be new is the one just made.
    intro p' hp' text hs htext ha
    obtain rfl : { p with targets := left, description := some (w.describe t { p with targets := left }).1 } = p' :=
      Option.some.inj (hplace.standpoint.symm.trans hp')
    obtain rfl : (w.describe t { p with targets := left }).1 = text := Option.some.inj htext
    rw [hplace.options]
    exact (hagrees ha).2
  · rw [tally, hplace.nodesVisited, hplace.syntheticSkipped, hplace.ahead]
    rfl
  · intro hs ha
    obtain ⟨ha', hsite⟩ := hagrees ha
    refine ⟨ha', ?_⟩
    rw [hrecord hs hsite]
    simp [Edge.tell?, hn, teller]
  · intro archives hseen
    rw [hlocator]
    rcases describe_locator w t { p with targets := left } with hl | hl
    · rw [hl]
      exact hseen
    · rw [hl]
      exact Locator.locate_seen ht _ _ _ _ hseen

/-! ## A whole walk -/

/-- A walk tells its route, and passes over no node without counting it. -/
theorem drain_told {moments : FileTree → Prop} {files : Nat → FileTree} (hfiles : ∀ k, moments (files k)) {w : Walk}
    (h : w.Honest) : Told moments w w.route (w.drain files).1 (w.drain files).2 ∧ (w.drain files).2.ahead = [] := by
  generalize hr : w.route = es
  induction es generalizing w files with
  | nil =>
    rw [drain_of_none (next_of_route_nil (files 0) hr).1]
    exact ⟨h.advance moments, (advance_of_route_nil hr).2⟩
  | cons e rest ih =>
    obtain ⟨p, left, hp, htargets, he, hrest, hnext⟩ := next_of_route_cons (files 0) hr
    have hfirst := h.advance moments
    have hsecond := record_told (hfiles 0) hfirst.honest hp htargets
    have hstep := hfirst.trans hsecond
    have hplace := record_place w.advance (files 0) { p with targets := left } e.target
    have hroute : (w.advance.record (files 0) { p with targets := left } e.target).2.route = rest := by
      rw [hrest, route, route, hplace.standpoint, hplace.ahead, hplace.graph, hplace.options]
      rfl
    obtain ⟨hlater, hahead⟩ := ih (fun k => hfiles (k + 1)) hstep.honest hroute
    rw [drain_of_some hnext]
    refine ⟨?_, hahead⟩
    have hall := hstep.trans hlater
    rw [he]
    exact hall

end Walk

/-! ## From the start -/

theorem mem_edgesOf {g : Graph} {options : Settings.Resolution} {n : Node} {e : Edge} (h : e ∈ g.edgesOf options n) :
    e.caller = n ∧ g.method? n.method = some e.method ∧ e.site ∈ n.sites ∧ e.target ∈ e.site.targets := by
  unfold Graph.edgesOf at h
  split at h
  · simp at h
  · next m hm =>
    split at h
    · simp at h
    · obtain ⟨c, hc, he⟩ := List.mem_flatMap.1 h
      obtain ⟨target, ht, rfl⟩ := List.mem_map.1 he
      exact ⟨rfl, hm, hc, ht⟩

/-- A walk at the start of a graph, with nothing read of the archives. -/
def Walk.atStart (g : Graph) (archives : List Archive) (options : Settings.Resolution) : Walk where
  graph := g
  options
  locator := .ofArchives archives options.siteMatch
  ahead := g.nodes.toList

theorem Walk.start_eq_ok_iff {g : Graph} {archives : List Archive} {options : Settings.Resolution} {w : Walk} :
    Walk.start g (.ofArchives archives options.siteMatch) options = .ok w ↔
      g.Sound ∧ w = .atStart g archives options := by
  refine ⟨Walk.start_eq_ok, ?_⟩
  rintro ⟨hsound, rfl⟩
  rw [Walk.start, g.check_eq_ok_iff.2 hsound]
  rfl

/-- At the start of a sound graph nothing is missing, and nothing is remembered. -/
theorem Graph.Sound.honest {g : Graph} (h : g.Sound) (archives : List Archive) (options : Settings.Resolution) :
    (Walk.atStart g archives options).Honest where
  methods := h.method
  ends e he := by
    obtain ⟨n, hn, he⟩ := List.mem_flatMap.1 he
    obtain ⟨rfl, -, hsite, htarget⟩ := mem_edgesOf he
    exact ⟨h.node?_id hn, h.target _ hn _ hsite _ htarget⟩
  rule := rfl
  recalls id frames hid := by simp [Walk.atStart] at hid
  describes p hp := by simp [Walk.atStart] at hp

end CallGraph
