import CallGraph.Engine
import CallGraph.Proofs.ClassNames
import CallGraph.Proofs.Walk
/-!
# Snapshots with other spellings

Two snapshots whose methods differ only in how their classes are spelled. Signatures, source files and frames show the
bare name, so once the same methods are excluded the replays have the same nodes, and walks over them make the same
records. Whether the same methods are excluded is up to the patterns: they see a mark behind the name. `respelling` says
what can be said of all patterns, and what follows where the mark makes no difference to them.
-/

namespace CallGraph

open ClassName

/-! ## Methods -/

/-- The method with its class spelled `n`. -/
def Method.respell (m : Method) (n : String) : Method :=
  { m with signature := { m.signature with declaringClass := n } }

/-- The same method, but for the spelling of its class. -/
inductive Method.Respelled (m : Method) : Method → Prop
  | same : Respelled m m
  | spelled {c n : String} (hc : Internal c) (hm : Spells c m.signature.declaringClass) (hn : Spells c n) :
    Respelled m (m.respell n)

namespace Method

variable {m m' : Method}

theorem Respelled.id_eq (h : m.Respelled m') : m'.id = m.id := by
  cases h <;> rfl

theorem Respelled.synthetic (h : m.Respelled m') : m'.synthetic = m.synthetic := by
  cases h <;> rfl

theorem Respelled.line? (h : m.Respelled m') (pc : UInt32) : m'.line? pc = m.line? pc := by
  cases h <;> rfl

theorem Respelled.sourceFile (h : m.Respelled m') :
    ClassName.sourceFile m'.signature.declaringClass = ClassName.sourceFile m.signature.declaringClass := by
  cases h with
  | same => rfl
  | spelled hc hm hn => exact (hn.sourceFile hc).trans (hm.sourceFile hc).symm

theorem Respelled.text (h : m.Respelled m') : m'.signature.text = m.signature.text := by
  cases h with
  | same => rfl
  | spelled hc hm hn =>
    have hdotted := (hn.dotted hc).trans (hm.dotted hc).symm
    exact congrArg (fun name => name ++ "." ++ m.signature.name ++ m.signature.descriptor) hdotted

/-- The line of a call site is the same; an error names the method as it is spelled. -/
theorem Respelled.siteLine (h : m.Respelled m') (s : CallSite) (rule : SiteMatch) :
    (m'.siteLine s rule).toOption = (m.siteLine s rule).toOption := by
  cases h with
  | same => rfl
  | @spelled c n hc hm hn =>
    have hinstruction : (m.respell n).instructionOf? s rule = m.instructionOf? s rule := rfl
    have hoffset (index : Nat) : (m.respell n).offset? index = m.offset? index := rfl
    have hsynthetic : (m.respell n).synthetic = m.synthetic := rfl
    unfold Method.siteLine
    rw [hinstruction, hsynthetic]
    split
    · rfl
    · cases m.instructionOf? s rule with
      | none => rfl
      | some x =>
        dsimp only
        rw [hoffset]
        cases m.offset? x.2 <;> rfl

end Method

/-- A locator answers alike, and remembers the same. -/
theorem Locator.locate_respelled {m m' : Method} (h : m.Respelled m') (loc : Locator) (t : FileTree) (s : CallSite)
    (withText : Bool) :
    (loc.locate t m' s withText).1.toOption = (loc.locate t m s withText).1.toOption ∧
      (loc.locate t m' s withText).2 = (loc.locate t m s withText).2 := by
  have hline := h.siteLine s loc.rule
  have htext (line : UInt32) : loc.textOf t m'.signature.declaringClass line =
      loc.textOf t m.signature.declaringClass line := by
    rw [textOf, textOf, h.sourceFile]
  unfold locate
  simp only [htext, h.sourceFile]
  generalize m'.siteLine s loc.rule = found', m.siteLine s loc.rule = found at hline
  cases found with
  | error cause =>
    cases found' with
    | error cause' => exact ⟨rfl, rfl⟩
    | ok line' => cases hline
  | ok line =>
    cases found' with
    | error cause' => cases hline
    | ok line' =>
      obtain rfl : line' = line := Option.some.inj hline
      exact ⟨rfl, rfl⟩

/-! ## Graphs -/

/-- Two graphs that differ in the spelling of classes only. -/
structure Graph.Respelled (g g' : Graph) : Prop where
  nodes : g'.nodes.toList = g.nodes.toList
  method? : ∀ id, Option.Rel Method.Respelled (g.method? id) (g'.method? id)
  repeatedMethods : g'.repeatedMethods = g.repeatedMethods

namespace Graph

variable {g g' : Graph}

theorem Respelled.contains (h : g.Respelled g') : g'.contains = g.contains := by
  funext id
  rw [Bool.eq_iff_iff, contains_iff, contains_iff, h.nodes]

theorem Respelled.node? (h : g.Respelled g') (id : NodeId) : g'.node? id = g.node? id := by
  rw [node?_eq_find?, node?_eq_find?, h.nodes]

theorem Respelled.nodeCount (h : g.Respelled g') : g'.nodeCount = g.nodeCount := by
  simpa [Graph.nodeCount] using congrArg List.length h.nodes

theorem Respelled.containsMethod (h : g.Respelled g') (id : MethodId) :
    g'.methods.contains id = g.methods.contains id := by
  have hrel := h.method? id
  rw [Std.HashMap.contains_eq_isSome_getElem?, Std.HashMap.contains_eq_isSome_getElem?]
  change (g'.method? id).isSome = (g.method? id).isSome
  generalize g.method? id = found, g'.method? id = found' at hrel
  cases hrel <;> rfl

/-- Faults name ids, not classes. -/
theorem Respelled.check (h : g.Respelled g') : g'.check = g.check := by
  have hnode : g'.nodeFault? = g.nodeFault? := by
    funext n
    rw [nodeFault?, nodeFault?, h.containsMethod, h.contains]
  have hrepeated : g'.repeatedNodes = g.repeatedNodes := by
    rw [repeatedNodes_eq, repeatedNodes_eq, h.nodes]
  rw [Graph.check, Graph.check, fault?, fault?, h.repeatedMethods, hrepeated, h.nodes, hnode]

theorem Respelled.refl_empty : empty.Respelled empty :=
  ⟨rfl, fun id => by simp [Graph.method?, empty], rfl⟩

theorem Respelled.addMethod (h : g.Respelled g') {m m' : Method} (hm : m.Respelled m') :
    (g.addMethod m).Respelled (g'.addMethod m') := by
  refine ⟨by rw [nodes_addMethod, nodes_addMethod, h.nodes], fun id => ?_, ?_⟩
  · have hrel := h.method? id
    rw [method?_addMethod, method?_addMethod, hm.id_eq]
    generalize g.method? id = found, g'.method? id = found' at hrel
    cases hrel with
    | some hrel => exact .some hrel
    | none =>
      simp only [Option.none_or]
      split
      · exact .some hm
      · exact .none
  · unfold Graph.addMethod
    rw [hm.id_eq, h.containsMethod]
    split
    · exact congrArg (· ++ [m.id]) h.repeatedMethods
    · exact h.repeatedMethods

theorem Respelled.addMethods (h : g.Respelled g') {ms ms' : List Method} (hms : List.Forall₂ Method.Respelled ms ms') :
    (ms.foldl Graph.addMethod g).Respelled (ms'.foldl Graph.addMethod g') := by
  induction hms generalizing g g' with
  | nil => exact h
  | cons hm _ ih => exact ih (h.addMethod hm)

theorem Respelled.addNode (h : g.Respelled g') (n : Node) : (g.addNode n).Respelled (g'.addNode n) := by
  refine ⟨by rw [nodes_addNode, nodes_addNode, h.nodes], fun id => ?_, ?_⟩
  · rw [method?_addNode, method?_addNode]
    exact h.method? id
  · rw [repeatedMethods_addNode, repeatedMethods_addNode]
    exact h.repeatedMethods

theorem Respelled.prune (h : g.Respelled g') : g.prune.Respelled g'.prune :=
  ⟨by rw [nodes_prune, nodes_prune, h.nodes, h.contains], h.method?, h.repeatedMethods⟩

end Graph

/-! ## Replays -/

/-- Two outcomes that differ in the spelling of classes only. -/
structure Outcome.Respelled (o o' : Outcome) : Prop where
  graph : o.graph.Respelled o'.graph
  completeness : o'.completeness = o.completeness

/-- Two snapshots that differ in the spelling of classes only. -/
structure Snapshot.Respelled (s s' : Snapshot) : Prop where
  policy : s'.policy = s.policy
  sensitivity : s'.sensitivity = s.sensitivity
  options : s'.options = s.options
  methods : List.Forall₂ Method.Respelled s.methods s'.methods
  nodes : s'.nodes = s.nodes

namespace Snapshot

theorem addNodes_respelled (excluded : MethodId → Bool) (limit : Option Nat) (poll : Nat → Bool) (nodes : List Node)
    (asked : Nat) {g g' : Graph} (h : g.Respelled g') :
    (addNodes excluded limit poll asked nodes g).Respelled (addNodes excluded limit poll asked nodes g') := by
  -- Of the graph the loop only asks how many nodes it has.
  induction nodes generalizing asked g g' with
  | nil => exact ⟨h, rfl⟩
  | cons n rest ih =>
    unfold addNodes
    rw [h.nodeCount]
    split
    · exact ⟨h, rfl⟩
    · split
      · exact ih _ h
      · split
        · split
          · exact ⟨h, rfl⟩
          · exact ih _ (h.addNode n)
        · exact ih _ (h.addNode n)

variable {s s' : Snapshot} {excludes : String → Bool}

theorem Respelled.mismatch? (h : s.Respelled s') (requested : Settings.Analysis) :
    s'.mismatch? requested = s.mismatch? requested := by
  simp only [Snapshot.mismatch?, h.policy, h.sensitivity, h.options]

/-- Which of the methods have a class that is excluded. -/
def verdicts (s : Snapshot) (excludes : String → Bool) : List Bool :=
  s.methods.map fun m => excludes m.signature.declaringClass

/-- Where the classes are excluded alike, so are the methods. -/
theorem Respelled.excludedIds (h : s.Respelled s') (hsame : s'.verdicts excludes = s.verdicts excludes) :
    s'.excludedIds excludes = s.excludedIds excludes := by
  have hmethods := h.methods
  unfold verdicts at hsame
  unfold Snapshot.excludedIds
  generalize s.methods = ms, s'.methods = ms' at hmethods hsame
  congr 1
  induction hmethods with
  | nil => rfl
  | cons hm _ ih =>
    rw [List.map_cons, List.map_cons, List.cons.injEq] at hsame
    have hrest := ih hsame.2
    rw [List.filter_cons, List.filter_cons, hsame.1]
    split
    · rw [List.map_cons, List.map_cons, hm.id_eq, hrest]
    · exact hrest

theorem Respelled.replay (h : s.Respelled s') (hexcluded : s'.excludedIds excludes = s.excludedIds excludes)
    (limit : Option Nat) (poll : Nat → Bool) :
    (s.replay excludes limit poll).Respelled (s'.replay excludes limit poll) := by
  have hkept : List.Forall₂ Method.Respelled (s.methods.filter fun m => !(s.excludedIds excludes).contains m.id)
      (s'.methods.filter fun m => !(s.excludedIds excludes).contains m.id) := by
    have hmethods := h.methods
    generalize s.methods = ms, s'.methods = ms', (s.excludedIds excludes).contains = excluded at hmethods
    induction hmethods with
    | nil => exact .nil
    | cons hm _ ih =>
      rw [List.filter_cons, List.filter_cons, hm.id_eq]
      split
      · exact .cons hm ih
      · exact ih
  unfold Snapshot.replay
  dsimp only
  rw [hexcluded, h.nodes]
  have hadded := addNodes_respelled (s.excludedIds excludes).contains limit poll s.nodes 0
    (Graph.Respelled.refl_empty.addMethods hkept)
  exact ⟨hadded.graph.prune, hadded.completeness⟩

end Snapshot

/-! ## Frames -/

/-- Functions that agree up to `f` are mapped over a list alike. -/
theorem mapM_map_congr {α β γ ε : Type} (f : β → γ) {F G : α → Except ε β} (h : ∀ x, (F x).map f = (G x).map f)
    (xs : List α) : (xs.mapM F).map (List.map f) = (xs.mapM G).map (List.map f) := by
  induction xs with
  | nil => rfl
  | cons x xs ih =>
    have hx := h x
    rw [List.mapM_cons, List.mapM_cons]
    generalize F x = found, G x = found', xs.mapM F = rest, xs.mapM G = rest' at hx ih
    cases found with
    | error cause =>
      cases found' with
      | error cause' => exact congrArg Except.error (Except.error.inj hx)
      | ok y' => cases hx
    | ok y =>
      cases found' with
      | error cause' => cases hx
      | ok y' =>
        have hy : f y = f y' := Except.ok.inj hx
        cases rest with
        | error cause =>
          cases rest' with
          | error cause' => exact congrArg Except.error (Except.error.inj ih)
          | ok ys' => cases ih
        | ok ys =>
          cases rest' with
          | error cause' => cases ih
          | ok ys' =>
            have hys : ys.map f = ys'.map f := Except.ok.inj ih
            exact congrArg Except.ok (congrArg₂ List.cons hy hys)

theorem ContextEntry.frame?_respelled {g g' : Graph} (h : g.Respelled g') (e : ContextEntry)
    (options : Settings.Resolution) :
    (e.frame? g' options).map (Option.map Frame.text) = (e.frame? g options).map (Option.map Frame.text) := by
  have hrel := h.method? e.method
  unfold frame?
  generalize g.method? e.method = found, g'.method? e.method = found' at hrel
  cases hrel with
  | none => rfl
  | some hm =>
    dsimp only
    rw [hm.synthetic, hm.line?]
    split
    · rfl
    · simp only [Except.map, Option.map_some, Frame.text, hm.text]

/-- The frames of a context show the bare names of classes. -/
theorem Context.frames_respelled {g g' : Graph} (h : g.Respelled g') (c : Context) (options : Settings.Resolution) :
    (c.frames g' options).map (List.map Frame.text) = (c.frames g options).map (List.map Frame.text) := by
  have hfilter (found : List (Option Frame)) :
      (found.filterMap id).map Frame.text = (found.map (Option.map Frame.text)).filterMap id := by
    simp [List.map_filterMap, List.filterMap_map]
  unfold frames
  cases c.entries with
  | error cause => rfl
  | ok entries =>
    have hentries := mapM_map_congr (Option.map Frame.text) (fun e => e.frame?_respelled h options) entries
    dsimp only
    generalize entries.mapM (·.frame? g' options) = found', entries.mapM (·.frame? g options) = found at hentries
    cases found with
    | error cause =>
      cases found' with
      | error cause' => simpa [Except.map] using hentries
      | ok frames' => cases hentries
    | ok frames =>
      cases found' with
      | error cause' => cases hentries
      | ok frames' =>
        have hframes : frames'.map (Option.map Frame.text) = frames.map (Option.map Frame.text) :=
          Except.ok.inj hentries
        have htexts : (frames'.filterMap id).map Frame.text = (frames.filterMap id).map Frame.text := by
          rw [hfilter, hfilter, hframes]
        cases options.frameOrder <;> simp only [Except.map, List.map_reverse, htexts]

/-! ## Walks -/

/-- Two standpoints at one place, whose method is spelled in two ways. -/
inductive Standpoint.Respelled (p : Standpoint) : Standpoint → Prop
  | intro {m' : Method} (hm : p.method.Respelled m') : Respelled p { p with method := m' }

namespace Walk

/-- Two walks that know the same, but for the spelling of classes. -/
structure Respelled (w w' : Walk) : Prop where
  graph : w.graph.Respelled w'.graph
  options : w'.options = w.options
  locator : w'.locator = w.locator
  contexts : w'.contexts = w.contexts
  stats : w'.stats = w.stats

/-- Two such walks that have come to the same place. -/
structure RespelledHere (w w' : Walk) : Prop extends Respelled w w' where
  standpoint : Option.Rel Standpoint.Respelled w.standpoint w'.standpoint
  ahead : w'.ahead = w.ahead

/-- To count leaves walks as alike as they are. -/
theorem Respelled.counted {w w' : Walk} (h : Respelled w w') (count : WalkStats → WalkStats) :
    Respelled { w with stats := count w.stats } { w' with stats := count w'.stats } :=
  ⟨h.graph, h.options, h.locator, h.contexts, congrArg count h.stats⟩

theorem enterSite_respelled {m m' : Method} (h : m.Respelled m') (n : Node) (sites : List CallSite) :
    Option.Rel Standpoint.Respelled (enterSite n m sites) (enterSite n m' sites) := by
  induction sites with
  | nil => exact .none
  | cons s rest ih =>
    unfold enterSite
    split
    · exact ih
    · exact .some (.intro h)

theorem enterNode_respelled {w w' : Walk} (h : Respelled w w') (ns : List Node) :
    RespelledHere (w.enterNode ns) (w'.enterNode ns) := by
  induction ns generalizing w w' with
  | nil => exact ⟨⟨h.graph, h.options, h.locator, h.contexts, h.stats⟩, .none, rfl⟩
  | cons n rest ih =>
    have hrel := h.graph.method? n.method
    have hleft : w'.options.excludeSynthetic = w.options.excludeSynthetic := by rw [h.options]
    unfold enterNode
    generalize w.graph.method? n.method = found, w'.graph.method? n.method = found' at hrel
    cases hrel with
    | none => exact ih h
    | @some m m' hm =>
      dsimp only
      rw [hleft, hm.synthetic]
      split
      · exact ih (h.counted fun stats => { stats with syntheticSkipped := stats.syntheticSkipped + 1 })
      · have hvisited := h.counted fun stats => { stats with nodesVisited := stats.nodesVisited + 1 }
        have hsite := enterSite_respelled hm n n.sites
        generalize enterSite n m n.sites = place, enterSite n m' n.sites = place' at hsite
        cases hsite with
        | none => exact ih hvisited
        | some hp => exact ⟨⟨h.graph, h.options, h.locator, h.contexts, hvisited.stats⟩, .some hp, rfl⟩

theorem advance_respelled {w w' : Walk} (h : RespelledHere w w') : RespelledHere w.advance w'.advance := by
  have hnode : RespelledHere (w.enterNode w.ahead) (w'.enterNode w'.ahead) := by
    rw [h.ahead]
    exact enterNode_respelled h.toRespelled w.ahead
  have hstandpoint := h.standpoint
  unfold advance
  generalize hp : w.standpoint = place, hp' : w'.standpoint = place' at hstandpoint
  cases hstandpoint with
  | none => exact hnode
  | @some p p' hrel =>
    obtain @⟨m', hm⟩ := hrel
    dsimp only
    split
    · exact h
    · have hsite := enterSite_respelled hm p.caller p.sites
      generalize enterSite p.caller p.method p.sites = site, enterSite p.caller m' p.sites = site' at hsite
      cases hsite with
      | none => exact hnode
      | some hs => exact ⟨⟨h.graph, h.options, h.locator, h.contexts, h.stats⟩, .some hs, h.ahead⟩

/-! ## Records -/

theorem lookUp_respelled {w w' : Walk} (h : Respelled w w') (t : FileTree) {p p' : Standpoint} (hp : p.Respelled p') :
    (w'.lookUp t p').1 = (w.lookUp t p).1 ∧ Respelled (w.lookUp t p).2 (w'.lookUp t p').2 := by
  obtain @⟨m', hm⟩ := hp
  obtain ⟨hanswer, hlocator⟩ := w.locator.locate_respelled hm t p.site w.options.sourceText
  unfold lookUp
  rw [h.options, h.locator]
  dsimp only
  split
  · exact ⟨rfl, h⟩
  · rcases hl : w.locator.locate t p.method p.site w.options.sourceText with ⟨answer, loc⟩
    rcases hl' : w.locator.locate t m' p.site w.options.sourceText with ⟨answer', loc'⟩
    rw [hl, hl'] at hanswer hlocator
    obtain rfl : loc' = loc := hlocator
    cases answer with
    | error cause =>
      cases answer' with
      | ok found' => cases hanswer
      | error cause' =>
        have hcounted := h.counted fun stats => { stats with degradedSites := stats.degradedSites + 1 }
        exact ⟨rfl, h.graph, rfl, rfl, h.contexts, hcounted.stats⟩
    | ok found =>
      cases answer' with
      | error cause' => cases hanswer
      | ok found' =>
        obtain rfl : found' = found := Option.some.inj hanswer
        cases found' with
        | none =>
          have hcounted := h.counted fun stats => { stats with unresolvedSites := stats.unresolvedSites + 1 }
          exact ⟨rfl, h.graph, rfl, rfl, h.contexts, hcounted.stats⟩
        | some line => exact ⟨rfl, h.graph, rfl, rfl, h.contexts, h.stats⟩

theorem describe_respelled {w w' : Walk} (h : Respelled w w') (hahead : w'.ahead = w.ahead) (t : FileTree)
    {p p' : Standpoint} (hp : p.Respelled p') :
    (w'.describe t p').1 = (w.describe t p).1 ∧ RespelledHere (w.describe t p).2 (w'.describe t p').2 := by
  -- What is known already was found for the same place; what is not is looked up by both.
  have hdone : (w'.describe t p').1 = (w.describe t p).1 ∧ Respelled (w.describe t p).2 (w'.describe t p').2 := by
    have hlookUp := lookUp_respelled h t hp
    obtain ⟨hm⟩ := hp
    unfold describe
    cases p.description with
    | some text => exact ⟨rfl, h.graph, h.options, h.locator, h.contexts, h.stats⟩
    | none =>
      obtain ⟨hsaid, hknown⟩ := hlookUp
      exact ⟨hsaid, hknown.graph, hknown.options, hknown.locator, hknown.contexts, hknown.stats⟩
  refine ⟨hdone.1, hdone.2, ?_, ?_⟩
  · rw [(describe_place w t p).standpoint, (describe_place w' t p').standpoint, hdone.1]
    obtain ⟨hm⟩ := hp
    exact .some (.intro hm)
  · rw [(describe_place w t p).ahead, (describe_place w' t p').ahead]
    exact hahead

theorem framesOf_respelled {w w' : Walk} (h : RespelledHere w w') (n : Node) :
    (w'.framesOf n).1 = (w.framesOf n).1 ∧ RespelledHere (w.framesOf n).2 (w'.framesOf n).2 := by
  have hframes : (n.context.frames w'.graph w'.options).map (List.map Frame.text) =
      (n.context.frames w.graph w.options).map (List.map Frame.text) := by
    rw [h.options]
    exact n.context.frames_respelled h.graph w.options
  have hknown : w'.contexts[n.id]? = w.contexts[n.id]? := by rw [h.contexts]
  have hlearned (frames : List String) : w'.contexts.insert n.id frames = w.contexts.insert n.id frames := by
    rw [h.contexts]
  unfold framesOf
  rw [hknown]
  generalize n.context.frames w'.graph w'.options = found', n.context.frames w.graph w.options = found at hframes
  cases w.contexts[n.id]? with
  | some frames => exact ⟨rfl, h⟩
  | none =>
    cases found with
    | error cause =>
      cases found' with
      | ok frames' => cases hframes
      | error cause' =>
        have hcounted := h.counted fun stats => { stats with degradedContexts := stats.degradedContexts + 1 }
        exact ⟨rfl, ⟨h.graph, h.options, h.locator, hlearned _, hcounted.stats⟩, h.standpoint, h.ahead⟩
    | ok frames =>
      cases found' with
      | error cause' => cases hframes
      | ok frames' =>
        have htexts : frames'.map Frame.text = frames.map Frame.text := Except.ok.inj hframes
        dsimp only
        rw [htexts]
        exact ⟨rfl, ⟨h.graph, h.options, h.locator, hlearned _, h.stats⟩, h.standpoint, h.ahead⟩

theorem callerFrames_respelled {w w' : Walk} (h : RespelledHere w w') (n : Node) :
    (w'.callerFrames n).1 = (w.callerFrames n).1 ∧ RespelledHere (w.callerFrames n).2 (w'.callerFrames n).2 :=
  callerFrames_simulated h (by rw [h.options]) (framesOf_respelled h n)

theorem targetFrames_respelled {w w' : Walk} (h : RespelledHere w w') (n : Node) :
    (w'.targetFrames n).1 = (w.targetFrames n).1 ∧ RespelledHere (w.targetFrames n).2 (w'.targetFrames n).2 :=
  targetFrames_simulated h (by rw [h.options]) (framesOf_respelled h n)

theorem Respelled.signatureOf {w w' : Walk} (h : Respelled w w') (n : Node) : w'.signatureOf n = w.signatureOf n := by
  have hrel := h.graph.method? n.method
  unfold Walk.signatureOf
  generalize w.graph.method? n.method = found, w'.graph.method? n.method = found' at hrel
  cases hrel with
  | none => rfl
  | some hm => exact hm.text

theorem record_respelled {w w' : Walk} (h : Respelled w w') (hahead : w'.ahead = w.ahead) (t : FileTree)
    {p p' : Standpoint} (hp : p.Respelled p') (target : NodeId) :
    (w'.record t p' target).1 = (w.record t p target).1 ∧
      RespelledHere (w.record t p target).2 (w'.record t p' target).2 := by
  have hname : p'.method.signature.text = p.method.signature.text := by
    obtain ⟨hm⟩ := hp
    exact hm.text
  have hcaller : p'.caller = p.caller := by
    obtain ⟨hm⟩ := hp
    rfl
  obtain ⟨hsaid, hdescribed⟩ := describe_respelled h hahead t hp
  obtain ⟨hframes, hcalled⟩ := callerFrames_respelled hdescribed p.caller
  unfold record
  dsimp only
  rw [hcaller, hcalled.graph.node?]
  cases ((w.describe t p).2.callerFrames p.caller).2.graph.node? target with
  | none =>
    have hcounted := hcalled.counted fun stats => { stats with edges := stats.edges + 1 }
    dsimp only
    rw [hname, hsaid, hframes]
    exact ⟨rfl, hcounted, hcalled.standpoint, hcalled.ahead⟩
  | some n =>
    obtain ⟨htarget, htold⟩ := targetFrames_respelled hcalled n
    have hcounted := htold.counted fun stats => { stats with edges := stats.edges + 1 }
    dsimp only
    rw [hname, hsaid, hframes, htarget, htold.signatureOf]
    exact ⟨rfl, hcounted, htold.standpoint, htold.ahead⟩

theorem next_respelled {w w' : Walk} (h : RespelledHere w w') (t : FileTree) :
    (w'.next t).1 = (w.next t).1 ∧ RespelledHere (w.next t).2 (w'.next t).2 := by
  have hadvance := advance_respelled h
  have hstandpoint := hadvance.standpoint
  unfold next
  dsimp only
  generalize hp : w.advance.standpoint = place, hp' : w'.advance.standpoint = place' at hstandpoint
  cases hstandpoint with
  | none => exact ⟨rfl, hadvance⟩
  | @some p p' hrel =>
    obtain @⟨m', hm⟩ := hrel
    dsimp only
    cases p.targets with
    | nil => exact ⟨rfl, hadvance⟩
    | cons target left =>
      obtain ⟨hsame, hstep⟩ := record_respelled hadvance.toRespelled hadvance.ahead t
        (p := { p with targets := left }) (.intro hm) target
      exact ⟨congrArg some hsame, hstep⟩

/-- Walks that meet the same files make the same records, and count the same. -/
theorem drain_respelled {w w' : Walk} (h : RespelledHere w w') (files : Nat → FileTree) :
    (w'.drain files).1 = (w.drain files).1 ∧ (w'.drain files).2.stats = (w.drain files).2.stats := by
  have hstep (w w' : Walk) (t t' : FileTree) (h : RespelledHere w w') (ht : t = t') :
      Option.Rel Eq (w.next t).1 (w'.next t').1 ∧ RespelledHere (w.next t).2 (w'.next t').2 := by
    subst ht
    obtain ⟨hsame, hnext⟩ := next_respelled h t
    rw [hsame]
    exact ⟨by cases (w.next t).1 <;> constructor; rfl, hnext⟩
  obtain ⟨hrecords, hend⟩ : List.Forall₂ Eq (w.drain files).1 (w'.drain files).1 ∧
      RespelledHere (w.drain files).2 (w'.drain files).2 := drain_simulated hstep h fun _ => rfl
  rw [List.forall₂_eq_eq_eq] at hrecords
  exact ⟨hrecords.symm, hend.stats⟩

end Walk

/-! ## Exclusions -/

namespace Request

variable {c n : String}

/-- Patterns do not see the mark in front. -/
theorem excludes_front (r : Request) (hc : Internal c) : r.excludes ("L" ++ c) = r.excludes c := by
  rw [excludes, excludes, Exclusions.excludes, Exclusions.excludes, unmarked_front, hc.unmarked]

theorem excludes_both (r : Request) (hc : Internal c) : r.excludes ("L" ++ c ++ ";") = r.excludes (c ++ ";") := by
  rw [excludes, excludes, Exclusions.excludes, Exclusions.excludes, String.append_assoc, unmarked_front,
    hc.unmarked_back]

/-- The spellings of a class are excluded alike where the mark behind makes no difference. -/
theorem excludes_spelling {r : Request} (hc : Internal c) (hback : r.excludes (c ++ ";") = r.excludes c)
    (hn : Spells c n) : r.excludes n = r.excludes c := by
  cases hn with
  | plain => rfl
  | front => exact r.excludes_front hc
  | back => exact hback
  | both => exact (r.excludes_both hc).trans hback

/-- The mark behind makes no difference to the exclusion of the classes in a snapshot. -/
def BlindTo (r : Request) (s : Snapshot) : Prop :=
  ∀ m ∈ s.methods, ∀ c, Internal c → Spells c m.signature.declaringClass → r.excludes (c ++ ";") = r.excludes c

end Request

theorem Snapshot.Respelled.verdicts {s s' : Snapshot} (h : s.Respelled s') {r : Request} (hblind : r.BlindTo s) :
    s'.verdicts r.excludes = s.verdicts r.excludes := by
  have hmethods := h.methods
  unfold Request.BlindTo at hblind
  unfold Snapshot.verdicts
  generalize s.methods = ms, s'.methods = ms' at hmethods hblind
  induction hmethods with
  | nil => rfl
  | @cons m m' ms ms' hm _ ih =>
    have hrest := ih fun m hm => hblind m (List.mem_cons_of_mem _ hm)
    have hsame : r.excludes m'.signature.declaringClass = r.excludes m.signature.declaringClass := by
      cases hm with
      | same => rfl
      | spelled hc hspells hspells' =>
        have hback := hblind m List.mem_cons_self _ hc hspells
        have hplain := Request.excludes_spelling hc hback hspells
        exact (Request.excludes_spelling hc hback hspells').trans hplain.symm
    rw [List.map_cons, List.map_cons, hrest, hsame]

/-- Two walks from the start of graphs that differ in the spelling of classes. -/
theorem Walk.start_respelled {g g' : Graph} (h : g.Respelled g') (loc : Locator) (options : Settings.Resolution) :
    (∃ fault, start g loc options = .error fault ∧ start g' loc options = .error fault) ∨
      ∃ w w', start g loc options = .ok w ∧ start g' loc options = .ok w' ∧ RespelledHere w w' := by
  unfold start
  rw [h.check]
  cases g.check with
  | error fault => exact .inl ⟨fault, rfl, rfl⟩
  | ok sound => exact .inr ⟨_, _, rfl, rfl, ⟨h, rfl, rfl, rfl, rfl⟩, .none, h.nodes⟩

/-! ## Main theorem -/

/-- All spellings of a class have the same source file and the same dotted name, and patterns do not see the mark in
front; all spellings are excluded alike just where the mark behind makes no difference. Where it makes none, snapshots
that differ only in the spelling of classes have the same classes excluded. Then the same methods are excluded, and the
replays end alike and have the same nodes and faults; walks over them that meet the same files make the same records. -/
theorem respelling (r : Request) :
    (∀ c, Internal c →
      (∀ n, Spells c n → sourceFile n = sourceFile c ∧ dotted n = dotted c) ∧
      r.excludes ("L" ++ c) = r.excludes c ∧ r.excludes ("L" ++ c ++ ";") = r.excludes (c ++ ";") ∧
      ((∀ n, Spells c n → r.excludes n = r.excludes c) ↔ r.excludes (c ++ ";") = r.excludes c)) ∧
    ∀ s s' : Snapshot, s.Respelled s' →
      (r.BlindTo s → s'.verdicts r.excludes = s.verdicts r.excludes) ∧
      (s'.verdicts r.excludes = s.verdicts r.excludes → s'.excludedIds r.excludes = s.excludedIds r.excludes ∧
      ∀ (path path' : String) (files files' : FileTree) (stop : Nat → Bool),
        Snapshot.load files path = .ok s → Snapshot.load files' path' = .ok s' →
        (∃ fault, Engine.ofSnapshot path files r stop = .failed fault ∧
          Engine.ofSnapshot path' files' r stop = .failed fault) ∨
        ∃ o o', Engine.ofSnapshot path files r stop = .graph o ∧ Engine.ofSnapshot path' files' r stop = .graph o' ∧
          o'.completeness = o.completeness ∧ o'.graph.nodes.toList = o.graph.nodes.toList ∧
          o'.graph.check = o.graph.check ∧
          ∀ (loc : Locator) (options : Settings.Resolution),
            (∃ fault, Walk.start o.graph loc options = .error fault ∧ Walk.start o'.graph loc options = .error fault) ∨
            ∃ w w', Walk.start o.graph loc options = .ok w ∧ Walk.start o'.graph loc options = .ok w' ∧
              ∀ moments : Nat → FileTree, (w'.drain moments).1 = (w.drain moments).1 ∧
                (w'.drain moments).2.stats = (w.drain moments).2.stats) := by
  refine ⟨fun c hc => ⟨fun n hn => ⟨hn.sourceFile hc, hn.dotted hc⟩, r.excludes_front hc, r.excludes_both hc, ?_⟩, ?_⟩
  · exact ⟨fun hall => hall _ .back, fun hback n hn => Request.excludes_spelling hc hback hn⟩
  · intro s s' h
    refine ⟨h.verdicts, fun hsame => ?_⟩
    have hexcluded := h.excludedIds hsame
    refine ⟨hexcluded, fun path path' files files' stop hload hload' => ?_⟩
    have hmismatch := h.mismatch? r.options
    simp only [Engine.ofSnapshot, hload, hload', hmismatch]
    cases s.mismatch? r.options with
    | some fault => exact .inl ⟨_, rfl, rfl⟩
    | none =>
      have hreplay := h.replay hexcluded r.options.nodeLimit? stop
      refine .inr ⟨_, _, rfl, rfl, hreplay.completeness, hreplay.graph.nodes, hreplay.graph.check, ?_⟩
      intro loc options
      rcases Walk.start_respelled hreplay.graph loc options with hfault | ⟨w, w', hw, hw', halike⟩
      · exact .inl hfault
      · exact .inr ⟨w, w', hw, hw', fun moments => Walk.drain_respelled halike moments⟩

/-- A pattern that names the end of a class excludes two spellings of it and not the other two. -/
theorem excludes_anchored :
    Internal "com/acme/App" ∧ ∃ e, Exclusions.read "^com/acme/App$" = .ok e ∧
      (["com/acme/App", "Lcom/acme/App", "com/acme/App;", "Lcom/acme/App;"].map (Exclusions.excludes [e])) =
        [true, true, false, false] := by
  refine ⟨⟨by decide, by decide⟩, ?_⟩
  have hread : (Exclusions.read "^com/acme/App$").toOption.map (fun e =>
      ["com/acme/App", "Lcom/acme/App", "com/acme/App;", "Lcom/acme/App;"].map (Exclusions.excludes [e])) =
        some [true, true, false, false] := by
    decide
  cases h : Exclusions.read "^com/acme/App$" with
  | error failure =>
    rw [h] at hread
    cases hread
  | ok e =>
    rw [h] at hread
    exact ⟨e, rfl, Option.some.inj hread⟩

end CallGraph
