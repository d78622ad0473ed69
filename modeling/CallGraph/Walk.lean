import CallGraph.Frame
import CallGraph.Source.Locator
/-!
# Walking the edges

One record per caller, call site and target, in the graph's order. A walk stands between two edges and is moved on by
`next`; it describes a call site and resolves a context when the first edge needs them, and counts what it met.

`edges_next` says that each record uses up one of the edges ahead, so a walk comes to an end.
-/

namespace CallGraph

/-- One edge, as it is written out. -/
structure Record where
  caller : String
  /-- the source line of the call site, or its text where there is none -/
  callSite : String
  callerContext : List String
  target : String
  targetContext : List String
  deriving DecidableEq, Repr, Inhabited

/-- What a walk met. Unresolved sites have no line; degraded sites and contexts are those whose resolution failed. -/
structure WalkStats where
  nodesVisited : Nat := 0
  syntheticSkipped : Nat := 0
  edges : Nat := 0
  unresolvedSites : Nat := 0
  degradedSites : Nat := 0
  degradedContexts : Nat := 0
  deriving DecidableEq, Repr, Inhabited

/-- The call site a walk has reached: how it is described, once that is known, and what is left of its targets and of the
call sites of its caller. -/
structure Standpoint where
  caller : Node
  method : Method
  site : CallSite
  description : Option String := none
  targets : List NodeId
  sites : List CallSite

/-- A walk over the edges of a graph. `ahead` are the nodes it has not come to. -/
structure Walk where
  graph : Graph
  options : Settings.Resolution
  locator : Locator
  standpoint : Option Standpoint := none
  ahead : List Node
  /-- the frames of contexts resolved so far -/
  contexts : Std.HashMap NodeId (List String) := {}
  stats : WalkStats := {}

/-- The number of edges that are left at the caller reached. -/
def Standpoint.edges (p : Standpoint) : Nat := p.targets.length + targetCount p.sites

/-- The number of edges ahead, those of callers that will be passed over included. -/
def Walk.edges (w : Walk) : Nat := (w.standpoint.elim 0 Standpoint.edges) + edgesFrom w.ahead

namespace Walk

/-- A walk at the start of a graph, if the graph is sound. -/
def start (g : Graph) (locator : Locator) (options : Settings.Resolution) : Except GraphFault Walk :=
  (g.check).map fun () => { graph := g, options, locator, ahead := g.nodes.toList }

/-! ## Moving on -/

/-- Goes to the first of `sites` that has a target; `none` if there is none. -/
def enterSite (caller : Node) (m : Method) : List CallSite → Option Standpoint
  | [] => none
  | s :: rest =>
    if s.targets.isEmpty then enterSite caller m rest
    else some { caller, method := m, site := s, targets := s.targets, sites := rest }

/-- Goes to the first of `nodes` that has an edge, counting the nodes it comes to. Synthetic callers are passed over if
they are left out. -/
def enterNode (w : Walk) : List Node → Walk
  | [] => { w with standpoint := none, ahead := [] }
  | n :: rest =>
    match w.graph.method? n.method with
    | none => w.enterNode rest
    | some m =>
      if w.options.excludeSynthetic && m.synthetic then
        { w with stats.syntheticSkipped := w.stats.syntheticSkipped + 1 }.enterNode rest
      else
        let w := { w with stats.nodesVisited := w.stats.nodesVisited + 1 }
        match enterSite n m n.sites with
        | some p => { w with standpoint := some p, ahead := rest }
        | none => w.enterNode rest

/-- Goes to the next edge: at the same call site, or a later one of the same caller, or a later node. -/
def advance (w : Walk) : Walk :=
  match w.standpoint with
  | none => w.enterNode w.ahead
  | some p =>
    if !p.targets.isEmpty then w
    else match enterSite p.caller p.method p.sites with
      | some p => { w with standpoint := some p }
      | none => w.enterNode w.ahead

/-! ## Records -/

/-- What the call site at `p` is called where it is looked up, and the walk that did so. -/
def lookUp (w : Walk) (t : FileTree) (p : Standpoint) : String × Walk :=
  if !w.options.sourceNumbers then (p.site.site, w)
  else match w.locator.locate t p.method p.site w.options.sourceText with
    | (.ok (some line), locator) => (line.display, { w with locator })
    | (.ok none, locator) => (p.site.site, { w with locator, stats.unresolvedSites := w.stats.unresolvedSites + 1 })
    | (.error _, locator) => (p.site.site, { w with locator, stats.degradedSites := w.stats.degradedSites + 1 })

/-- How the call site at `p` is described, and the walk that knows it. -/
def describe (w : Walk) (t : FileTree) (p : Standpoint) : String × Walk :=
  let (description, w) := match p.description with
    | some description => (description, w)
    | none => w.lookUp t p
  (description, { w with standpoint := some { p with description := some description } })

/-- The frames of a node's context as text, and the walk that knows them. A context that does not resolve has no
frames. -/
def framesOf (w : Walk) (n : Node) : List String × Walk :=
  match w.contexts[n.id]? with
  | some frames => (frames, w)
  | none =>
    let (frames, w) := match n.context.frames w.graph w.options with
      | .ok frames => (frames.map Frame.text, w)
      | .error _ => ([], { w with stats.degradedContexts := w.stats.degradedContexts + 1 })
    (frames, { w with contexts := w.contexts.insert n.id frames })

def callerFrames (w : Walk) (n : Node) : List String × Walk :=
  match w.options.contextDetail with
  | .full => w.framesOf n
  | .target | .none => ([], w)

def targetFrames (w : Walk) (n : Node) : List String × Walk :=
  match w.options.contextDetail with
  | .target | .full => w.framesOf n
  | .none => ([], w)

/-- The text of the signature of a node's method. -/
def signatureOf (w : Walk) (n : Node) : String :=
  match w.graph.method? n.method with
  | some m => m.signature.text
  | none => ""

/-- The record of the edge from the call site at `p` to `target`. -/
def record (w : Walk) (t : FileTree) (p : Standpoint) (target : NodeId) : Record × Walk :=
  let (callSite, w) := w.describe t p
  let (callerContext, w) := w.callerFrames p.caller
  let (name, targetContext, w) := match w.graph.node? target with
    | some n =>
      let (frames, w) := w.targetFrames n
      (w.signatureOf n, frames, w)
    | none => ("", [], w)
  ({ caller := p.method.signature.text, callSite, callerContext, target := name, targetContext },
    { w with stats.edges := w.stats.edges + 1 })

/-- The next record and the walk behind it; no record at the end. -/
def next (w : Walk) (t : FileTree) : Option Record × Walk :=
  let w := w.advance
  match w.standpoint with
  | none => (none, w)
  | some p =>
    match p.targets with
    | [] => (none, w)
    | target :: rest =>
      let (r, w) := w.record t { p with targets := rest } target
      (some r, w)

/-! ## The end of a walk -/

theorem enterSite_edges {caller : Node} {m : Method} {sites : List CallSite} {p : Standpoint}
    (h : enterSite caller m sites = some p) : p.edges = targetCount sites := by
  induction sites with
  | nil => simp [enterSite] at h
  | cons s ss ih =>
    unfold enterSite at h
    split at h
    · next hs => simpa [targetCount, List.isEmpty_iff.1 hs] using ih h
    · simp only [Option.some.injEq] at h
      subst h
      rfl

theorem enterNode_edges (w : Walk) (ns : List Node) : (w.enterNode ns).edges ≤ edgesFrom ns := by
  induction ns generalizing w with
  | nil => simp [enterNode, edges, edgesFrom]
  | cons n rest ih =>
    simp only [edgesFrom]
    unfold enterNode
    split
    · exact Nat.le_trans (ih _) (Nat.le_add_left _ _)
    · split
      · exact Nat.le_trans (ih _) (Nat.le_add_left _ _)
      · dsimp only
        split
        · next h => simp [edges, enterSite_edges h]
        · exact Nat.le_trans (ih _) (Nat.le_add_left _ _)

theorem advance_edges (w : Walk) : w.advance.edges ≤ w.edges := by
  unfold advance
  split
  · exact Nat.le_trans (enterNode_edges _ _) (Nat.le_add_left _ _)
  · next p hp =>
    split
    · exact Nat.le_refl _
    · split
      · next p' h =>
        have hle : p'.edges ≤ p.edges := by rw [enterSite_edges h]; exact Nat.le_add_left _ _
        simpa only [edges, hp, Option.elim_some, Nat.add_le_add_iff_right] using hle
      · exact Nat.le_trans (enterNode_edges _ _) (Nat.le_add_left _ _)

/-- Two walks that are alike but for what they remember, and for what they count as unresolved or degraded. -/
structure SamePlace (w w' : Walk) : Prop where
  graph : w'.graph = w.graph
  options : w'.options = w.options
  standpoint : w'.standpoint = w.standpoint
  ahead : w'.ahead = w.ahead
  nodesVisited : w'.stats.nodesVisited = w.stats.nodesVisited
  syntheticSkipped : w'.stats.syntheticSkipped = w.stats.syntheticSkipped
  edgesTold : w'.stats.edges = w.stats.edges

theorem SamePlace.refl (w : Walk) : SamePlace w w := ⟨rfl, rfl, rfl, rfl, rfl, rfl, rfl⟩

theorem SamePlace.trans {w₁ w₂ w₃ : Walk} (h : SamePlace w₁ w₂) (h' : SamePlace w₂ w₃) : SamePlace w₁ w₃ :=
  ⟨h'.graph.trans h.graph, h'.options.trans h.options, h'.standpoint.trans h.standpoint, h'.ahead.trans h.ahead,
    h'.nodesVisited.trans h.nodesVisited, h'.syntheticSkipped.trans h.syntheticSkipped, h'.edgesTold.trans h.edgesTold⟩

theorem SamePlace.edges {w w' : Walk} (h : SamePlace w w') : w'.edges = w.edges := by
  rw [Walk.edges, Walk.edges, h.standpoint, h.ahead]

theorem lookUp_place (w : Walk) (t : FileTree) (p : Standpoint) : SamePlace w (w.lookUp t p).2 := by
  unfold lookUp
  split
  · exact .refl w
  · split <;> exact ⟨rfl, rfl, rfl, rfl, rfl, rfl, rfl⟩

theorem describe_place (w : Walk) (t : FileTree) (p : Standpoint) :
    SamePlace { w with standpoint := some { p with description := some (w.describe t p).1 } } (w.describe t p).2 := by
  unfold describe
  cases hd : p.description with
  | some description => exact .refl _
  | none =>
    have h := lookUp_place w t p
    exact ⟨h.graph, h.options, rfl, h.ahead, h.nodesVisited, h.syntheticSkipped, h.edgesTold⟩

theorem framesOf_place (w : Walk) (n : Node) : SamePlace w (w.framesOf n).2 := by
  unfold framesOf
  split
  · exact .refl w
  · dsimp only
    split <;> exact ⟨rfl, rfl, rfl, rfl, rfl, rfl, rfl⟩

theorem callerFrames_place (w : Walk) (n : Node) : SamePlace w (w.callerFrames n).2 := by
  unfold callerFrames
  split
  · exact framesOf_place w n
  all_goals exact .refl w

theorem targetFrames_place (w : Walk) (n : Node) : SamePlace w (w.targetFrames n).2 := by
  unfold targetFrames
  split
  · exact framesOf_place w n
  · exact framesOf_place w n
  · exact .refl w

/-- To make a record takes a walk nowhere else; it knows the description of the call site then, and has counted the
edge. -/
theorem record_place (w : Walk) (t : FileTree) (p : Standpoint) (target : NodeId) :
    SamePlace
      { w with
        standpoint := some { p with description := some (w.describe t p).1 }
        stats.edges := w.stats.edges + 1 }
      (w.record t p target).2 := by
  have hd := describe_place w t p
  have hc := hd.trans (callerFrames_place (w.describe t p).2 p.caller)
  have hcount {w' : Walk} (h : w'.stats.edges = w.stats.edges) : w'.stats.edges + 1 = w.stats.edges + 1 := by rw [h]
  unfold record
  dsimp only
  split
  · next n _ =>
    have ht := hc.trans (targetFrames_place _ n)
    exact ⟨ht.graph, ht.options, ht.standpoint, ht.ahead, ht.nodesVisited, ht.syntheticSkipped, hcount ht.edgesTold⟩
  · exact ⟨hc.graph, hc.options, hc.standpoint, hc.ahead, hc.nodesVisited, hc.syntheticSkipped, hcount hc.edgesTold⟩

/-- Each record uses up an edge ahead. -/
theorem edges_next {w : Walk} {t : FileTree} {r : Record} {w' : Walk} (h : w.next t = (some r, w')) :
    w'.edges < w.edges := by
  refine Nat.lt_of_lt_of_le ?_ (advance_edges w)
  unfold next at h
  dsimp only at h
  split at h
  · simp at h
  · next p hp =>
    split at h
    · simp at h
    · next target rest ht =>
      simp only [Prod.mk.injEq] at h
      rw [← h.2, (record_place _ _ _ _).edges]
      simp only [edges, hp, ht, Option.elim_some, Standpoint.edges, List.length_cons]
      omega

end Walk

end CallGraph
