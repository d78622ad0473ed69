import CallGraph.Proofs.Holdings
import CallGraph.Proofs.Walk
/-!
# How an edge is told

The record of an edge as a function of what there is to know: the methods, the options and what the archives hold. A
walk comes to the same by looking things up one after another; `texts_of_frames` is the part of that for contexts.
-/

namespace CallGraph

/-- How a call site of `m` is described: by its source line, or else by its own text. -/
def Method.siteText (m : Method) (options : Settings.Resolution) (hs : List Holding) (c : CallSite) : String :=
  if options.sourceNumbers then
    match m.sourceLine c options.siteMatch options.sourceText hs with
    | .ok (some line) => line.display
    | _ => c.site
  else c.site

/-- The frame of an entry in `m`; none if `m` is synthetic and such methods are left out. -/
def ContextEntry.frameIn? (e : ContextEntry) (options : Settings.Resolution) (m : Method) : Option Frame :=
  if options.excludeSynthetic && m.synthetic then none
  else some ⟨m.signature, if options.sourceNumbers then m.line? e.pc else none, e.site⟩

/-- The frames of a context as text. There are none if the context has no rule, or some entry no method. -/
def Context.texts (c : Context) (method? : MethodId → Option Method) (options : Settings.Resolution) : List String :=
  match c.entries with
  | .error _ => []
  | .ok entries =>
    if entries.all fun e => (method? e.method).isSome then
      let frames := entries.filterMap fun e => (method? e.method).bind (e.frameIn? options)
      (match options.frameOrder with
        | .outerFirst => frames
        | .innerFirst => frames.reverse).map Frame.text
    else []

/-- What edges are told from: the methods there are, how to resolve them, and what the archives hold. -/
structure Teller where
  method? : MethodId → Option Method
  options : Settings.Resolution
  holdings : List Holding

/-- The record of an edge from call site `c` of `n`, whose method is `m`. -/
def Teller.record (k : Teller) (n : Node) (m : Method) (c : CallSite) (target : Node) : Record where
  caller := m.signature.text
  callSite := m.siteText k.options k.holdings c
  callerContext :=
    match k.options.contextDetail with
    | .full => n.context.texts k.method? k.options
    | .target | .none => []
  target :=
    match k.method? target.method with
    | some m => m.signature.text
    | none => ""
  targetContext :=
    match k.options.contextDetail with
    | .target | .full => target.context.texts k.method? k.options
    | .none => []

/-- The record of an edge of a graph; none if the graph has no such target. -/
def Edge.tell? (e : Edge) (g : Graph) (k : Teller) : Option Record :=
  (g.node? e.target).map (k.record e.caller e.method e.site)

/-! ## Contexts -/

section
variable {g : Graph} (options : Settings.Resolution) {entries : List ContextEntry}

theorem frame?_of_method {e : ContextEntry} {m : Method} (h : g.method? e.method = some m) :
    e.frame? g options = .ok (e.frameIn? options m) := by
  simp only [ContextEntry.frame?, ContextEntry.frameIn?, h]
  split <;> rfl

theorem mapM_frame?_of_known (h : ∀ e ∈ entries, ∃ m, g.method? e.method = some m) :
    ∃ frames, entries.mapM (fun e => e.frame? g options) = .ok frames ∧
      frames.filterMap id = entries.filterMap fun e => (g.method? e.method).bind (e.frameIn? options) := by
  induction entries with
  | nil => exact ⟨[], rfl, rfl⟩
  | cons e entries ih =>
    obtain ⟨m, hm⟩ := h e List.mem_cons_self
    obtain ⟨frames, hframes, hlist⟩ := ih fun e' he' => h e' (List.mem_cons_of_mem _ he')
    refine ⟨e.frameIn? options m :: frames, ?_, ?_⟩
    · rw [List.mapM_cons, frame?_of_method options hm, hframes]
      rfl
    · rw [List.filterMap_cons, List.filterMap_cons, hlist, hm, Option.bind_some]
      rfl

/-- The first entry without a method is what a context fails for. -/
theorem mapM_frame?_of_unknown {before rest : List ContextEntry} {e : ContextEntry}
    (hbefore : ∀ e' ∈ before, ∃ m, g.method? e'.method = some m) (h : g.method? e.method = none) :
    (before ++ e :: rest).mapM (fun e => e.frame? g options) = .error (.unknownMethod e.method) := by
  induction before with
  | nil =>
    rw [List.nil_append, List.mapM_cons, ContextEntry.frame?, h]
    rfl
  | cons e' before ih =>
    obtain ⟨m, hm⟩ := hbefore e' List.mem_cons_self
    rw [List.cons_append, List.mapM_cons, frame?_of_method options hm,
      ih fun e'' he'' => hbefore e'' (List.mem_cons_of_mem _ he'')]
    rfl

/-- Either all entries have methods, or one is the first that has none. -/
theorem known_or_unknown (g : Graph) (entries : List ContextEntry) :
    (∀ e ∈ entries, ∃ m, g.method? e.method = some m) ∨
      ∃ before e rest, entries = before ++ e :: rest ∧ (∀ e' ∈ before, ∃ m, g.method? e'.method = some m) ∧
        g.method? e.method = none := by
  cases hfind : entries.find? fun e => (g.method? e.method).isNone with
  | none =>
    refine .inl fun e he => Option.ne_none_iff_exists'.1 ?_
    simpa using List.find?_eq_none.1 hfind e he
  | some e =>
    obtain ⟨hnone, before, rest, hsplit, hbefore⟩ := List.find?_eq_some_iff_append.1 hfind
    refine .inr ⟨before, e, rest, hsplit, fun e' he' => Option.isSome_iff_exists.1 ?_, by simpa using hnone⟩
    simpa using hbefore e' he'

/-- What a walk writes down for a context. -/
theorem texts_of_frames (c : Context) (g : Graph) (options : Settings.Resolution) :
    (∀ frames, c.frames g options = .ok frames → c.texts g.method? options = frames.map Frame.text) ∧
      ∀ cause, c.frames g options = .error cause → c.texts g.method? options = [] := by
  unfold Context.frames Context.texts
  cases c.entries with
  | error cause => simp
  | ok entries =>
    rcases known_or_unknown g entries with hall | ⟨before, e, rest, rfl, hbefore, hm⟩
    · have hsome : (entries.all fun e => (g.method? e.method).isSome) = true := by
        simpa only [List.all_eq_true, Option.isSome_iff_exists] using hall
      obtain ⟨frames, hframes, hlist⟩ := mapM_frame?_of_known options hall
      simp only [hsome, if_true, hframes, ← hlist]
      cases options.frameOrder <;> simp
    · have hsome : ¬((before ++ e :: rest).all fun e => (g.method? e.method).isSome) = true := by
        simp [hm]
      simp [mapM_frame?_of_unknown options hbefore hm, hsome]

end

end CallGraph
