import CallGraph.Proofs.Memory
/-!
# What sources can change

Two walks over one graph, each with archives of its own that may change under way. Whatever is read of the archives, the
walks stay abreast (`next_abreast`): they count the same, resolve the same contexts and come to the same edges.
`drain_sources` says what is left to the archives, the text of a line behind the place of a call site.
-/

namespace CallGraph

/-- The text is that of a place, alone or with a colon and more text behind it. -/
def ShowsPlace (place text : String) : Prop := text = place ∨ ∃ more, text = place ++ ": " ++ more

/-- Two descriptions of a call site: the same, or both of one line of a file. -/
def SamePlaceShown (text text' : String) : Prop :=
  text' = text ∨ ∃ (file : String) (line : UInt32), ShowsPlace s!"{file}:{line}" text ∧ ShowsPlace s!"{file}:{line}" text'

/-- Two records of one edge, whose call site may be shown with other source text. -/
structure Record.SameButText (r r' : Record) : Prop where
  caller : r'.caller = r.caller
  callerContext : r'.callerContext = r.callerContext
  target : r'.target = r.target
  targetContext : r'.targetContext = r.targetContext
  callSite : SamePlaceShown r.callSite r'.callSite

theorem SourceLine.display_shows (l : SourceLine) : ShowsPlace s!"{l.file}:{l.line}" l.display := by
  unfold display
  split
  · exact .inr ⟨_, rfl⟩
  · exact .inl rfl

/-! ## Locating -/

/-- Two answers about one call site that differ in source text at most. -/
inductive LocatedAlike (withText : Bool) :
    Except Unresolved (Option SourceLine) → Except Unresolved (Option SourceLine) → Prop
  | failed (cause : Unresolved) : LocatedAlike withText (.error cause) (.error cause)
  | nowhere : LocatedAlike withText (.ok none) (.ok none)
  | line (file : String) (line : UInt32) {text text' : Option String} (h : withText = false → text' = text) :
      LocatedAlike withText (.ok (some ⟨file, line, text⟩)) (.ok (some ⟨file, line, text'⟩))

/-- Whether a call site has a line, and which, does not depend on the archives: found text, a missing file, a line out of
range and an unreadable archive are all the same answer. -/
theorem Locator.locate_alike {loc loc' : Locator} (h : loc'.rule = loc.rule) (t t' : FileTree) (m : Method)
    (s : CallSite) (withText : Bool) :
    LocatedAlike withText (loc.locate t m s withText).1 (loc'.locate t' m s withText).1 := by
  unfold locate
  rw [h]
  cases m.siteLine s loc.rule with
  | error cause => exact .failed cause
  | ok found =>
    cases found with
    | none => exact .nowhere
    | some line =>
      cases withText with
      | false => exact .line _ line fun _ => rfl
      | true => exact .line _ line fun hoff => nomatch hoff

namespace Walk

/-- Source text is read and shown. -/
def ShowsText (options : Settings.Resolution) : Prop := options.sourceNumbers = true ∧ options.sourceText = true

/-- Two walks that know the same, but for what was read of the archives. -/
structure Alongside (w w' : Walk) : Prop where
  graph : w'.graph = w.graph
  options : w'.options = w.options
  rule : w'.locator.rule = w.locator.rule
  contexts : w'.contexts = w.contexts
  stats : w'.stats = w.stats

/-- Two descriptions under the same options. -/
def Described (options : Settings.Resolution) (text text' : String) : Prop :=
  SamePlaceShown text text' ∧ (¬ShowsText options → text' = text)

/-- Two standpoints at one place. -/
structure Facing (options : Settings.Resolution) (p p' : Standpoint) : Prop where
  caller : p'.caller = p.caller
  method : p'.method = p.method
  site : p'.site = p.site
  targets : p'.targets = p.targets
  sites : p'.sites = p.sites
  description : Option.Rel (Described options) p.description p'.description

/-- Two walks that know the same and have come to the same place. -/
structure Abreast (w w' : Walk) : Prop extends Alongside w w' where
  standpoint : Option.Rel (Facing w.options) w.standpoint w'.standpoint
  ahead : w'.ahead = w.ahead

theorem Described.refl (options : Settings.Resolution) (text : String) : Described options text text :=
  ⟨.inl rfl, fun _ => rfl⟩

/-- A call site that nobody has described looks the same to both. -/
theorem Facing.refl {options : Settings.Resolution} {p : Standpoint} (h : p.description = none) :
    Facing options p p := by
  refine ⟨rfl, rfl, rfl, rfl, rfl, ?_⟩
  rw [h]
  exact .none

/-! ## Moving on -/

theorem enterSite_facing (options : Settings.Resolution) (n : Node) (m : Method) (sites : List CallSite) :
    Option.Rel (Facing options) (enterSite n m sites) (enterSite n m sites) := by
  cases h : enterSite n m sites with
  | none => exact .none
  | some p => exact .some (.refl (enterSite_some h).2.2.2.1)

/-- To count a node keeps walks alongside. -/
theorem Alongside.counted {w w' : Walk} (h : Alongside w w') (count : WalkStats → WalkStats) :
    Alongside { w with stats := count w.stats } { w' with stats := count w'.stats } := by
  refine ⟨h.graph, h.options, h.rule, h.contexts, ?_⟩
  rw [h.stats]

theorem enterNode_abreast {w w' : Walk} (h : Alongside w w') (ns : List Node) :
    Abreast (w.enterNode ns) (w'.enterNode ns) := by
  induction ns generalizing w w' with
  | nil => exact ⟨⟨h.graph, h.options, h.rule, h.contexts, h.stats⟩, .none, rfl⟩
  | cons n rest ih =>
    have hmethod : w'.graph.method? n.method = w.graph.method? n.method := by rw [h.graph]
    have hleft : w'.options.excludeSynthetic = w.options.excludeSynthetic := by rw [h.options]
    unfold enterNode
    rw [hmethod]
    cases w.graph.method? n.method with
    | none => exact ih h
    | some m =>
      dsimp only
      rw [hleft]
      split
      · exact ih (h.counted fun stats => { stats with syntheticSkipped := stats.syntheticSkipped + 1 })
      · have hvisited := h.counted fun stats => { stats with nodesVisited := stats.nodesVisited + 1 }
        have hfacing := enterSite_facing w.options n m n.sites
        cases hp : enterSite n m n.sites with
        | none => exact ih hvisited
        | some p =>
          rw [hp] at hfacing
          exact ⟨⟨h.graph, h.options, h.rule, h.contexts, hvisited.stats⟩, hfacing, rfl⟩

theorem advance_abreast {w w' : Walk} (h : Abreast w w') : Abreast w.advance w'.advance := by
  unfold advance
  have hnode : Abreast (w.enterNode w.ahead) (w'.enterNode w'.ahead) := by
    rw [h.ahead]
    exact enterNode_abreast h.toAlongside w.ahead
  have hstandpoint := h.standpoint
  generalize hp : w.standpoint = place, hp' : w'.standpoint = place' at hstandpoint
  cases hstandpoint with
  | none => exact hnode
  | @some p p' hfacing =>
    dsimp only
    rw [hfacing.targets, hfacing.caller, hfacing.method, hfacing.sites]
    split
    · exact h
    · have hsite := enterSite_facing w.options p.caller p.method p.sites
      cases hs : enterSite p.caller p.method p.sites with
      | none => exact hnode
      | some s =>
        rw [hs] at hsite
        exact ⟨⟨h.graph, h.options, h.rule, h.contexts, h.stats⟩, hsite, h.ahead⟩

/-! ## Records -/

/-- A line of a file is described alike with one text, another or none. -/
theorem Described.line {options : Settings.Resolution} (file : String) (line : UInt32) {text text' : Option String}
    (h : ¬ShowsText options → text' = text) :
    Described options (SourceLine.display ⟨file, line, text⟩) (SourceLine.display ⟨file, line, text'⟩) := by
  refine ⟨.inr ⟨file, line, ?_, ?_⟩, fun hoff => by rw [h hoff]⟩
  · exact SourceLine.display_shows ⟨file, line, text⟩
  · exact SourceLine.display_shows ⟨file, line, text'⟩

/-- Looking up a call site gives descriptions of one place, and counts the same. -/
theorem lookUp_alongside {w w' : Walk} (h : Alongside w w') (t t' : FileTree) {p p' : Standpoint}
    (hp : Facing w.options p p') :
    Described w.options (w.lookUp t p).1 (w'.lookUp t' p').1 ∧ Alongside (w.lookUp t p).2 (w'.lookUp t' p').2 := by
  have halike := Locator.locate_alike h.rule t t' p.method p.site w.options.sourceText
  have hrule := w.locator.locate_rule t p.method p.site w.options.sourceText
  have hrule' := w'.locator.locate_rule t' p.method p.site w.options.sourceText
  unfold lookUp
  rw [h.options, hp.method, hp.site]
  split
  · exact ⟨.refl _ _, h⟩
  · next hnumbers =>
    rcases hl : w.locator.locate t p.method p.site w.options.sourceText with ⟨answer, loc⟩
    rcases hl' : w'.locator.locate t' p.method p.site w.options.sourceText with ⟨answer', loc'⟩
    rw [hl] at halike hrule
    rw [hl'] at halike hrule'
    have hrules : loc'.rule = loc.rule := hrule'.trans (h.rule.trans hrule.symm)
    cases halike with
    | failed cause =>
      have hcounted := h.counted fun stats => { stats with degradedSites := stats.degradedSites + 1 }
      exact ⟨.refl _ _, ⟨h.graph, rfl, hrules, h.contexts, hcounted.stats⟩⟩
    | nowhere =>
      have hcounted := h.counted fun stats => { stats with unresolvedSites := stats.unresolvedSites + 1 }
      exact ⟨.refl _ _, ⟨h.graph, rfl, hrules, h.contexts, hcounted.stats⟩⟩
    | line file line htext =>
      refine ⟨.line file line fun hoff => htext ?_, ⟨h.graph, rfl, hrules, h.contexts, h.stats⟩⟩
      have hnumbers : w.options.sourceNumbers = true := by simpa using hnumbers
      exact eq_false_of_ne_true fun htext => hoff ⟨hnumbers, htext⟩

/-- Two walks at one call site stay at it when they describe it. -/
theorem describe_abreast {w w' : Walk} (h : Alongside w w') (hahead : w'.ahead = w.ahead) (t t' : FileTree)
    {p p' : Standpoint} (hp : Facing w.options p p') :
    Described w.options (w.describe t p).1 (w'.describe t' p').1 ∧ Abreast (w.describe t p).2 (w'.describe t' p').2 := by
  have hplace := describe_place w t p
  have hplace' := describe_place w' t' p'
  have hdone : Described w.options (w.describe t p).1 (w'.describe t' p').1 ∧
      Alongside (w.describe t p).2 (w'.describe t' p').2 := by
    have hdescription := hp.description
    unfold describe
    generalize p.description = known, p'.description = known' at hdescription
    cases hdescription with
    | none =>
      obtain ⟨hsaid, halong⟩ := lookUp_alongside h t t' hp
      exact ⟨hsaid, halong.graph, halong.options, halong.rule, halong.contexts, halong.stats⟩
    | some hsaid => exact ⟨hsaid, h.graph, h.options, h.rule, h.contexts, h.stats⟩
  refine ⟨hdone.1, hdone.2, ?_, ?_⟩
  · rw [hplace.standpoint, hplace'.standpoint, hplace.options]
    exact .some ⟨hp.caller, hp.method, hp.site, hp.targets, hp.sites, .some hdone.1⟩
  · rw [hplace.ahead, hplace'.ahead]
    exact hahead

/-- The frames of a context do not depend on the archives. -/
theorem framesOf_abreast {w w' : Walk} (h : Abreast w w') (n : Node) :
    (w'.framesOf n).1 = (w.framesOf n).1 ∧ Abreast (w.framesOf n).2 (w'.framesOf n).2 := by
  have hframes : n.context.frames w'.graph w'.options = n.context.frames w.graph w.options := by
    rw [h.graph, h.options]
  have hknown : w'.contexts[n.id]? = w.contexts[n.id]? := by rw [h.contexts]
  have hlearned (frames : List String) : w'.contexts.insert n.id frames = w.contexts.insert n.id frames := by
    rw [h.contexts]
  unfold framesOf
  rw [hknown, hframes]
  cases w.contexts[n.id]? with
  | some frames => exact ⟨rfl, h⟩
  | none =>
    cases n.context.frames w.graph w.options with
    | ok frames => exact ⟨rfl, ⟨h.graph, h.options, h.rule, hlearned _, h.stats⟩, h.standpoint, h.ahead⟩
    | error cause =>
      have hcounted := h.counted fun stats => { stats with degradedContexts := stats.degradedContexts + 1 }
      exact ⟨rfl, ⟨h.graph, h.options, h.rule, hlearned _, hcounted.stats⟩, h.standpoint, h.ahead⟩

theorem callerFrames_abreast {w w' : Walk} (h : Abreast w w') (n : Node) :
    (w'.callerFrames n).1 = (w.callerFrames n).1 ∧ Abreast (w.callerFrames n).2 (w'.callerFrames n).2 :=
  callerFrames_simulated h (by rw [h.options]) (framesOf_abreast h n)

theorem targetFrames_abreast {w w' : Walk} (h : Abreast w w') (n : Node) :
    (w'.targetFrames n).1 = (w.targetFrames n).1 ∧ Abreast (w.targetFrames n).2 (w'.targetFrames n).2 :=
  targetFrames_simulated h (by rw [h.options]) (framesOf_abreast h n)

theorem Abreast.signatureOf {w w' : Walk} (h : Abreast w w') (n : Node) : w'.signatureOf n = w.signatureOf n := by
  unfold Walk.signatureOf
  rw [h.graph]

/-- How the records of one edge compare. -/
structure ToldAlike (options : Settings.Resolution) (r r' : Record) : Prop where
  place : r.SameButText r'
  same : ¬ShowsText options → r' = r

theorem record_abreast {w w' : Walk} (h : Alongside w w') (hahead : w'.ahead = w.ahead) (t t' : FileTree)
    {p p' : Standpoint} (hp : Facing w.options p p') (target : NodeId) :
    ToldAlike w.options (w.record t p target).1 (w'.record t' p' target).1 ∧
      Abreast (w.record t p target).2 (w'.record t' p' target).2 := by
  obtain ⟨hsaid, hdescribed⟩ := describe_abreast h hahead t t' hp
  obtain ⟨hcaller, hcalled⟩ := callerFrames_abreast hdescribed p.caller
  have hnode : ((w'.describe t' p').2.callerFrames p.caller).2.graph.node? target =
      ((w.describe t p).2.callerFrames p.caller).2.graph.node? target := by rw [hcalled.graph]
  have hname : p'.method.signature.text = p.method.signature.text := by rw [hp.method]
  unfold record
  dsimp only
  rw [hp.caller, hnode]
  cases ((w.describe t p).2.callerFrames p.caller).2.graph.node? target with
  | none =>
    have hcounted := hcalled.counted fun stats => { stats with edges := stats.edges + 1 }
    refine ⟨⟨⟨hname, hcaller, rfl, rfl, hsaid.1⟩, fun hoff => ?_⟩, ?_, hcalled.standpoint, hcalled.ahead⟩
    · rw [hname, hcaller, hsaid.2 hoff]
    · exact hcounted
  | some n =>
    obtain ⟨htarget, htold⟩ := targetFrames_abreast hcalled n
    have hcounted := htold.counted fun stats => { stats with edges := stats.edges + 1 }
    refine ⟨⟨⟨hname, hcaller, htold.signatureOf n, htarget, hsaid.1⟩, fun hoff => ?_⟩, ?_, htold.standpoint, htold.ahead⟩
    · dsimp only
      rw [hname, hcaller, hsaid.2 hoff, htold.signatureOf n, htarget]
    · exact hcounted

/-! ## The walk -/

/-- One step keeps two walks abreast, whatever each reads of its archives: both come to the end, or both make a record of
one edge. -/
theorem next_abreast {w w' : Walk} (h : Abreast w w') (t t' : FileTree) :
    Option.Rel (ToldAlike w.options) (w.next t).1 (w'.next t').1 ∧ Abreast (w.next t).2 (w'.next t').2 := by
  have hadvance := advance_abreast h
  have hstandpoint := hadvance.standpoint
  have hoptions := (advance_lore w).options
  unfold next
  dsimp only
  generalize hp : w.advance.standpoint = place, hp' : w'.advance.standpoint = place' at hstandpoint
  cases hstandpoint with
  | none => exact ⟨.none, hadvance⟩
  | @some p p' hfacing =>
    dsimp only
    rw [hfacing.targets]
    cases p.targets with
    | nil => exact ⟨.none, hadvance⟩
    | cons target left =>
      have hleft : Facing w.advance.options { p with targets := left } { p' with targets := left } :=
        ⟨hfacing.caller, hfacing.method, hfacing.site, rfl, hfacing.sites, hfacing.description⟩
      obtain ⟨htold, hrecord⟩ := record_abreast hadvance.toAlongside hadvance.ahead t t' hleft target
      rw [hoptions] at htold
      exact ⟨.some htold, hrecord⟩

theorem next_options (w : Walk) (t : FileTree) : (w.next t).2.options = w.options := by
  have hoptions := (advance_lore w).options
  unfold next
  dsimp only
  split
  · exact hoptions
  · split
    · exact hoptions
    · exact (record_place w.advance t _ _).options.trans hoptions

/-- Two walks abreast come to the same edges and to the same counts, whatever their archives say at each step. -/
theorem drain_abreast {w w' : Walk} (h : Abreast w w') (files files' : Nat → FileTree) :
    List.Forall₂ (ToldAlike w.options) (w.drain files).1 (w'.drain files').1 ∧
      (w'.drain files').2.stats = (w.drain files).2.stats := by
  have hstep (u u' : Walk) (t t' : FileTree) (hu : Abreast u u' ∧ u.options = w.options) (_ : True) :
      Option.Rel (ToldAlike w.options) (u.next t).1 (u'.next t').1 ∧
        Abreast (u.next t).2 (u'.next t').2 ∧ (u.next t).2.options = w.options := by
    obtain ⟨htold, hnext⟩ := next_abreast hu.1 t t'
    rw [hu.2] at htold
    exact ⟨htold, hnext, (next_options u t).trans hu.2⟩
  obtain ⟨htold, hend, -⟩ := drain_simulated hstep ⟨h, rfl⟩ fun _ => trivial
  exact ⟨htold, hend.stats⟩

/-- Archives do not change what a walk comes to. With any two lists of them, whatever they hold and however that changes
under way, two walks over a sound graph make as many records, of the same edges in the same contexts, and count the same;
a call site that is shown with source text may be shown with other text, or none, behind the same place. -/
theorem drain_sources {g : Graph} (hg : g.check = .ok ()) (options : Settings.Resolution)
    (archives archives' : List Archive) (files files' : Nat → FileTree) :
    ∃ w w', start g (.ofArchives archives options.siteMatch) options = .ok w ∧
      start g (.ofArchives archives' options.siteMatch) options = .ok w' ∧
      List.Forall₂ Record.SameButText (w.drain files).1 (w'.drain files').1 ∧
      (w'.drain files').2.stats = (w.drain files).2.stats ∧
      (options.sourceText = false ∨ options.sourceNumbers = false → (w'.drain files').1 = (w.drain files).1) := by
  have hstart (archives : List Archive) :
      start g (.ofArchives archives options.siteMatch) options = .ok (atStart g archives options) := by
    rw [start, hg]
    rfl
  have habreast : Abreast (atStart g archives options) (atStart g archives' options) :=
    ⟨⟨rfl, rfl, rfl, rfl, rfl⟩, .none, rfl⟩
  obtain ⟨htold, hstats⟩ := drain_abreast habreast files files'
  refine ⟨_, _, hstart archives, hstart archives', ?_⟩
  refine ⟨htold.imp fun _ _ h => h.place, hstats, fun hoff => ?_⟩
  have hhides : ¬ShowsText options := by
    rintro ⟨hnumbers, htext⟩
    rcases hoff with h | h
    · rw [h] at htext
      cases htext
    · rw [h] at hnumbers
      cases hnumbers
  have hsame := htold.imp fun _ _ h => (h.same hhides).symm
  exact (List.forall₂_eq_eq_eq ▸ hsame : _ = _).symm

end Walk

/-- One node that calls itself at a line of a source file. -/
def mappedGraph : Graph :=
  (Graph.empty.addMethod
    { id := ⟨0⟩, signature := ⟨"Lp/A", "f", "()V"⟩, instructions := [⟨.invoke, some "x", some 1⟩],
      lineTable := [⟨0, 3⟩] }).addNode
    { id := ⟨7⟩, method := ⟨0⟩, sites := [⟨"x", 1, [⟨7⟩]⟩] }

theorem mappedGraph_check : mappedGraph.check = .ok () :=
  mappedGraph.check_eq_ok_iff.2 (Graph.sound_single rfl (by simp))

/-- A source file that can be read at the first look only. -/
def passingSource (k : Nat) : FileTree where
  entries := if k = 0 then [(["src", "p", "A.java"], .file "class A\n\x7b\n  void f() \x7b f(); \x7d".toUTF8)] else []
  home := []

/-- One walk finds the line of the call, the other has no archive to look at. -/
theorem drain_mappedGraph :
    ∃ w w', Walk.start mappedGraph (.ofArchives [.directory "src"] .first) { sourceText := true } = .ok w ∧
      Walk.start mappedGraph (.ofArchives [] .first) { sourceText := true } = .ok w' ∧
      List.Forall₂ Record.SameButText (w.drain passingSource).1 (w'.drain passingSource).1 ∧
      (w'.drain passingSource).2.stats = (w.drain passingSource).2.stats := by
  obtain ⟨w, w', hw, hw', hrecords, hstats, -⟩ := Walk.drain_sources mappedGraph_check { sourceText := true }
    [.directory "src"] [] passingSource passingSource
  exact ⟨w, w', hw, hw', hrecords, hstats⟩

end CallGraph
