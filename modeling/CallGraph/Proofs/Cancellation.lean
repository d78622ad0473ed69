import CallGraph.Cancellation
import Mathlib.Data.List.Induction
/-!
# Histories of tokens

What tokens answer, told from their history: which tokens were made, alone or as copies, of whom a cancellation was
requested, and what the clock showed. A `Register` keeps the families of a history and their deadlines, and knows of no
request and no question. `answers_of_history` says that a token is cancelled if that was requested of its family or the
deadline has come, that this stays so, and that no family has to do with another. A deadline beyond what a clock can show
is never reached; it is as good as none.
-/

namespace CallGraph.Tokens

/-- What can be done with tokens. A token is given by its number. -/
inductive Act
  | create (timeout : Option Nat)
  | copy (token : Nat)
  | cancel (token : Nat)
  | isCancelled (token : Nat)
  | deadlinePassed (token : Nat)
  deriving DecidableEq, Repr

/-- An act, and what the clock shows then. -/
structure Event where
  now : Nat
  act : Act
  deriving DecidableEq, Repr

/-- The answer to an event that is a question, and the tokens afterwards. -/
def perform (ts : Tokens) (e : Event) : Option Bool × Tokens :=
  match e.act with
  | .create timeout => (none, ts.create timeout e.now)
  | .copy token => (none, ts.copy token)
  | .cancel token => (none, ts.cancel token)
  | .isCancelled token => ts.isCancelled token e.now
  | .deadlinePassed token => (ts.deadlinePassed token e.now, ts)

/-- The tokens after a history. -/
def after (history : List Event) : Tokens := history.foldl (fun ts e => (ts.perform e).2) {}

/-- The answer to an event behind a history. -/
def answer (history : List Event) (e : Event) : Option Bool := ((after history).perform e).1

theorem after_concat (history : List Event) (e : Event) :
    after (history ++ [e]) = ((after history).perform e).2 := by
  simp [after]

/-! ## What a history says -/

/-- The deadline of each family that was made, and the family of each token. -/
structure Register where
  deadlines : List (Option Nat) := []
  families : List Nat := []

def Register.note (r : Register) (e : Event) : Register :=
  match e.act with
  | .create timeout => ⟨r.deadlines ++ [timeout.map (e.now + ·)], r.families ++ [r.deadlines.length]⟩
  | .copy token => { r with families := r.families ++ r.families[token]?.toList }
  | _ => r

def register (history : List Event) : Register := history.foldl Register.note {}

/-- The token belongs to that family. -/
def Register.Has (r : Register) (token family : Nat) : Prop := r.families[token]? = some family

/-- Whether an event makes a token. -/
def Event.makes (e : Event) : Bool :=
  match e.act with
  | .create _ | .copy _ => true
  | _ => false

/-- The token that is copied, cancelled or asked. -/
def Event.token? (e : Event) : Option Nat :=
  match e.act with
  | .create _ => none
  | .copy token | .cancel token | .isCancelled token | .deadlinePassed token => some token

/-- Of a token of the family a cancellation was requested. -/
def Requested (history : List Event) (family : Nat) : Prop :=
  ∃ before now token rest, history = before ++ ⟨now, .cancel token⟩ :: rest ∧ (register before).Has token family

/-- Nothing was done with the tokens of the family in `later`, a history behind `earlier`. -/
def Spared (family : Nat) (earlier later : List Event) : Prop :=
  ∀ before e rest token, later = before ++ e :: rest → e.token? = some token →
    ¬(register (earlier ++ before)).Has token family

/-- The clock does not go back. -/
def Chronological (history : List Event) : Prop := (history.map (·.now)).Pairwise (· ≤ ·)

theorem register_concat (history : List Event) (e : Event) : register (history ++ [e]) = (register history).note e := by
  simp [register]

/-- What was registered stays. -/
theorem register_grows (earlier later : List Event) :
    (register earlier).deadlines <+: (register (earlier ++ later)).deadlines ∧
      (register earlier).families <+: (register (earlier ++ later)).families := by
  induction later using List.reverseRecOn with
  | nil => simp
  | append_singleton later e ih =>
    obtain ⟨hdeadlines, hfamilies⟩ := ih
    rw [← List.append_assoc, register_concat]
    unfold Register.note
    split
    · exact ⟨hdeadlines.trans (List.prefix_append _ _), hfamilies.trans (List.prefix_append _ _)⟩
    · exact ⟨hdeadlines, hfamilies.trans (List.prefix_append _ _)⟩
    · exact ⟨hdeadlines, hfamilies⟩

theorem getElem?_of_grows {α : Type} {xs ys : List α} (h : xs <+: ys) {i : Nat} {x : α} (hx : xs[i]? = some x) :
    ys[i]? = some x := by
  obtain ⟨rest, rfl⟩ := h
  have hi : i < xs.length := (List.getElem?_eq_some_iff.1 hx).1
  rw [List.getElem?_append_left hi, hx]

/-- The register forgets requests and questions. -/
theorem register_filter_makes (history : List Event) : register (history.filter Event.makes) = register history := by
  induction history using List.reverseRecOn with
  | nil => rfl
  | append_singleton history e ih =>
    rw [List.filter_append, register_concat]
    cases hmakes : e.makes with
    | true => rw [List.filter_cons_of_pos hmakes, List.filter_nil, register_concat, ih]
    | false =>
      have hnote : (register history).note e = register history := by
        unfold Register.note
        cases hact : e.act <;> simp_all [Event.makes]
      rw [List.filter_cons_of_neg (by simp [hmakes]), List.filter_nil, List.append_nil, ih, hnote]

theorem requested_concat (history : List Event) (e : Event) (family : Nat) :
    Requested (history ++ [e]) family ↔
      Requested history family ∨ ∃ token, e.act = .cancel token ∧ (register history).Has token family := by
  constructor
  · rintro ⟨before, now, token, rest, heq, hhas⟩
    rcases List.eq_nil_or_concat rest with rfl | ⟨rest, last, rfl⟩
    · obtain ⟨rfl, hlast⟩ := List.append_inj' heq rfl
      obtain rfl : e = ⟨now, .cancel token⟩ := by simpa using hlast
      exact .inr ⟨token, rfl, hhas⟩
    · rw [List.concat_eq_append, ← List.cons_append, ← List.append_assoc] at heq
      obtain ⟨rfl, -⟩ := List.append_inj' heq rfl
      exact .inl ⟨before, now, token, rest, rfl, hhas⟩
  · rintro (⟨before, now, token, rest, rfl, hhas⟩ | ⟨token, hact, hhas⟩)
    · exact ⟨before, now, token, rest ++ [e], by simp, hhas⟩
    · refine ⟨history, e.now, token, [], ?_, hhas⟩
      rw [← hact]

/-! ## One event -/

/-- What an event makes of a family that has the token it is about. -/
def Event.touch (e : Event) (f : Family) : Family :=
  match e.act with
  | .cancel _ => f.cancel
  | .isCancelled _ => f.poll e.now
  | _ => f

theorem Event.touch_deadline (e : Event) (f : Family) : (e.touch f).deadline = f.deadline := by
  unfold touch
  split
  · rfl
  · unfold Family.poll
    split <;> rfl
  · rfl

theorem Event.touch_cancelled {e : Event} {f : Family} (h : f.cancelled = true) : (e.touch f).cancelled = true := by
  unfold touch
  split
  · rfl
  · unfold Family.poll
    split
    · rfl
    · exact h
  · exact h

/-- A family that an event cancels had it requested then, or is found to be over time. -/
theorem Event.touch_reason {e : Event} {f : Family} (hbefore : ¬f.cancelled = true)
    (h : (e.touch f).cancelled = true) :
    (∃ token, e.act = .cancel token) ∨ f.deadlinePassed e.now = true := by
  unfold touch at h
  split at h
  · next token hact => exact .inl ⟨token, hact⟩
  · right
    by_contra hnot
    simp [Family.poll, Family.isCancelled, hbefore, hnot] at h
  · exact absurd h hbefore

theorem families_update (ts : Tokens) (token : Nat) (change : Family → Family) (family : Nat) :
    (ts.update token change).families[family]? =
      if ts.tokens[token]? = some family then ts.families[family]?.map change else ts.families[family]? := by
  unfold update
  cases htoken : ts.tokens[token]? with
  | none => simp
  | some place =>
    simp only [Array.getElem?_modify, Option.some.injEq]

/-- The family of the token that an event is about. -/
def familyOf? (ts : Tokens) (e : Event) : Option Nat := e.token?.bind (ts.tokens[·]?)

/-- An event touches the family of its token and no other. -/
theorem families_perform {ts : Tokens} {family : Nat} {f : Family} (e : Event) (h : ts.families[family]? = some f) :
    (ts.perform e).2.families[family]? = some (if ts.familyOf? e = some family then e.touch f else f) := by
  have hsize : family < ts.families.size := (Array.getElem?_eq_some_iff.1 h).1
  unfold perform familyOf? Event.token? Event.touch
  cases hact : e.act with
  | create timeout =>
    have hne : family ≠ ts.families.size := Nat.ne_of_lt hsize
    simp [create, Array.getElem?_push, hne, h]
  | copy token =>
    simp only [copy]
    split <;> simp [h]
  | cancel token =>
    simp only [cancel, families_update, h, Option.bind_some, Option.map_some]
    split <;> rfl
  | isCancelled token =>
    simp only [isCancelled, families_update, h, Option.bind_some, Option.map_some]
    split <;> rfl
  | deadlinePassed token => simp [h]

/-- A family that is not there before is that of a token made alone. -/
theorem exists_create {ts : Tokens} {e : Event} {family : Nat} {f : Family} (hold : ts.families[family]? = none)
    (h : (ts.perform e).2.families[family]? = some f) :
    ∃ timeout, e.act = .create timeout ∧ f = .withTimeout timeout e.now := by
  unfold perform at h
  cases hact : e.act with
  | create timeout =>
    simp only [hact, create, Array.getElem?_push] at h
    split at h
    · exact ⟨timeout, rfl, by simpa using h.symm⟩
    · simp [hold] at h
  | copy token =>
    simp only [hact, copy] at h
    split at h <;> simp [hold] at h
  | cancel token => simp [hact, cancel, families_update, hold] at h
  | isCancelled token => simp [hact, isCancelled, families_update, hold] at h
  | deadlinePassed token => simp [hact, hold] at h

theorem deadlines_update {change : Family → Family} (h : ∀ f, (change f).deadline = f.deadline) (ts : Tokens)
    (token : Nat) :
    ((ts.update token change).families.toList.map (·.deadline) = ts.families.toList.map (·.deadline)) ∧
      (ts.update token change).tokens = ts.tokens := by
  unfold update
  split
  · refine ⟨?_, rfl⟩
    rw [Array.toList_modify]
    apply List.ext_getElem?
    intro i
    simp only [List.getElem?_map, List.getElem?_modify, Option.map_eq_map, Option.map_map]
    congr 1
    funext f
    simp only [Function.comp_apply]
    split
    · exact h f
    · rfl
  · exact ⟨rfl, rfl⟩

/-! ## A whole history -/

/-- The tokens are those of a history: they have the families and deadlines that it registers, and a family is cancelled
where that was requested, or else was found to be over time. -/
structure Recorded (history : List Event) (ts : Tokens) : Prop where
  tokens : ts.tokens.toList = (register history).families
  deadlines : ts.families.toList.map (·.deadline) = (register history).deadlines
  known : ∀ family ∈ (register history).families, family < (register history).deadlines.length
  requested : ∀ family f, ts.families[family]? = some f → Requested history family → f.cancelled = true
  cancelled : ∀ family f, ts.families[family]? = some f → f.cancelled = true →
    Requested history family ∨ ∃ e ∈ history, f.deadlinePassed e.now = true

variable {history : List Event} {ts : Tokens}

theorem Recorded.size (h : Recorded history ts) : ts.families.size = (register history).deadlines.length := by
  rw [← h.deadlines, List.length_map, Array.length_toList]

theorem Recorded.has_iff (h : Recorded history ts) (token family : Nat) :
    (register history).Has token family ↔ ts.tokens[token]? = some family := by
  rw [Register.Has, ← h.tokens, Array.getElem?_toList]

theorem Recorded.lt_of_requested (h : Recorded history ts) {family : Nat} (hr : Requested history family) :
    family < ts.families.size := by
  obtain ⟨before, now, token, rest, rfl, hhas⟩ := hr
  rw [h.size]
  exact h.known family (List.mem_of_getElem? (getElem?_of_grows (register_grows before _).2 hhas))

theorem Recorded.register_perform (h : Recorded history ts) (e : Event) :
    (ts.perform e).2.tokens.toList = ((register history).note e).families ∧
      (ts.perform e).2.families.toList.map (·.deadline) = ((register history).note e).deadlines := by
  have htokens := h.tokens
  have hdeadlines := h.deadlines
  have hpoll (f : Family) : (f.poll e.now).deadline = f.deadline := (Event.mk e.now (.isCancelled 0)).touch_deadline f
  unfold perform Register.note
  cases hact : e.act with
  | create timeout => simp [create, htokens, hdeadlines, h.size, Family.withTimeout]
  | copy token =>
    have hget : ts.tokens[token]? = (register history).families[token]? := by rw [← htokens, Array.getElem?_toList]
    simp only [copy, hget]
    cases (register history).families[token]? <;> simp [htokens, hdeadlines]
  | cancel token =>
    obtain ⟨hd, ht⟩ := deadlines_update (fun f => (rfl : f.cancel.deadline = f.deadline)) ts token
    exact ⟨ht ▸ htokens, hd.trans hdeadlines⟩
  | isCancelled token =>
    obtain ⟨hd, ht⟩ := deadlines_update hpoll ts token
    exact ⟨ht ▸ htokens, hd.trans hdeadlines⟩
  | deadlinePassed token => exact ⟨htokens, hdeadlines⟩

theorem Recorded.known_concat (h : Recorded history ts) (e : Event) {family : Nat}
    (hfamily : family ∈ (register (history ++ [e])).families) :
    family < (register (history ++ [e])).deadlines.length := by
  have hle := (register_grows history [e]).1.length_le
  rw [register_concat] at hfamily hle ⊢
  unfold Register.note at hfamily hle ⊢
  cases hact : e.act with
  | create timeout =>
    simp only [hact, List.mem_append, List.mem_singleton] at hfamily hle ⊢
    rcases hfamily with hfamily | rfl
    · exact Nat.lt_of_lt_of_le (h.known family hfamily) hle
    · simp
  | copy token =>
    simp only [hact, List.mem_append, Option.mem_toList] at hfamily ⊢
    rcases hfamily with hfamily | hfamily
    · exact h.known family hfamily
    · exact h.known family (List.mem_of_getElem? hfamily)
  | cancel token | isCancelled token | deadlinePassed token =>
    simp only [hact] at hfamily ⊢
    exact h.known family hfamily

theorem Recorded.requested_perform (h : Recorded history ts) (e : Event) {family : Nat} {f : Family}
    (hf : (ts.perform e).2.families[family]? = some f) (hr : Requested (history ++ [e]) family) :
    f.cancelled = true := by
  rw [requested_concat] at hr
  cases hold : ts.families[family]? with
  | none =>
    -- Nothing can have been requested of a family that is new.
    have hnew : ¬family < ts.families.size := by
      rw [Array.getElem?_eq_none_iff] at hold
      omega
    rcases hr with hr | ⟨token, hact, -⟩
    · exact absurd (h.lt_of_requested hr) hnew
    · obtain ⟨timeout, hcreate, -⟩ := exists_create hold hf
      simp [hact] at hcreate
  | some f₀ =>
    rw [families_perform e hold, Option.some.injEq] at hf
    subst hf
    rcases hr with hr | ⟨token, hact, hhas⟩
    · have hcancelled := h.requested family f₀ hold hr
      split
      · exact Event.touch_cancelled hcancelled
      · exact hcancelled
    · have hfamily : ts.familyOf? e = some family := by
        simpa [familyOf?, Event.token?, hact] using (h.has_iff token family).1 hhas
      rw [if_pos hfamily, Event.touch, hact]
      rfl

theorem Recorded.cancelled_perform (h : Recorded history ts) (e : Event) {family : Nat} {f : Family}
    (hf : (ts.perform e).2.families[family]? = some f) (hcancelled : f.cancelled = true) :
    Requested (history ++ [e]) family ∨ ∃ e' ∈ history ++ [e], f.deadlinePassed e'.now = true := by
  cases hold : ts.families[family]? with
  | none =>
    obtain ⟨timeout, -, rfl⟩ := exists_create hold hf
    simp [Family.withTimeout] at hcancelled
  | some f₀ =>
    rw [families_perform e hold, Option.some.injEq] at hf
    have hdeadline : f.deadline = f₀.deadline := by
      rw [← hf]
      split
      · exact e.touch_deadline f₀
      · rfl
    have hpassed (now : Nat) : f.deadlinePassed now = f₀.deadlinePassed now := by
      rw [Family.deadlinePassed, Family.deadlinePassed, hdeadline]
    simp only [requested_concat, hpassed]
    by_cases hbefore : f₀.cancelled = true
    · rcases h.cancelled family f₀ hold hbefore with hr | ⟨e', he', hpast⟩
      · exact .inl (.inl hr)
      · exact .inr ⟨e', List.mem_append_left _ he', hpast⟩
    · rw [← hf] at hcancelled
      split at hcancelled
      · next hfamily =>
        rcases e.touch_reason hbefore hcancelled with ⟨token, hact⟩ | hdue
        · refine .inl (.inr ⟨token, hact, (h.has_iff token family).2 ?_⟩)
          simpa [familyOf?, Event.token?, hact] using hfamily
        · exact .inr ⟨e, by simp, hdue⟩
      · exact absurd hcancelled hbefore

theorem Recorded.perform (h : Recorded history ts) (e : Event) : Recorded (history ++ [e]) (ts.perform e).2 where
  tokens := by
    rw [register_concat]
    exact (h.register_perform e).1
  deadlines := by
    rw [register_concat]
    exact (h.register_perform e).2
  known _ := h.known_concat e
  requested _ _ := h.requested_perform e
  cancelled _ _ := h.cancelled_perform e

theorem recorded_after (history : List Event) : Recorded history (after history) := by
  induction history using List.reverseRecOn with
  | nil =>
    refine ⟨rfl, rfl, by simp [register], ?_, ?_⟩
    · intro family f hf
      simp [after] at hf
    · intro family f hf
      simp [after] at hf
  | append_singleton history e ih =>
    rw [after_concat]
    exact ih.perform e

/-- Each token has a family, with the deadline that is registered. -/
theorem exists_family {token family : Nat} (h : (register history).Has token family) :
    ∃ f, (after history).families[family]? = some f ∧ (after history).family? token = some f ∧
      (register history).deadlines[family]? = some f.deadline := by
  have hrecorded := recorded_after history
  have hsize : family < (after history).families.size := by
    rw [hrecorded.size]
    exact hrecorded.known family (List.mem_of_getElem? h)
  have hget := Array.getElem?_eq_getElem hsize
  refine ⟨_, hget, ?_, ?_⟩
  · rw [Tokens.family?, (hrecorded.has_iff token family).1 h, Option.bind_some, hget]
  · rw [← hrecorded.deadlines, List.getElem?_map, Array.getElem?_toList, hget, Option.map_some]

/-- Where nothing is done with the tokens of a family, it stays as it is. -/
theorem families_spared {later : List Event} {family : Nat} {f : Family} (h : Spared family history later)
    (hf : (after history).families[family]? = some f) : (after (history ++ later)).families[family]? = some f := by
  induction later using List.reverseRecOn with
  | nil => rwa [List.append_nil]
  | append_singleton later e ih =>
    have hbefore : Spared family history later := by
      rintro before e' rest token rfl htoken
      exact h before e' (rest ++ [e]) token (by simp) htoken
    have hother : (after (history ++ later)).familyOf? e ≠ some family := by
      intro hfamily
      obtain ⟨token, htoken, hget⟩ := Option.bind_eq_some_iff.1 hfamily
      exact h later e [] token rfl htoken (((recorded_after _).has_iff token family).2 hget)
    rw [← List.append_assoc, after_concat, families_perform e (ih hbefore), if_neg hother]

/-- A family that is cancelled stays so. -/
theorem families_cancelled {family : Nat} {f : Family} (hcancelled : f.cancelled = true)
    (hf : (after history).families[family]? = some f) (later : List Event) :
    ∃ f', (after (history ++ later)).families[family]? = some f' ∧ f'.cancelled = true := by
  induction later using List.reverseRecOn with
  | nil => exact ⟨f, by rwa [List.append_nil], hcancelled⟩
  | append_singleton later e ih =>
    obtain ⟨f', hf', hcancelled'⟩ := ih
    rw [← List.append_assoc, after_concat, families_perform e hf']
    refine ⟨_, rfl, ?_⟩
    split
    · exact Event.touch_cancelled hcancelled'
    · exact hcancelled'

/-! ## Main theorem -/

theorem answer_isCancelled {token : Nat} {f : Family} (hf : (after history).family? token = some f) (now : Nat) :
    answer history ⟨now, .isCancelled token⟩ = some (f.isCancelled now) := by
  simp only [answer, perform, isCancelled, hf, Option.map_some]

theorem answer_deadlinePassed {token : Nat} {f : Family} (hf : (after history).family? token = some f) (now : Nat) :
    answer history ⟨now, .deadlinePassed token⟩ = some (f.deadlinePassed now) := by
  simp only [answer, perform, deadlinePassed, hf, Option.map_some]

/-- A token is cancelled if that was requested of its family, or else its deadline has come: what was found to be over
time before is over time now, for the clock does not go back. -/
theorem isCancelled_iff {now token family : Nat} (hclock : Chronological (history ++ [⟨now, .isCancelled token⟩]))
    {f : Family} (hf : (after history).families[family]? = some f) :
    f.isCancelled now = true ↔ Requested history family ∨ ∃ moment, f.deadline = some moment ∧ moment ≤ now := by
  have hrecorded := recorded_after history
  have hpassed (clock : Nat) : f.deadlinePassed clock = true ↔ ∃ moment, f.deadline = some moment ∧ moment ≤ clock := by
    simp [Family.deadlinePassed, Option.any_eq_true]
  have hpast : ∀ e ∈ history, e.now ≤ now := by
    intro e he
    rw [Chronological, List.map_append, List.pairwise_append] at hclock
    exact hclock.2.2 _ (List.mem_map_of_mem he) _ (by simp)
  rw [Family.isCancelled, Bool.or_eq_true, hpassed]
  constructor
  · rintro (hcancelled | hdue)
    · rcases hrecorded.cancelled family f hf hcancelled with hr | ⟨e, he, hdue⟩
      · exact .inl hr
      · obtain ⟨moment, hmoment, hle⟩ := (hpassed e.now).1 hdue
        exact .inr ⟨moment, hmoment, Nat.le_trans hle (hpast e he)⟩
    · exact .inr hdue
  · rintro (hr | hdue)
    · exact .inl (hrecorded.requested family f hf hr)
    · exact .inr hdue

/-- Once a token was found to be cancelled, so is every token of its family: the question itself has left the family
cancelled. -/
theorem answer_later {now token family : Nat} (hfamily : (register history).Has token family) {f : Family}
    (hf : (after history).families[family]? = some f) (hcancelled : f.isCancelled now = true) (later : List Event)
    (now' token' : Nat) (hfamily' : (register (history ++ ⟨now, .isCancelled token⟩ :: later)).Has token' family) :
    answer (history ++ ⟨now, .isCancelled token⟩ :: later) ⟨now', .isCancelled token'⟩ = some true := by
  have hasked : (after (history ++ [⟨now, .isCancelled token⟩])).families[family]? = some f.cancel := by
    have hof : (after history).familyOf? ⟨now, .isCancelled token⟩ = some family :=
      ((recorded_after history).has_iff token family).1 hfamily
    rw [after_concat, families_perform _ hf, if_pos hof, Event.touch, Family.poll, if_pos hcancelled]
  obtain ⟨f', hf', hcancelled'⟩ := families_cancelled rfl hasked later
  rw [List.append_assoc, List.singleton_append] at hf'
  obtain ⟨f'', hf'', htoken', -⟩ := exists_family hfamily'
  obtain rfl : f' = f'' := Option.some.inj (hf'.symm.trans hf'')
  rw [answer_isCancelled htoken', Family.isCancelled, hcancelled', Bool.true_or]

/-- Whether the deadline has passed is the same when only the tokens were made. -/
theorem answer_makes {token family : Nat} (hfamily : (register history).Has token family) (now : Nat) :
    answer (history.filter Event.makes) ⟨now, .deadlinePassed token⟩ = answer history ⟨now, .deadlinePassed token⟩ := by
  obtain ⟨f, -, htoken, hdeadline⟩ := exists_family hfamily
  have hmade : (register (history.filter Event.makes)).Has token family := by
    rwa [register_filter_makes]
  obtain ⟨f', -, htoken', hdeadline'⟩ := exists_family hmade
  rw [register_filter_makes, hdeadline, Option.some.injEq] at hdeadline'
  rw [answer_deadlinePassed htoken, answer_deadlinePassed htoken', Family.deadlinePassed, Family.deadlinePassed,
    hdeadline']

/-- Where nothing is done with the tokens of a family, its answers do not change. -/
theorem answer_spared {token family : Nat} (hfamily : (register history).Has token family) {later : List Event}
    (hspared : Spared family history later) (now : Nat) :
    answer (history ++ later) ⟨now, .isCancelled token⟩ = answer history ⟨now, .isCancelled token⟩ ∧
      answer (history ++ later) ⟨now, .deadlinePassed token⟩ = answer history ⟨now, .deadlinePassed token⟩ := by
  obtain ⟨f, hf, htoken, -⟩ := exists_family hfamily
  have hfamily' : (register (history ++ later)).Has token family :=
    getElem?_of_grows (register_grows history later).2 hfamily
  obtain ⟨f', hf', htoken', -⟩ := exists_family hfamily'
  obtain rfl : f = f' := Option.some.inj ((families_spared hspared hf).symm.trans hf')
  rw [answer_isCancelled htoken', answer_isCancelled htoken, answer_deadlinePassed htoken',
    answer_deadlinePassed htoken]
  exact ⟨rfl, rfl⟩

/-- In a history whose clock does not go back, a token is cancelled if that was requested of its family or the deadline of
the family has come. Once a token was found to be cancelled, every token of its family is, whenever it was made. Whether
the deadline has passed is a matter of the deadline and the clock, whatever was requested and asked. And where nothing is
done with the tokens of a family, its answers do not change. -/
theorem answers_of_history (history : List Event) (now token family : Nat)
    (hclock : Chronological (history ++ [⟨now, .isCancelled token⟩])) (hfamily : (register history).Has token family) :
    ∃ deadline cancelled, (register history).deadlines[family]? = some deadline ∧
      answer history ⟨now, .isCancelled token⟩ = some cancelled ∧
      (cancelled = true ↔ Requested history family ∨ ∃ moment, deadline = some moment ∧ moment ≤ now) ∧
      (cancelled = true → ∀ (later : List Event) (now' token' : Nat),
        (register (history ++ ⟨now, .isCancelled token⟩ :: later)).Has token' family →
          answer (history ++ ⟨now, .isCancelled token⟩ :: later) ⟨now', .isCancelled token'⟩ = some true) ∧
      (answer history ⟨now, .deadlinePassed token⟩ = some (deadline.any (· ≤ now)) ∧
        answer (history.filter Event.makes) ⟨now, .deadlinePassed token⟩ =
          answer history ⟨now, .deadlinePassed token⟩) ∧
      ∀ later : List Event, Spared family history later → ∀ now' : Nat,
        answer (history ++ later) ⟨now', .isCancelled token⟩ = answer history ⟨now', .isCancelled token⟩ ∧
          answer (history ++ later) ⟨now', .deadlinePassed token⟩ = answer history ⟨now', .deadlinePassed token⟩ := by
  obtain ⟨f, hf, htoken, hdeadline⟩ := exists_family hfamily
  refine ⟨f.deadline, f.isCancelled now, hdeadline, answer_isCancelled htoken now, isCancelled_iff hclock hf,
    answer_later hfamily hf, ⟨answer_deadlinePassed htoken now, answer_makes hfamily now⟩, ?_⟩
  intro later hspared now'
  exact answer_spared hfamily hspared now'

/-- Two families, the first with a deadline and two tokens, the second cancelled. -/
def twoFamilies : List Event :=
  [⟨0, .create (some 5)⟩, ⟨1, .create none⟩, ⟨2, .copy 0⟩, ⟨3, .cancel 1⟩]

/-- The copy is found to be cancelled when the time is up, and so is the first token ever after. -/
theorem answers_twoFamilies :
    Chronological (twoFamilies ++ [⟨7, .isCancelled 2⟩]) ∧ (register twoFamilies).Has 2 0 ∧
      answer twoFamilies ⟨7, .isCancelled 2⟩ = some true ∧
      ∀ now, answer (twoFamilies ++ [⟨7, .isCancelled 2⟩, ⟨8, .deadlinePassed 1⟩]) ⟨now, .isCancelled 0⟩ = some true := by
  have hclock : Chronological (twoFamilies ++ [⟨7, .isCancelled 2⟩]) := by simp [Chronological, twoFamilies]
  have hfamily : (register twoFamilies).Has 2 0 := rfl
  obtain ⟨deadline, cancelled, hdeadline, hanswer, hwhen, hstays, -⟩ := answers_of_history twoFamilies 7 2 0 hclock hfamily
  have hdeadline' : some 5 = deadline := Option.some.inj hdeadline
  have hcancelled : cancelled = true := hwhen.2 (.inr ⟨5, hdeadline'.symm, by decide⟩)
  exact ⟨hclock, hfamily, hcancelled ▸ hanswer, fun now => hstays hcancelled [⟨8, .deadlinePassed 1⟩] now 0 rfl⟩

end CallGraph.Tokens
