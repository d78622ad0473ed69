import CallGraph.Proofs.Integers
import CallGraph.Proofs.Quoting
import CallGraph.Toml.Reader
/-!
# Values that are written

Text, integers and words, and lists of them, are read as they were written: `value?_written`. Behind a value stands a
line end, a comma or a bracket, so that no reader goes on into what follows.
-/

namespace CallGraph.Toml

/-! ## Values -/

/-- Values without parts whose writing is quoted text, an integer or a word. -/
inductive Simple : Toml → Prop
  | string (s : String) : Simple (.string s)
  | integer (n : Int) : Simple (.integer n)
  | boolean (b : Bool) : Simple (.boolean b)

/-- Simple values and lists of them. -/
inductive Listed : Toml → Prop
  | simple {v : Toml} (h : Simple v) : Listed v
  | array {items : List Toml} (h : ∀ v ∈ items, Simple v) : Listed (.array items)

/-- The characters that may stand in front of a value or behind it. -/
def gaps : List Char := [' ', '\t', '\n', '\r', '#', '[', ']', '\x7b', ',']

theorem quote_head (s : List Char) : ∃ c cs, quote s = c :: cs ∧ (c = '"' ∨ c = '\'') := by
  unfold quote
  generalize Quoting.of s = q
  match q with
  | ⟨false, false⟩ => exact ⟨_, _, rfl, .inl rfl⟩
  | ⟨true, false⟩ => exact ⟨_, _, rfl, .inr rfl⟩
  | ⟨false, true⟩ => exact ⟨_, _, rfl, .inl rfl⟩
  | ⟨true, true⟩ => exact ⟨_, _, rfl, .inr rfl⟩

theorem integerText_head (n : Int) : ∃ c cs, Number.integerText n = c :: cs ∧ (c = '-' ∨ c.isDigit = true) := by
  unfold Number.integerText
  split
  · cases hdigits : Nat.toDigits 10 n.toNat with
    | nil => exact absurd hdigits Nat.toDigits_ne_nil
    | cons c cs =>
      have hdigit := Number.toDigits_isDigit n.toNat c (hdigits ▸ List.mem_cons_self)
      exact ⟨c, cs, rfl, .inr hdigit⟩
  · exact ⟨_, _, rfl, .inl rfl⟩

theorem notMem_of_integer {c : Char} (h : c = '-' ∨ c.isDigit = true) {others : List Char}
    (hothers : others.any (fun d => d = '-' || d.isDigit) = false) : c ∉ others := by
  intro hc
  rw [List.any_eq_false] at hothers
  apply hothers c hc
  rcases h with h | h
  · simp [h]
  · simp [h]

theorem plain?_integer {n : Int} {w : List Char} (h : plain? (.integer n) = some w) :
    Number.word? n = some n ∧ w = Number.integerText n := by
  obtain ⟨m, hm, rfl⟩ := Option.map_eq_some_iff.1 h
  have heq : n = m := by
    unfold Number.word? at hm
    split at hm
    · exact Option.some.inj hm
    · nomatch hm
  rw [Number.toList_toString]
  exact ⟨heq ▸ hm, heq ▸ rfl⟩

/-- A written value begins with a character of its own. -/
theorem plain?_head {v : Toml} (hv : Simple v) {w : List Char} (hw : plain? v = some w) :
    ∃ c cs, w = c :: cs ∧ c ∉ gaps := by
  cases hv with
  | string s =>
    obtain rfl : quote s.toList = w := Option.some.inj hw
    obtain ⟨c, cs, htext, hc⟩ := quote_head s.toList
    refine ⟨c, cs, htext, ?_⟩
    rcases hc with rfl | rfl
    · decide
    · decide
  | integer n =>
    obtain ⟨-, rfl⟩ := plain?_integer hw
    obtain ⟨c, cs, htext, hc⟩ := integerText_head n
    exact ⟨c, cs, htext, notMem_of_integer hc (by decide)⟩
  | boolean b =>
    obtain rfl : (toString b).toList = w := Option.some.inj hw
    cases b with
    | true => exact ⟨'t', _, rfl, by decide⟩
    | false => exact ⟨'f', _, rfl, by decide⟩

theorem number?_written {n : Int} (hn : Number.word? n = some n) {rest : List Char} (hrest : Ends rest) :
    number? (Number.integerText n ++ rest) = some (.integer n, rest) := by
  simp only [number?, Moment.after?_written n hrest, Number.afterFloat?_written n hrest,
    Number.integer?_written hn hrest, Option.map_some]

theorem text?_of_head {c : Char} (hquote : c ≠ '"') (hmark : c ≠ '\'') (cs : List Char) :
    Quoted.text? (c :: cs) = none := by
  rw [Quoted.text?_of_no_run]
  · unfold Quoted.quoted?
    split
    · next heq => exact absurd (List.cons.inj heq).1 hquote
    · next heq => exact absurd (List.cons.inj heq).1 hmark
    · rfl
  · rintro rest heq
    exact hquote (List.cons.inj heq).1
  · rintro rest heq
    exact hmark (List.cons.inj heq).1

theorem afterWord?_of_head {c d : Char} (h : c ≠ d) (word cs : List Char) :
    Number.afterWord? (d :: word) (c :: cs) = none := by
  rw [Number.afterWord?, if_neg]
  simp [h.symm]

/-- A simple value is read as it was written. -/
theorem scalar?_written {v : Toml} (hv : Simple v) {w : List Char} (hw : plain? v = some w) {rest : List Char}
    (hrest : Ends rest) : scalar? (w ++ rest) = some (v, rest) := by
  unfold scalar?
  cases hv with
  | string s =>
    obtain rfl : quote s.toList = w := Option.some.inj hw
    have htext := text?_quote s.toList (hrest.head (by decide)) (hrest.head (by decide))
    simp only [htext, String.ofList_toList]
  | integer n =>
    obtain ⟨hn, rfl⟩ := plain?_integer hw
    obtain ⟨c, cs, htext, hc⟩ := integerText_head n
    have hother : c ∉ ['"', '\'', 't', 'f'] := notMem_of_integer hc (by decide)
    simp only [List.mem_cons, not_or] at hother
    have hnumber := number?_written hn hrest
    rw [htext, List.cons_append] at hnumber ⊢
    rw [text?_of_head hother.1 hother.2.1, afterWord?_of_head hother.2.2.1, afterWord?_of_head hother.2.2.2.1]
    exact hnumber
  | boolean b =>
    obtain rfl : (toString b).toList = w := Option.some.inj hw
    cases b with
    | true => rfl
    | false => rfl

/-! ## Arrays -/

theorem value?_simple {v : Toml} (hv : Simple v) {w : List Char} (hw : plain? v = some w) {rest : List Char}
    (hrest : Ends rest) (fuel depth : Nat) : value? (fuel + 1) depth (w ++ rest) = some (v, rest) := by
  have hscalar := scalar?_written hv hw hrest
  obtain ⟨c, cs, rfl, hc⟩ := plain?_head hv hw
  rw [List.cons_append] at hscalar ⊢
  rw [value?]
  · exact hscalar
  · rintro rest' heq
    rw [(List.cons.inj heq).1] at hc
    exact hc (by decide)
  · rintro rest' heq
    rw [(List.cons.inj heq).1] at hc
    exact hc (by decide)

theorem skipLines_of_head {c : Char} (hc : c ∉ [' ', '\t', '\n', '\r', '#']) (cs : List Char) :
    skipLines false (c :: cs) = c :: cs := by
  simp only [List.mem_cons, List.not_mem_nil, or_false, not_or] at hc
  obtain ⟨hspace, htab, hline, hreturn, hhash⟩ := hc
  simp [skipLines, isBlank, hspace, htab, hline, hreturn, hhash]

theorem skipLines_indent {c : Char} (hc : c ∉ [' ', '\t', '\n', '\r', '#']) (cs : List Char) :
    skipLines false ('\n' :: ' ' :: ' ' :: ' ' :: ' ' :: c :: cs) = c :: cs := by
  have hskip := skipLines_of_head hc cs
  simpa [skipLines, isBlank] using hskip

theorem ends_of_head {c : Char} (h : c = '\n' ∨ c = ',' ∨ c = ']') (cs : List Char) : Ends (c :: cs) := by
  intro d hd
  rw [← Option.some.inj hd]
  exact h

section FirstItem

variable {s after : List Char} {c : Char} {cs : List Char} (hskip : skipLines false s = c :: cs) (hc : c ≠ ']')
  {fuel depth : Nat} {v : Toml} (hv : value? fuel depth (c :: cs) = some (v, after)) {rest : List Char}

include hskip hc hv

theorem elements?_item : elements? (fuel + 1) depth s =
    match skipLines false after with
    | ',' :: rest => (elements? fuel depth rest).map fun (vs, rest) => (v :: vs, rest)
    | ']' :: rest => some ([v], rest)
    | _ => none := by
  rw [elements?, hskip]
  split
  · next heq => exact absurd (List.cons.inj heq).1 hc
  · generalize value? fuel depth (c :: cs) = first at hv ⊢
    subst hv
    rfl

theorem elements?_comma (h : skipLines false after = ',' :: rest) :
    elements? (fuel + 1) depth s = (elements? fuel depth rest).map fun (vs, rest) => (v :: vs, rest) := by
  rw [elements?_item hskip hc hv, h]
  rfl

theorem elements?_last (h : skipLines false after = ']' :: rest) : elements? (fuel + 1) depth s = some ([v], rest) := by
  rw [elements?_item hskip hc hv, h]
  rfl

end FirstItem

theorem notMem_of_gaps {c : Char} (hc : c ∉ gaps) : c ∉ [' ', '\t', '\n', '\r', '#'] ∧ c ≠ ']' := by
  simp only [gaps, List.mem_cons, List.not_mem_nil, or_false, not_or] at hc ⊢
  tauto

/-- An item on a line of its own. -/
def itemLine (w : List Char) : List Char := [' ', ' ', ' ', ' '] ++ w ++ [',', '\n']

/-- Items on lines of their own are read up to the closing bracket. -/
theorem elements?_lines {items : List Toml} {ws : List (List Char)}
    (h : List.Forall₂ (fun v w => Simple v ∧ plain? v = some w) items ws) (depth : Nat) (rest : List Char) {fuel : Nat}
    (hfuel : items.length < fuel) :
    elements? fuel depth ('\n' :: (ws.flatMap itemLine ++ ']' :: rest)) = some (items, rest) := by
  induction h generalizing fuel with
  | nil =>
    obtain ⟨fuel, rfl⟩ : ∃ k, fuel = k + 1 := ⟨fuel - 1, by omega⟩
    rfl
  | @cons v w items ws hitem _ ih =>
    obtain ⟨fuel, rfl⟩ : ∃ k, fuel = k + 2 := ⟨fuel - 2, by simp only [List.length_cons] at hfuel; omega⟩
    have hroom : items.length < fuel + 1 := by simpa using hfuel
    have hmore := ih hroom
    obtain ⟨c, cs, hhead, hc⟩ := plain?_head hitem.1 hitem.2
    obtain ⟨hgap, hbracket⟩ := notMem_of_gaps hc
    -- The line of the first item: the indent, the item, and a comma in front of the next line.
    have hline : '\n' :: ((w :: ws).flatMap itemLine ++ ']' :: rest) =
        '\n' :: ' ' :: ' ' :: ' ' :: ' ' :: (w ++ ',' :: '\n' :: (ws.flatMap itemLine ++ ']' :: rest)) := by
      simp [itemLine]
    have hskip : skipLines false (',' :: '\n' :: (ws.flatMap itemLine ++ ']' :: rest)) =
        ',' :: '\n' :: (ws.flatMap itemLine ++ ']' :: rest) := skipLines_of_head (by decide) _
    have hend := ends_of_head (.inr (.inl rfl)) ('\n' :: (ws.flatMap itemLine ++ ']' :: rest))
    have hvalue := value?_simple hitem.1 hitem.2 hend fuel depth
    rw [hline]
    rw [hhead, List.cons_append] at hvalue ⊢
    rw [elements?_comma (skipLines_indent hgap _) hbracket hvalue hskip, hmore]
    rfl

theorem length_itemLines (ws : List (List Char)) : ws.length ≤ (ws.flatMap itemLine).length := by
  induction ws with
  | nil => exact Nat.le_refl _
  | cons w ws ih =>
    simp only [List.flatMap_cons, List.length_append, List.length_cons, itemLine]
    omega

/-- An array is read as it was written. -/
theorem value?_arranged {items : List Toml} {ws : List (List Char)}
    (h : List.Forall₂ (fun v w => Simple v ∧ plain? v = some w) items ws) (rest : List Char) {fuel : Nat}
    (hfuel : (arranged ws).length ≤ fuel) : value? (fuel + 1) 0 (arranged ws ++ rest) = some (.array items, rest) := by
  have harray (s : List Char) : value? (fuel + 1) 0 ('[' :: s) =
      (elements? fuel 1 s).map fun (items, rest) => (.array items, rest) := rfl
  cases h with
  | nil =>
    obtain ⟨fuel, rfl⟩ : ∃ k, fuel = k + 1 := ⟨fuel - 1, by simp only [arranged, List.length_cons] at hfuel; omega⟩
    exact (harray _).trans rfl
  | @cons v w items ws hitem hitems =>
    cases hitems with
    | nil =>
      obtain ⟨fuel, rfl⟩ : ∃ k, fuel = k + 2 :=
        ⟨fuel - 2, by simp only [arranged, List.length_append, List.length_cons] at hfuel; omega⟩
      have hvalue := value?_simple hitem.1 hitem.2 (ends_of_head (.inr (.inr rfl)) rest) fuel 1
      obtain ⟨c, cs, rfl, hc⟩ := plain?_head hitem.1 hitem.2
      obtain ⟨hgap, hbracket⟩ := notMem_of_gaps hc
      have htext : arranged [c :: cs] ++ rest = '[' :: (c :: cs ++ ']' :: rest) := by simp [arranged]
      rw [List.cons_append] at hvalue
      rw [htext, harray, List.cons_append, elements?_last (skipLines_of_head hgap _) hbracket hvalue
        (skipLines_of_head (by decide) rest)]
      rfl
    | @cons v' w' items ws hitem' hitems =>
      have hlength : (v :: v' :: items).length = (w :: w' :: ws).length := by simp [hitems.length_eq]
      have hlines := length_itemLines (w :: w' :: ws)
      have hwritten : arranged (w :: w' :: ws) = '[' :: '\n' :: (w :: w' :: ws).flatMap itemLine ++ [']'] := rfl
      have htext : arranged (w :: w' :: ws) ++ rest =
          '[' :: '\n' :: ((w :: w' :: ws).flatMap itemLine ++ ']' :: rest) := by
        rw [hwritten]
        simp only [List.cons_append, List.append_assoc, List.nil_append]
      have hroom : (v :: v' :: items).length < fuel := by
        rw [hwritten] at hfuel
        simp only [List.length_append, List.length_cons] at hfuel hlines hlength ⊢
        omega
      rw [htext, harray, elements?_lines (.cons hitem (.cons hitem' hitems)) 1 rest hroom]
      rfl

theorem forall₂_plain {items : List Toml} (hitems : ∀ v ∈ items, Simple v) {ws : List (List Char)}
    (h : items.mapM plain? = some ws) : List.Forall₂ (fun v w => Simple v ∧ plain? v = some w) items ws := by
  induction items generalizing ws with
  | nil =>
    cases h
    exact .nil
  | cons v items ih =>
    rw [List.mapM_cons] at h
    obtain ⟨w, hw, h⟩ := Option.bind_eq_some_iff.1 h
    obtain ⟨rest, hrest, h⟩ := Option.bind_eq_some_iff.1 h
    obtain rfl : w :: rest = ws := Option.some.inj h
    exact .cons ⟨hitems v List.mem_cons_self, hw⟩ (ih (fun v hv => hitems v (List.mem_cons_of_mem _ hv)) hrest)

theorem written?_simple {v : Toml} (hv : Simple v) : written? v = plain? v := by
  cases hv <;> rfl

/-- A value is read as it was written. -/
theorem value?_written {v : Toml} (hv : Listed v) {w : List Char} (hw : written? v = some w) {rest : List Char}
    (hrest : Ends rest) {fuel : Nat} (hfuel : w.length < fuel) : value? fuel 0 (w ++ rest) = some (v, rest) := by
  obtain ⟨fuel, rfl⟩ : ∃ k, fuel = k + 1 := ⟨fuel - 1, by omega⟩
  cases hv with
  | simple h =>
    rw [written?_simple h] at hw
    exact value?_simple h hw hrest fuel 0
  | array h =>
    obtain ⟨ws, hws, rfl⟩ := Option.map_eq_some_iff.1 hw
    exact value?_arranged (forall₂_plain h hws) rest (by omega)

theorem written?_head {v : Toml} (hv : Listed v) {w : List Char} (hw : written? v = some w) :
    ∃ c cs, w = c :: cs ∧ isBlank c = false := by
  cases hv with
  | simple h =>
    rw [written?_simple h] at hw
    obtain ⟨c, cs, htext, hc⟩ := plain?_head h hw
    refine ⟨c, cs, htext, ?_⟩
    simp only [gaps, List.mem_cons, not_or] at hc
    simp [isBlank, hc.1, hc.2.1]
  | array h =>
    obtain ⟨ws, -, rfl⟩ := Option.map_eq_some_iff.1 hw
    match ws with
    | [] => exact ⟨'[', _, rfl, rfl⟩
    | [w] => exact ⟨'[', _, rfl, rfl⟩
    | w :: w' :: ws => exact ⟨'[', _, rfl, rfl⟩

end CallGraph.Toml
