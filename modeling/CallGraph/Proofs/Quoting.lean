import CallGraph.Toml.Quoted
import CallGraph.Toml.Writer
import Mathlib.Data.List.Infix
/-!
# Quoted text

However text is quoted, it is read as it was: `text?_quote`. Escapes are the same between one quote and three; that
the text has them is what `Unescapes` says of a reader. Between three quotes, runs of quotes are what needs care: a run
of three ends the text, and up to two more behind it belong to the text.
-/

namespace CallGraph.Toml.Quoted

/-! ## Escapes -/

/-- A reader of text between quotes that takes escapes for what they stand for. -/
structure Unescapes (read : Escape → List Char → Option (List Char × List Char)) : Prop where
  content {c : Char} (rest : List Char) (h : isContent c = true) (hquote : c ≠ '"') (hslash : c ≠ '\\') :
    read .outside (c :: rest) = push c (read .outside rest)
  begin (rest : List Char) : read .outside ('\\' :: rest) = read .begun rest
  letter {c e : Char} (rest : List Char) (h : escaped? c = some e) :
    read .begun (c :: rest) = push e (read .outside rest)
  unicode (rest : List Char) : read .begun ('u' :: rest) = read (.code 3 0) rest
  digit {c : Char} {d : Nat} (more value : Nat) (rest : List Char) (h : Text.hexDigit? c = some d) :
    read (.code (more + 1) value) (c :: rest) = read (.code more (value * 16 + d)) rest
  lastDigit {c e : Char} {d value : Nat} (rest : List Char) (h : Text.hexDigit? c = some d)
    (he : Text.scalar? (value * 16 + d) = some e) : read (.code 0 value) (c :: rest) = push e (read .outside rest)

theorem escaped?_eq_some {c e : Char} (h : escaped? c = some e) : c ∈ ['b', 't', 'n', 'f', 'r', '"', '\\'] := by
  unfold escaped? at h
  split at h <;> simp_all

theorem unescapes_basic : Unescapes basic? where
  content rest h hquote hslash := by simp only [basic?, if_neg hquote, if_neg hslash, if_pos h]
  begin rest := by simp [basic?]
  letter rest h := by
    have hc := escaped?_eq_some h
    simp only [List.mem_cons, List.not_mem_nil, or_false] at hc
    rcases hc with rfl | rfl | rfl | rfl | rfl | rfl | rfl <;> simp [basic?, h]
  unicode rest := by simp [basic?]
  digit more value rest h := by simp [basic?, h]
  lastDigit rest h he := by simp [basic?, h, he]

theorem unescapes_multilineBasic : Unescapes multilineBasic? where
  content := by
    intro c rest h hquote hslash
    have hreturn : c ≠ '\r' := by
      rintro rfl
      exact absurd h (by decide)
    simp [multilineBasic?, hquote, hslash, hreturn, h]
  begin rest := by simp [multilineBasic?]
  letter rest h := by
    have hc := escaped?_eq_some h
    simp only [List.mem_cons, List.not_mem_nil, or_false] at hc
    rcases hc with rfl | rfl | rfl | rfl | rfl | rfl | rfl <;> simp [multilineBasic?, h]
  unicode rest := by simp [multilineBasic?]
  digit more value rest h := by simp [multilineBasic?, h]
  lastDigit rest h he := by simp [multilineBasic?, h, he]

theorem hexDigit?_hexUpper {n : Nat} (h : n < 16) : Text.hexDigit? (hexUpper n) = some n := by
  have hall : ∀ n < 16, Text.hexDigit? (hexUpper n) = some n := by decide
  exact hall n h

theorem scalar?_toNat (c : Char) : Text.scalar? c.toNat = some c := by
  have hvalid : c.toNat.isValidChar := c.valid
  rw [Text.scalar?, if_pos hvalid, Char.ofNat_toNat]

theorem toNat_of_isControl {c : Char} (h : isControl c = true) : c.toNat < 128 := by
  simp only [isControl, Bool.or_eq_true, Bool.and_eq_true, decide_eq_true_eq] at h
  rcases h with ⟨⟨hlow, -⟩, -⟩ | rfl
  · have hlow : c.toNat < ' '.toNat := hlow
    exact Nat.lt_trans hlow (by decide)
  · decide

/-- What may stand for itself is what is no control character, but for the line feed. -/
theorem isContent_of_not_isControl {c : Char} (h : isControl c = false) (hline : c ≠ '\n') : isContent c = true := by
  by_cases htab : c = '\t'
  · rw [htab]
    rfl
  · simp only [isControl, Bool.or_eq_false_iff, decide_eq_false_iff_not, ne_eq, htab, hline, not_false_eq_true,
      decide_true, Bool.and_true, Char.not_lt] at h
    simp [isContent, h.1, h.2]

theorem ne_of_not_isControl {c : Char} (h : isControl c = false) : c ≠ '\r' := by
  rintro rfl
  exact absurd h (by decide)

section Escaped

variable {read : Escape → List Char → Option (List Char × List Char)}

theorem Unescapes.code (hread : Unescapes read) {c : Char} (h : c.toNat < 128) (rest : List Char) :
    read .outside (['\\', 'u', '0', '0', hexUpper (c.toNat / 16), hexUpper (c.toNat % 16)] ++ rest) =
      push c (read .outside rest) := by
  have hzero : Text.hexDigit? '0' = some 0 := by decide
  have hhigh := hexDigit?_hexUpper (n := c.toNat / 16) (by omega)
  have hlow := hexDigit?_hexUpper (n := c.toNat % 16) (by omega)
  have hvalue : ((0 * 16 + 0) * 16 + 0) * 16 + c.toNat / 16 = c.toNat / 16 := by omega
  have hchar : Text.scalar? (c.toNat / 16 * 16 + c.toNat % 16) = some c := by
    rw [Nat.div_add_mod' c.toNat 16]
    exact scalar?_toNat c
  calc read .outside (['\\', 'u', '0', '0', hexUpper (c.toNat / 16), hexUpper (c.toNat % 16)] ++ rest)
      = read (.code 3 0) ('0' :: '0' :: hexUpper (c.toNat / 16) :: hexUpper (c.toNat % 16) :: rest) := by
        rw [← hread.unicode, ← hread.begin]
        rfl
    _ = read (.code 0 (c.toNat / 16)) (hexUpper (c.toNat % 16) :: rest) := by
        rw [hread.digit _ _ _ hzero, hread.digit _ _ _ hzero, hread.digit _ _ _ hhigh, hvalue]
    _ = push c (read .outside rest) := hread.lastDigit rest hlow hchar

theorem Unescapes.written (hread : Unescapes read) {multiline : Bool} {c : Char} (hquote : c ≠ '"')
    (hline : multiline = true → c ≠ '\n') (rest : List Char) :
    read .outside ((escape? multiline c).getD [c] ++ rest) = push c (read .outside rest) := by
  have hletter {c e : Char} (h : escaped? e = some c) : read .outside (['\\', e] ++ rest) = push c (read .outside rest) := by
    rw [← hread.letter rest h, ← hread.begin]
    rfl
  unfold escape?
  split
  · exact hletter rfl
  · exact hletter rfl
  · cases multiline with
    | false => exact hletter rfl
    | true => exact absurd rfl (hline rfl)
  · exact hletter rfl
  · exact hletter rfl
  · exact hletter rfl
  · next hb ht hn hf hr hslash =>
    split
    · next hcontrol => exact hread.code (toNat_of_isControl hcontrol) rest
    · next hcontrol => exact hread.content rest (isContent_of_not_isControl (by simpa using hcontrol) hn) hquote hslash

end Escaped

/-- Text between single quotes is read to its end, for all quotes in it are escaped. -/
theorem basic?_escaped (s rest : List Char) : basic? .outside (escaped false 0 0 s ++ '"' :: rest) = some (s, rest) := by
  have hread := unescapes_basic
  induction s with
  | nil => rfl
  | cons c s ih =>
    rw [escaped]
    split
    · next hquote =>
      subst hquote
      rw [List.cons_append, List.cons_append, hread.begin, hread.letter _ rfl, ih]
      rfl
    · next hquote =>
      rw [List.append_assoc, hread.written hquote (by simp), ih]
      rfl

theorem literal?_content {s : List Char} (h : ∀ c ∈ s, isContent c = true ∧ c ≠ '\'') (rest : List Char) :
    literal? (s ++ '\'' :: rest) = some (s, rest) := by
  induction s with
  | nil => rfl
  | cons c s ih =>
    obtain ⟨hcontent, hne⟩ := h c List.mem_cons_self
    rw [List.cons_append, literal?, if_neg hne, if_pos hcontent, ih fun d hd => h d (List.mem_cons_of_mem _ hd)]
    rfl

/-! ## Runs -/

/-- The number of `c`s at the front. -/
def lead (c : Char) (s : List Char) : Nat := (s.takeWhile (· = c)).length

theorem closing?_short {c : Char} {s : List Char} (h : lead c s < 3) : closing? c s = none := by
  rw [closing?]
  exact if_pos h

theorem lead_replicate (c : Char) (n : Nat) (s : List Char) : lead c (List.replicate n c ++ s) = n + lead c s := by
  have hall : ∀ d ∈ List.replicate n c, decide (d = c) = true := by
    intro d hd
    simpa using List.eq_of_mem_replicate hd
  rw [lead, List.takeWhile_append_of_pos hall, List.length_append, List.length_replicate, lead]

theorem lead_of_head {c : Char} {s : List Char} (h : s.head? ≠ some c) : lead c s = 0 := by
  cases s with
  | nil => rfl
  | cons d s =>
    have hne : d ≠ c := by simpa using h
    simp [lead, hne]

/-- Up to two `c`s in front of three closing ones belong to the text. -/
theorem closing?_replicate {c : Char} {k : Nat} (hk : k ≤ 2) {rest : List Char} (hrest : rest.head? ≠ some c) :
    closing? c (List.replicate k c ++ (List.replicate 3 c ++ rest)) = some (List.replicate k c, rest) := by
  have hrun : lead c (List.replicate k c ++ (List.replicate 3 c ++ rest)) = k + 3 := by
    rw [lead_replicate, lead_replicate, lead_of_head hrest]
  have hkept : min (k + 3 - 3) 2 = k := by omega
  have hleft : (List.replicate k c ++ (List.replicate 3 c ++ rest)).drop (3 + k) = rest := by
    rw [← List.append_assoc, List.drop_left' (by simp [Nat.add_comm])]
  unfold lead at hrun
  simp only [closing?, hrun, hkept, hleft]
  exact if_neg (by omega)

theorem escaped_cons {c : Char} (h : c ≠ '"') (multiline : Bool) (limit free : Nat) (s : List Char) :
    escaped multiline limit free (c :: s) = (escape? multiline c).getD [c] ++ escaped multiline limit limit s := by
  cases free <;> rw [escaped, if_neg h]

/-- What is written for a character begins with a backslash or is that character. -/
theorem escape?_cases (multiline : Bool) (c : Char) :
    (∃ cs, (escape? multiline c).getD [c] = '\\' :: cs) ∨ ((escape? multiline c).getD [c] = [c] ∧ c ≠ '\r') := by
  unfold escape?
  split
  · exact .inl ⟨_, rfl⟩
  · exact .inl ⟨_, rfl⟩
  · cases multiline with
    | false => exact .inl ⟨_, rfl⟩
    | true => exact .inr ⟨rfl, by decide⟩
  · exact .inl ⟨_, rfl⟩
  · exact .inl ⟨_, rfl⟩
  · exact .inl ⟨_, rfl⟩
  · next hreturn _ =>
    split
    · exact .inl ⟨_, rfl⟩
    · exact .inr ⟨rfl, hreturn⟩

/-- Quotes that stand for themselves: so many at the end of the text, or fewer than would end it. -/
theorem escaped_lead (limit free : Nat) (s rest : List Char) :
    (∃ k ≤ free, s = List.replicate k '"' ∧ escaped true limit free s = List.replicate k '"') ∨
      lead '"' (escaped true limit free s ++ rest) ≤ free := by
  induction s generalizing free with
  | nil => exact .inl ⟨0, Nat.zero_le _, rfl, rfl⟩
  | cons c s ih =>
    by_cases hquote : c = '"'
    · subst hquote
      cases free with
      | zero =>
        right
        simp [escaped, lead]
      | succ free =>
        rw [escaped, if_pos rfl]
        rcases ih free with ⟨k, hk, hs, htext⟩ | hlead
        · left
          exact ⟨k + 1, Nat.succ_le_succ hk, by rw [hs, List.replicate_succ], by rw [htext, List.replicate_succ]⟩
        · right
          have hcons := lead_replicate '"' 1 (escaped true limit free s ++ rest)
          rw [List.replicate_one, List.singleton_append] at hcons
          rw [List.cons_append, hcons]
          omega
    · right
      have hlead : lead '"' (escaped true limit free (c :: s) ++ rest) = 0 := by
        rw [escaped_cons hquote]
        rcases escape?_cases true c with ⟨cs, htext⟩ | ⟨htext, -⟩
        · rw [htext]
          exact lead_of_head (by simp)
        · rw [htext]
          exact lead_of_head (by simpa using hquote)
      omega

theorem multilineBasic?_quote (s : List Char) : multilineBasic? .outside ('"' :: s) =
    match closing? '"' ('"' :: s) with
    | some closed => some closed
    | none => push '"' (multilineBasic? .outside s) := rfl

theorem multilineBasic?_line (s : List Char) :
    multilineBasic? .outside ('\n' :: s) = push '\n' (multilineBasic? .outside s) := rfl

/-- Text between three quotes is read to its end. -/
theorem multilineBasic?_escaped {limit free : Nat} (hlimit : limit ≤ 2) (hfree : free ≤ limit) (s : List Char)
    {rest : List Char} (hrest : rest.head? ≠ some '"') :
    multilineBasic? .outside (escaped true limit free s ++ (List.replicate 3 '"' ++ rest)) = some (s, rest) := by
  have hread := unescapes_multilineBasic
  induction s generalizing free with
  | nil =>
    have hclosing := closing?_replicate (k := 0) (Nat.zero_le 2) hrest
    rw [List.replicate_zero, List.nil_append, List.replicate_succ, List.cons_append] at hclosing
    rw [escaped, List.nil_append, List.replicate_succ, List.cons_append, multilineBasic?_quote, hclosing]
  | cons c s ih =>
    by_cases hquote : c = '"'
    · subst hquote
      cases free with
      | zero =>
        rw [escaped, if_pos rfl, List.cons_append, List.cons_append, hread.begin, hread.letter _ rfl,
          ih (Nat.le_refl limit)]
        rfl
      | succ free =>
        rw [escaped, if_pos rfl, List.cons_append, multilineBasic?_quote]
        rcases escaped_lead limit free s (List.replicate 3 '"' ++ rest) with ⟨k, hk, hs, htext⟩ | hlead
        · -- The text ends with quotes: they and the closing ones are one run.
          have hclosing := closing?_replicate (k := k + 1) (by omega) hrest
          rw [List.replicate_succ, List.cons_append] at hclosing
          rw [htext, hclosing, hs]
        · have hcons := lead_replicate '"' 1 (escaped true limit free s ++ (List.replicate 3 '"' ++ rest))
          rw [List.replicate_one, List.singleton_append] at hcons
          rw [closing?_short (by omega), ih (by omega)]
          rfl
    · rw [escaped_cons hquote, List.append_assoc]
      by_cases hline : c = '\n'
      · subst hline
        rw [show (escape? true '\n').getD ['\n'] = ['\n'] from rfl, List.singleton_append, multilineBasic?_line,
          ih (Nat.le_refl limit)]
        rfl
      · rw [hread.written hquote (fun _ => hline), ih (Nat.le_refl limit)]
        rfl

/-! ## Runs of apostrophes -/

/-- The state in which the search for the longest run is behind a character. -/
def runStep (c : Char) (state : Nat × Nat) (d : Char) : Nat × Nat :=
  if d = c then (state.1 + 1, max state.2 (state.1 + 1)) else (0, state.2)

theorem longestRun_eq (c : Char) (s : List Char) : longestRun c s = (s.foldl (runStep c) (0, 0)).2 := rfl

/-- The longest run is as long as any that was met, as the one under way with what goes on with it, and as any to come. -/
theorem longest_bounds (c : Char) (s : List Char) {state : Nat × Nat} (h : state.1 ≤ state.2) :
    state.2 ≤ (s.foldl (runStep c) state).2 ∧ state.1 + lead c s ≤ (s.foldl (runStep c) state).2 ∧
      ∀ t, t <:+ s → lead c t ≤ (s.foldl (runStep c) state).2 := by
  induction s generalizing state with
  | nil =>
    refine ⟨Nat.le_refl _, h, fun t ht => ?_⟩
    rw [List.suffix_nil.1 ht]
    exact Nat.zero_le _
  | cons d s ih =>
    have hstep : (runStep c state d).1 ≤ (runStep c state d).2 ∧ state.2 ≤ (runStep c state d).2 ∧
        state.1 + lead c (d :: s) ≤ max state.2 ((runStep c state d).1 + lead c s) := by
      unfold runStep
      by_cases hd : d = c
      · have hlead : lead c (d :: s) = lead c s + 1 := by simp [lead, hd]
        rw [if_pos hd, hlead]
        exact ⟨Nat.le_max_right _ _, Nat.le_max_left _ _, by dsimp only; omega⟩
      · have hlead : lead c (d :: s) = 0 := lead_of_head (by simpa using hd)
        rw [if_neg hd, hlead]
        exact ⟨Nat.zero_le _, Nat.le_refl _, by dsimp only; omega⟩
    obtain ⟨hstate, hmet, hunder⟩ := hstep
    obtain ⟨hlongest, hgoing, hcoming⟩ := ih hstate
    rw [List.foldl_cons]
    have hfirst : state.1 + lead c (d :: s) ≤ (s.foldl (runStep c) (runStep c state d)).2 := by omega
    refine ⟨Nat.le_trans hmet hlongest, hfirst, fun t ht => ?_⟩
    rcases List.suffix_cons_iff.1 ht with rfl | ht
    · omega
    · exact hcoming t ht

theorem lead_le_longestRun {c : Char} {s t : List Char} (h : t <:+ s) : lead c t ≤ longestRun c s := by
  rw [longestRun_eq]
  exact (longest_bounds c s (Nat.le_refl 0)).2.2 t h

theorem notMem_of_longestRun {c : Char} {s : List Char} (h : longestRun c s = 0) : c ∉ s := by
  intro hmem
  obtain ⟨before, after, rfl⟩ := List.append_of_mem hmem
  have hlead := lead_le_longestRun (c := c) (List.suffix_append before (c :: after))
  have hone : lead c (c :: after) = lead c after + 1 := by simp [lead]
  omega

theorem lead_append (c : Char) (s t : List Char) : s = List.replicate (lead c s) c ∨ lead c (s ++ t) = lead c s := by
  induction s with
  | nil => exact .inl rfl
  | cons d s ih =>
    by_cases hd : d = c
    · subst hd
      have hlead (u : List Char) : lead d (d :: u) = lead d u + 1 := by simp [lead]
      rw [List.cons_append, hlead, hlead]
      rcases ih with hs | hs
      · left
        rw [List.replicate_succ, ← hs]
      · right
        rw [hs]
    · right
      rw [lead_of_head (by simpa using hd), lead_of_head (by simpa using hd)]

theorem multilineLiteral?_mark (s : List Char) : multilineLiteral? ('\'' :: s) =
    match closing? '\'' ('\'' :: s) with
    | some closed => some closed
    | none => push '\'' (multilineLiteral? s) := rfl

/-- Text between three apostrophes is read to its end if it has no run of three. -/
theorem multilineLiteral?_content {s : List Char} (hcontent : ∀ c ∈ s, isControl c = false)
    (hruns : ∀ t, t <:+ s → lead '\'' t ≤ 2) {rest : List Char} (hrest : rest.head? ≠ some '\'') :
    multilineLiteral? (s ++ (List.replicate 3 '\'' ++ rest)) = some (s, rest) := by
  induction s with
  | nil =>
    have hclosing := closing?_replicate (k := 0) (Nat.zero_le 2) hrest
    rw [List.replicate_zero, List.nil_append, List.replicate_succ, List.cons_append] at hclosing
    rw [List.nil_append, List.replicate_succ, List.cons_append, multilineLiteral?_mark, hclosing]
  | cons c s ih =>
    have hrest := ih (fun d hd => hcontent d (List.mem_cons_of_mem _ hd))
      fun t ht => hruns t (ht.trans (List.suffix_cons c s))
    have hrun := hruns (c :: s) (List.suffix_refl _)
    by_cases hmark : c = '\''
    · subst hmark
      rw [List.cons_append, multilineLiteral?_mark, ← List.cons_append]
      rcases lead_append '\'' ('\'' :: s) (List.replicate 3 '\'' ++ rest) with hs | hs
      · have hclosing := closing?_replicate hrun ‹rest.head? ≠ some '\''›
        rw [hs, hclosing]
      · rw [closing?_short (by omega), hrest]
        rfl
    · have hcontrol := hcontent c List.mem_cons_self
      have hplain : (decide (c = '\n') || isContent c) = true := by
        by_cases hline : c = '\n'
        · simp [hline]
        · simp [isContent_of_not_isControl hcontrol hline]
      rw [List.cons_append, multilineLiteral?, if_neg hmark, if_neg (ne_of_not_isControl hcontrol), if_pos hplain, hrest]
      rfl

/-! ## All kinds of quotes -/

theorem dropLineEnd_of_head {s : List Char} (hline : s.head? ≠ some '\n') (hreturn : s.head? ≠ some '\r') :
    dropLineEnd s = s := by
  unfold dropLineEnd
  split
  · exact absurd rfl hline
  · exact absurd rfl hreturn
  · rfl

theorem text?_of_no_run {s : List Char} (hquote : ∀ rest, s ≠ '"' :: '"' :: '"' :: rest)
    (hmark : ∀ rest, s ≠ '\'' :: '\'' :: '\'' :: rest) : text? s = quoted? s := by
  unfold text?
  split
  · exact absurd rfl (hquote _)
  · exact absurd rfl (hmark _)
  · rfl

theorem text?_basic (s : List Char) {rest : List Char} (hrest : rest.head? ≠ some '"') :
    text? ('"' :: (escaped false 0 0 s ++ '"' :: rest)) = some (s, rest) := by
  rw [text?_of_no_run]
  · exact basic?_escaped s rest
  · rintro rest' heq
    have heq : escaped false 0 0 s ++ '"' :: rest = '"' :: '"' :: rest' := (List.cons.inj heq).2
    cases s with
    | nil =>
      rw [(List.cons.inj heq).2] at hrest
      exact hrest rfl
    | cons c s =>
      by_cases hquote : c = '"'
      · rw [hquote, escaped, if_pos rfl] at heq
        nomatch (List.cons.inj heq).1
      · rw [escaped_cons hquote, List.append_assoc] at heq
        rcases escape?_cases false c with ⟨cs, htext⟩ | ⟨htext, -⟩
        · rw [htext] at heq
          nomatch (List.cons.inj heq).1
        · rw [htext] at heq
          exact hquote (List.cons.inj heq).1
  · rintro rest' heq
    nomatch (List.cons.inj heq).1

theorem text?_literal {s : List Char} (h : ∀ c ∈ s, isContent c = true ∧ c ≠ '\'') {rest : List Char}
    (hrest : rest.head? ≠ some '\'') : text? ('\'' :: (s ++ '\'' :: rest)) = some (s, rest) := by
  rw [text?_of_no_run]
  · exact literal?_content h rest
  · rintro rest' heq
    nomatch (List.cons.inj heq).1
  · rintro rest' heq
    have heq : s ++ '\'' :: rest = '\'' :: '\'' :: rest' := (List.cons.inj heq).2
    cases s with
    | nil =>
      rw [(List.cons.inj heq).2] at hrest
      exact hrest rfl
    | cons c s => exact (h c List.mem_cons_self).2 (List.cons.inj heq).1

/-- The line feed that text with lines begins with. -/
def lineStart (s : List Char) : List Char := if s.contains '\n' then ['\n'] else []

theorem dropLineEnd_lineStart {s text : List Char} (h : s.contains '\n' = false → text.head? ≠ some '\n')
    (hreturn : text.head? ≠ some '\r') : dropLineEnd (lineStart s ++ text) = text := by
  unfold lineStart
  split
  · rfl
  · next hline => exact dropLineEnd_of_head (h (by simpa using hline)) hreturn

theorem text?_multilineBasic (s : List Char) {rest : List Char} (hrest : rest.head? ≠ some '"') :
    text? (List.replicate 3 '"' ++ (lineStart s ++ (escaped true 2 2 s ++ (List.replicate 3 '"' ++ rest)))) =
      some (s, rest) := by
  have hhead : ∀ c, (escaped true 2 2 s ++ (List.replicate 3 '"' ++ rest)).head? = some c →
      c = '"' ∨ c = '\\' ∨ (c ∈ s ∧ c ≠ '\r') := by
    intro c hc
    cases s with
    | nil => exact .inl (Option.some.inj hc).symm
    | cons d s =>
      by_cases hquote : d = '"'
      · rw [hquote, escaped, if_pos rfl] at hc
        exact .inl (Option.some.inj hc).symm
      · rw [escaped_cons hquote, List.append_assoc] at hc
        rcases escape?_cases true d with ⟨cs, htext⟩ | ⟨htext, hreturn⟩
        · rw [htext] at hc
          exact .inr (.inl (Option.some.inj hc).symm)
        · rw [htext] at hc
          obtain rfl : d = c := Option.some.inj hc
          exact .inr (.inr ⟨List.mem_cons_self, hreturn⟩)
  show multilineBasic? .outside (dropLineEnd (lineStart s ++ _)) = _
  rw [dropLineEnd_lineStart]
  · exact multilineBasic?_escaped (Nat.le_refl 2) (Nat.le_refl 2) s hrest
  · intro hline hc
    rcases hhead _ hc with h | h | ⟨h, -⟩
    · nomatch h
    · nomatch h
    · simp [h] at hline
  · intro hc
    rcases hhead _ hc with h | h | ⟨-, h⟩
    · nomatch h
    · nomatch h
    · exact h rfl

theorem text?_multilineLiteral {s : List Char} (hcontent : ∀ c ∈ s, isControl c = false)
    (hruns : ∀ t, t <:+ s → lead '\'' t ≤ 2) {rest : List Char} (hrest : rest.head? ≠ some '\'') :
    text? (List.replicate 3 '\'' ++ (lineStart s ++ (s ++ (List.replicate 3 '\'' ++ rest)))) = some (s, rest) := by
  have hhead : ∀ c, (s ++ (List.replicate 3 '\'' ++ rest)).head? = some c → c = '\'' ∨ c ∈ s := by
    intro c hc
    cases s with
    | nil => exact .inl (Option.some.inj hc).symm
    | cons d s =>
      obtain rfl : d = c := Option.some.inj hc
      exact .inr List.mem_cons_self
  show multilineLiteral? (dropLineEnd (lineStart s ++ _)) = _
  rw [dropLineEnd_lineStart]
  · exact multilineLiteral?_content hcontent hruns hrest
  · intro hline hc
    rcases hhead _ hc with h | h
    · nomatch h
    · simp [h] at hline
  · intro hc
    rcases hhead _ hc with h | h
    · nomatch h
    · exact ne_of_not_isControl (hcontent _ h) rfl

end CallGraph.Toml.Quoted

namespace CallGraph.Toml

open Quoted

/-- Text stands between apostrophes only where nothing in it needs an escape or ends it. -/
structure Quoting.Fits (q : Quoting) (s : List Char) : Prop where
  content : q.literal = true → ∀ c ∈ s, isControl c = false
  line : q.literal = true → q.multiline = false → '\n' ∉ s ∧ '\'' ∉ s
  runs : q.literal = true → q.multiline = true → longestRun '\'' s ≤ 2

theorem Quoting.fits_of (s : List Char) : (Quoting.of s).Fits s := by
  have hfits {q : Quoting} (h : q.literal = false) : q.Fits s := by
    constructor
    all_goals
      intro hliteral
      rw [h] at hliteral
      nomatch hliteral
  have hplain (h : s.any isControl = false) : ∀ c ∈ s, isControl c = false := by
    simpa using h
  unfold Quoting.of
  dsimp only
  split
  · exact hfits rfl
  split
  · next h =>
    simp only [Bool.and_eq_true, Bool.not_eq_true', decide_eq_true_eq] at h
    obtain ⟨⟨hcontrol, hmarks⟩, hlines⟩ := h
    exact ⟨fun _ => hplain hcontrol, fun _ _ => ⟨by simpa using hlines, notMem_of_longestRun hmarks⟩, fun _ h => nomatch h⟩
  split
  · exact hfits rfl
  split
  · next h =>
    simp only [Bool.and_eq_true, Bool.not_eq_true', decide_eq_true_eq] at h
    exact ⟨fun _ => hplain h.1, fun _ h => (nomatch h), fun _ _ => h.2⟩
  · exact hfits rfl

/-- Quoted text is read as it was, where no quote follows it. -/
theorem text?_quote (s : List Char) {rest : List Char} (hquote : rest.head? ≠ some '"')
    (hmark : rest.head? ≠ some '\'') : text? (quote s ++ rest) = some (s, rest) := by
  have hfits := Quoting.fits_of s
  unfold quote
  generalize Quoting.of s = q at hfits
  match q, hfits with
  | ⟨false, false⟩, _ => simpa [Quoting.mark] using text?_basic s hquote
  | ⟨true, false⟩, hfits =>
    obtain ⟨hlines, hmarks⟩ := hfits.line rfl rfl
    have hcontent : ∀ c ∈ s, isContent c = true ∧ c ≠ '\'' := by
      intro c hc
      have hline : c ≠ '\n' := fun h => hlines (h ▸ hc)
      exact ⟨isContent_of_not_isControl (hfits.content rfl c hc) hline, fun h => hmarks (h ▸ hc)⟩
    simpa [Quoting.mark] using text?_literal hcontent hmark
  | ⟨false, true⟩, _ =>
    have htext := text?_multilineBasic s hquote
    simpa only [Quoting.mark, lineStart, List.append_assoc, if_true, Bool.true_and, Bool.false_eq_true, if_false] using htext
  | ⟨true, true⟩, hfits =>
    have hruns : ∀ t, t <:+ s → lead '\'' t ≤ 2 := fun t ht => Nat.le_trans (lead_le_longestRun ht) (hfits.runs rfl rfl)
    have htext := text?_multilineLiteral (hfits.content rfl) hruns hmark
    simpa only [Quoting.mark, lineStart, List.append_assoc, if_true, Bool.true_and, Bool.false_eq_true, if_false] using htext

end CallGraph.Toml
