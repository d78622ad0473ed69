import CallGraph.Toml.Moment
import CallGraph.Toml.Number
import Mathlib.Data.Nat.Digits.Lemmas
/-!
# Integers

An integer is written in decimal digits with a minus in front of a negative one, and is read as it was:
`integer?_written`. What is written so is no moment and no float, which readers look for first.
-/

namespace CallGraph.Toml

/-- What stands behind a value: a line feed, a comma, a bracket, or nothing. -/
def Ends (rest : List Char) : Prop := ∀ c, rest.head? = some c → c = '\n' ∨ c = ',' ∨ c = ']'

/-- Another character does not stand behind a value. -/
theorem Ends.head {rest : List Char} (h : Ends rest) {c : Char} (hc : c ∉ ['\n', ',', ']']) : rest.head? ≠ some c := by
  intro hhead
  rcases h c hhead with rfl | rfl | rfl <;> simp at hc

theorem Ends.not_isDigit {rest : List Char} (h : Ends rest) {c : Char} (hc : rest.head? = some c) :
    c.isDigit = false := by
  rcases h c hc with rfl | rfl | rfl <;> rfl

namespace Number

/-! ## Digits -/

theorem isDigit_bounds (c : Char) : c.isDigit = true ↔ '0' ≤ c ∧ c ≤ '9' := by
  rw [Char.isDigit, Bool.and_eq_true, decide_eq_true_eq, decide_eq_true_eq]
  rfl

theorem digit?_of_isDigit {c : Char} (h : c.isDigit = true) : Text.digit? c = some (c.toNat - '0'.toNat) := by
  rw [Text.digit?, if_pos ((isDigit_bounds c).1 h)]

theorem digit?_of_not_isDigit {c : Char} (h : c.isDigit = false) : Text.digit? c = none := by
  rw [Text.digit?, if_neg]
  intro hbounds
  rw [(isDigit_bounds c).2 hbounds] at h
  nomatch h

theorem isDigit_eq (c : Char) : isDigit c = c.isDigit := by
  cases h : c.isDigit with
  | true => rw [isDigit, digit?_of_isDigit h, Option.isSome_some]
  | false => rw [isDigit, digit?_of_not_isDigit h, Option.isSome_none]

theorem toDigits_isDigit (n : Nat) : ∀ c ∈ Nat.toDigits 10 n, c.isDigit = true :=
  fun _ hc => Nat.isDigit_of_mem_toDigits (by decide) (by decide) hc

theorem decimal_toDigits (n : Nat) : decimal (Nat.toDigits 10 n) = n := by
  have hdigits {cs : List Char} (h : ∀ c ∈ cs, c.isDigit = true) (value : Nat) :
      (cs.filterMap Text.digit?).foldl (fun value d => value * 10 + d) value = Nat.ofDigitChars 10 cs value := by
    induction cs generalizing value with
    | nil => rfl
    | cons c cs ih =>
      rw [List.filterMap_cons, digit?_of_isDigit (h c List.mem_cons_self), List.foldl_cons,
        ih fun d hd => h d (List.mem_cons_of_mem _ hd), Nat.ofDigitChars_cons, Nat.mul_comm]
  rw [decimal, Text.ofDigits, hdigits (toDigits_isDigit n)]
  exact Nat.ofDigitChars_ten_toDigits

/-- A number other than zero does not begin with a zero. -/
theorem head?_toDigits {n : Nat} (h : n ≠ 0) : (Nat.toDigits 10 n).head? ≠ some '0' := by
  induction n using Nat.strongRecOn with
  | _ n ih =>
    by_cases hsmall : n < 10
    · have hall : ∀ k < 10, k ≠ 0 → Nat.digitChar k ≠ '0' := by decide
      rw [Nat.toDigits_of_lt_base hsmall]
      simpa using hall n hsmall h
    · rw [Nat.toDigits_of_base_le (by decide) (by omega), List.head?_append_of_ne_nil _ Nat.toDigits_ne_nil]
      exact ih (n / 10) (by omega) (by omega)

theorem moreDigits_digits {cs rest : List Char} (hcs : ∀ c ∈ cs, c.isDigit = true) (hrest : Ends rest) :
    moreDigits isDigit (cs ++ rest) = (cs, rest) := by
  induction cs with
  | nil =>
    cases rest with
    | nil => rfl
    | cons c rest =>
      have hdigit : isDigit c = false := (isDigit_eq c).trans (hrest.not_isDigit rfl)
      have hscore : c ≠ '_' := by
        rintro rfl
        exact hrest.head (by decide) rfl
      rw [List.nil_append, moreDigits]
      simp [hdigit, hscore]
  | cons c cs ih =>
    have hdigit : isDigit c = true := (isDigit_eq c).trans (hcs c List.mem_cons_self)
    rw [List.cons_append, moreDigits]
    simp [hdigit, ih fun d hd => hcs d (List.mem_cons_of_mem _ hd)]

theorem whole?_toDigits (n : Nat) {rest : List Char} (hrest : Ends rest) :
    whole? (Nat.toDigits 10 n ++ rest) = some (Nat.toDigits 10 n, rest) := by
  by_cases hn : n = 0
  · subst hn
    rfl
  · have hdigits := toDigits_isDigit n
    have hzero := head?_toDigits hn
    cases hcs : Nat.toDigits 10 n with
    | nil => exact absurd hcs Nat.toDigits_ne_nil
    | cons c cs =>
      rw [hcs] at hdigits hzero
      have hne : c ≠ '0' := by simpa using hzero
      have hfirst : isDigit c = true := (isDigit_eq c).trans (hdigits c List.mem_cons_self)
      have hmore := moreDigits_digits (fun d hd => hdigits d (List.mem_cons_of_mem _ hd)) hrest
      rw [List.cons_append, whole?]
      · rw [digits?, if_pos hfirst, hmore]
      · rintro rest' heq
        exact hne (List.cons.inj heq).1

/-! ## Integers -/

/-- The decimal digits of an integer, with a minus in front of a negative one. -/
def integerText (n : Int) : List Char :=
  if 0 ≤ n then Nat.toDigits 10 n.toNat else '-' :: Nat.toDigits 10 (-n).toNat

theorem toList_toString (n : Int) : (toString n).toList = integerText n := by
  rw [Int.toString_eq_repr, Int.repr_eq_if, integerText]
  split
  · rw [Nat.toList_repr]
  · rw [String.toList_append, Nat.toList_repr]
    rfl

theorem sign_of_digits {cs : List Char} (hcs : ∀ c ∈ cs, c.isDigit = true) (hne : cs ≠ []) (rest : List Char) :
    sign (cs ++ rest) = (false, cs ++ rest) := by
  cases cs with
  | nil => exact absurd rfl hne
  | cons c cs =>
    have hdigit := hcs c List.mem_cons_self
    rw [List.cons_append]
    unfold sign
    split
    · next heq =>
      rw [(List.cons.inj heq).1] at hdigit
      nomatch hdigit
    · next heq =>
      rw [(List.cons.inj heq).1] at hdigit
      nomatch hdigit
    · rfl

/-- The sign and the digits of an integer are found apart. -/
theorem sign_integerText (n : Int) (rest : List Char) :
    sign (integerText n ++ rest) = (decide (n < 0), Nat.toDigits 10 n.natAbs ++ rest) := by
  unfold integerText
  split
  · next hn =>
    have habs : n.toNat = n.natAbs := by omega
    rw [sign_of_digits (toDigits_isDigit _) Nat.toDigits_ne_nil, habs, decide_eq_false (by omega)]
  · next hn =>
    have habs : (-n).toNat = n.natAbs := by omega
    rw [habs, decide_eq_true (by omega)]
    rfl

/-- A zero in front is all there is. -/
theorem integerText_zero {n : Int} {c : Char} {rest after : List Char} (h : integerText n ++ rest = '0' :: c :: after) :
    rest.head? = some c := by
  unfold integerText at h
  split at h
  · by_cases hn : n.toNat = 0
    · rw [hn] at h
      have hrest : rest = c :: after := (List.cons.inj h).2
      rw [hrest]
      rfl
    · have hzero := head?_toDigits hn
      rw [← List.head?_append_of_ne_nil _ Nat.toDigits_ne_nil, h] at hzero
      exact absurd rfl hzero
  · nomatch (List.cons.inj h).1

theorem integer?_of_no_mark {s : List Char} (h : ∀ c rest, s = '0' :: c :: rest → c ∉ ['x', 'o', 'b']) :
    integer? s = match whole? (sign s).2 with
      | none => none
      | some (cs, rest) => (word? (if (sign s).1 then -(decimal cs : Int) else decimal cs)).map (·, rest) := by
  unfold integer?
  split
  · exact absurd (by simp) (h 'x' _ rfl)
  · exact absurd (by simp) (h 'o' _ rfl)
  · exact absurd (by simp) (h 'b' _ rfl)
  · rfl

/-- An integer is read as it was written, if it has 64 bits. -/
theorem integer?_written {n : Int} (hn : word? n = some n) {rest : List Char} (hrest : Ends rest) :
    integer? (integerText n ++ rest) = some (n, rest) := by
  have hvalue : (if decide (n < 0) = true then -((n.natAbs : Nat) : Int) else (n.natAbs : Nat)) = n := by
    by_cases hneg : n < 0
    · rw [if_pos (decide_eq_true hneg)]
      omega
    · rw [if_neg (by simpa using hneg)]
      omega
  rw [integer?_of_no_mark]
  · simp only [sign_integerText, whole?_toDigits _ hrest, decimal_toDigits, hvalue, hn, Option.map_some]
  · intro c after heq hc
    rcases hrest c (integerText_zero heq) with rfl | rfl | rfl <;> simp at hc

/-- An integer is no float. -/
theorem afterFloat?_written (n : Int) {rest : List Char} (hrest : Ends rest) :
    afterFloat? (integerText n ++ rest) = none := by
  have hfraction : fraction? rest = some (none, rest) := by
    unfold fraction?
    split
    · exact absurd rfl (hrest.head (by decide))
    · rfl
  have hexponent : exponent? rest = some (none, rest) := by
    cases rest with
    | nil => rfl
    | cons c rest =>
      have hmark : ¬(decide (c = 'e') || decide (c = 'E')) = true := by
        rcases hrest c rfl with rfl | rfl | rfl <;> decide
      rw [exponent?, if_neg hmark]
  simp only [afterFloat?, sign_integerText, whole?_toDigits _ hrest, hfraction, hexponent, Option.isNone_none,
    Bool.and_true, if_true]

end Number

/-! ## Moments -/

namespace Moment

theorem digits_of_mapM {cs : List Char} {digits : List Nat} (h : cs.mapM Text.digit? = some digits) :
    digits.length = cs.length ∧ ∀ c ∈ cs, c.isDigit = true := by
  induction cs generalizing digits with
  | nil =>
    cases h
    exact ⟨rfl, fun c hc => nomatch hc⟩
  | cons c cs ih =>
    rw [List.mapM_cons] at h
    obtain ⟨d, hd, h⟩ := Option.bind_eq_some_iff.1 h
    obtain ⟨ds, hds, h⟩ := Option.bind_eq_some_iff.1 h
    obtain rfl : d :: ds = digits := Option.some.inj h
    obtain ⟨hlength, hall⟩ := ih hds
    have hdigit : c.isDigit = true := by rw [← Number.isDigit_eq, Number.isDigit, hd, Option.isSome_some]
    refine ⟨congrArg (· + 1) hlength, fun e he => ?_⟩
    rcases List.mem_cons.1 he with rfl | he
    · exact hdigit
    · exact hall e he

theorem number?_eq_some {count n : Nat} {s after : List Char} (h : number? count s = some (n, after)) :
    (s.take count).length = count ∧ (∀ c ∈ s.take count, c.isDigit = true) ∧ after = s.drop count := by
  unfold number? at h
  split at h
  · next digits hdigits =>
    obtain ⟨hlength, hall⟩ := digits_of_mapM hdigits
    split at h
    · next hcount =>
      simp only [Option.some.injEq, Prod.mk.injEq] at h
      exact ⟨hlength.symm.trans hcount, hall, h.2.symm⟩
    · nomatch h
  · nomatch h

/-- A number of so many digits stops within the digits at the front. -/
theorem behind_number? {cs rest : List Char} (hrest : Ends rest) {count n : Nat} {after : List Char}
    (h : number? count (cs ++ rest) = some (n, after)) : after = cs.drop count ++ rest := by
  obtain ⟨hlength, hdigits, rfl⟩ := number?_eq_some h
  have hcount : count ≤ cs.length := by
    by_contra hlong
    cases rest with
    | nil =>
      rw [List.append_nil, List.length_take] at hlength
      omega
    | cons c rest =>
      obtain ⟨k, hk⟩ : ∃ k, count - cs.length = k + 1 := ⟨count - cs.length - 1, by omega⟩
      have hmem : c ∈ (cs ++ c :: rest).take count := by
        rw [List.take_append, hk, List.take_succ_cons]
        exact List.mem_append_right _ List.mem_cons_self
      have hdigit := hdigits c hmem
      rw [hrest.not_isDigit rfl] at hdigit
      nomatch hdigit
  rw [List.drop_append_of_le_length hcount]

/-- Behind digits at the front stands no mark of a moment. -/
theorem mark?_behind_number? {cs rest : List Char} (hcs : ∀ c ∈ cs, c.isDigit = true) (hrest : Ends rest)
    {count n : Nat} {after : List Char} (h : number? count (cs ++ rest) = some (n, after)) {c : Char}
    (hc : c.isDigit = false) (hend : c ∉ ['\n', ',', ']']) : mark? c after = none := by
  rw [behind_number? hrest h]
  have hhead : (cs.drop count ++ rest).head? ≠ some c := by
    cases hleft : cs.drop count with
    | nil => exact hrest.head hend
    | cons d ds =>
      have hd : d ∈ cs := List.mem_of_mem_drop (hleft ▸ List.mem_cons_self)
      intro heq
      obtain rfl : d = c := Option.some.inj heq
      rw [hcs d hd] at hc
      nomatch hc
  unfold mark?
  split
  · next d ds heq =>
    rw [heq] at hhead
    exact if_neg fun h => hhead (congrArg some h.symm)
  · rfl

theorem number?_minus (count : Nat) (s : List Char) : number? (count + 1) ('-' :: s) = none := by
  rw [number?, List.take_succ_cons, List.mapM_cons]
  rfl

theorem date?_eq_none {s : List Char} (h : ∀ n after, number? 4 s = some (n, after) → mark? '-' after = none) :
    date? s = none := by
  unfold date?
  cases hnumber : number? 4 s with
  | none => rfl
  | some found =>
    obtain ⟨n, after⟩ := found
    rw [Option.bind_eq_bind, Option.bind_some]
    dsimp only
    rw [h n after hnumber]
    rfl

theorem time?_eq_none {s : List Char} (h : ∀ n after, number? 2 s = some (n, after) → mark? ':' after = none) :
    time? s = none := by
  unfold time? part?
  cases hnumber : number? 2 s with
  | none => rfl
  | some found =>
    obtain ⟨n, after⟩ := found
    dsimp only
    split
    · rw [Option.bind_eq_bind, Option.bind_some]
      dsimp only
      rw [h n after hnumber]
      rfl
    · rfl

/-- An integer is no moment. -/
theorem after?_written (n : Int) {rest : List Char} (hrest : Ends rest) :
    after? (Number.integerText n ++ rest) = none := by
  have hnone {s : List Char} (hdate : date? s = none) (htime : time? s = none) : after? s = none := by
    rw [after?, hdate]
    exact htime
  unfold Number.integerText
  split
  · have hdigits := Number.toDigits_isDigit n.toNat
    apply hnone
    · exact date?_eq_none fun _ _ h => mark?_behind_number? hdigits hrest h rfl (by decide)
    · exact time?_eq_none fun _ _ h => mark?_behind_number? hdigits hrest h rfl (by decide)
  · rw [List.cons_append]
    apply hnone
    · exact date?_eq_none fun _ _ h => nomatch (number?_minus 3 _).symm.trans h
    · exact time?_eq_none fun _ _ h => nomatch (number?_minus 1 _).symm.trans h

end Moment

end CallGraph.Toml
