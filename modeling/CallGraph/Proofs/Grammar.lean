import CallGraph.Proofs.Text
import Mathlib.Data.List.Basic
/-!
# The grammar of JSON

Which texts are JSON, and what they say, without a reader: `Document`. The reader takes each document as what it says,
`Document.ofBytes?`, so that no text says two things, `Document.unique`.
-/

namespace CallGraph.Json

/-! ## Strings -/

/-- Which character stands behind a backslash, and for which one. -/
def escapes : List (Char × Char) :=
  [('"', '"'), ('\\', '\\'), ('/', '/'), ('b', '\x08'), ('f', '\x0c'), ('n', '\n'), ('r', '\r'), ('t', '\t')]

/-- The character is the hexadecimal digit of that value, in either case. -/
def HexDigit (c : Char) (n : Nat) : Prop := "0123456789abcdef".toList[n]? = some c ∨ "0123456789ABCDEF".toList[n]? = some c

/-- What may stand between the quotes of a string, item by item. -/
inductive Content : List Char → List StringItem → Prop
  | nil : Content [] []
  | char {c : Char} {text : List Char} {items : List StringItem} (hcontrol : 0x20 ≤ c.toNat) (hquote : c ≠ '"')
      (hslash : c ≠ '\\') (hrest : Content text items) : Content (c :: text) (.char c :: items)
  | escape {e c : Char} {text : List Char} {items : List StringItem} (h : (e, c) ∈ escapes)
      (hrest : Content text items) : Content ('\\' :: e :: text) (.char c :: items)
  | code {a b c d : Char} {i j k l : Nat} {text : List Char} {items : List StringItem} (ha : HexDigit a i)
      (hb : HexDigit b j) (hc : HexDigit c k) (hd : HexDigit d l) (hrest : Content text items) :
      Content ('\\' :: 'u' :: a :: b :: c :: d :: text) (.code (0x1000 * i + 0x100 * j + 0x10 * k + l) :: items)

/-- The characters that items stand for. Codes are those of UTF-16: one of a character, or two surrogates in a row. -/
inductive StandFor : List StringItem → List Char → Prop
  | nil : StandFor [] []
  | char {c : Char} {items : List StringItem} {cs : List Char} (h : StandFor items cs) :
      StandFor (.char c :: items) (c :: cs)
  | code {n : Nat} {items : List StringItem} {cs : List Char} (hn : n < 0xD800 ∨ 0xE000 ≤ n) (h : StandFor items cs) :
      StandFor (.code n :: items) (Char.ofNat n :: cs)
  | pair {n m : Nat} {items : List StringItem} {cs : List Char} (hn : 0xD800 ≤ n ∧ n < 0xDC00)
      (hm : 0xDC00 ≤ m ∧ m < 0xE000) (h : StandFor items cs) :
      StandFor (.code n :: .code m :: items) (Char.ofNat (0x10000 + (n - 0xD800) * 0x400 + (m - 0xDC00)) :: cs)

/-- A string with its quotes; it says nothing, `none`, if its codes are those of no characters. -/
def StringText (text : List Char) (s : Option String) : Prop :=
  ∃ content items, text = '"' :: (content ++ ['"']) ∧ Content content items ∧
    ∀ cs, StandFor items cs ↔ s = some (String.ofList cs)

theorem escaped?_of_mem {e c : Char} (h : (e, c) ∈ escapes) : escaped? e = some c := by
  simp only [escapes, List.mem_cons, Prod.mk.injEq, List.not_mem_nil, or_false] at h
  rcases h with ⟨rfl, rfl⟩ | ⟨rfl, rfl⟩ | ⟨rfl, rfl⟩ | ⟨rfl, rfl⟩ | ⟨rfl, rfl⟩ | ⟨rfl, rfl⟩ | ⟨rfl, rfl⟩ | ⟨rfl, rfl⟩ <;> rfl

theorem toList_lowerDigits : "0123456789abcdef".toList =
    ['0', '1', '2', '3', '4', '5', '6', '7', '8', '9', 'a', 'b', 'c', 'd', 'e', 'f'] := by simp

theorem toList_upperDigits : "0123456789ABCDEF".toList =
    ['0', '1', '2', '3', '4', '5', '6', '7', '8', '9', 'A', 'B', 'C', 'D', 'E', 'F'] := by simp

theorem HexDigit.eq_some {c : Char} {n : Nat} (h : HexDigit c n) : Text.hexDigit? c = some n := by
  have hn : n < 16 := by
    rcases h with h | h <;> exact (List.getElem?_eq_some_iff.1 h).1
  rw [HexDigit, toList_lowerDigits, toList_upperDigits] at h
  have hlower : ∀ n < 16, ['0', '1', '2', '3', '4', '5', '6', '7', '8', '9', 'a', 'b', 'c', 'd', 'e', 'f'][n]?.bind
      Text.hexDigit? = some n := by decide
  have hupper : ∀ n < 16, ['0', '1', '2', '3', '4', '5', '6', '7', '8', '9', 'A', 'B', 'C', 'D', 'E', 'F'][n]?.bind
      Text.hexDigit? = some n := by decide
  rcases h with h | h
  · rw [← hlower n hn, h, Option.bind_some]
  · rw [← hupper n hn, h, Option.bind_some]

theorem standFor_iff {items : List StringItem} {cs : List Char} : StandFor items cs ↔ characters? items = some cs := by
  constructor
  · intro h
    induction h with
    | nil => rfl
    | char h ih => simp [characters?, ih]
    | @code n items cs hn h ih =>
      have hhigh : ¬(0xD800 ≤ n ∧ n < 0xDC00) := by omega
      have hlow : ¬(0xDC00 ≤ n ∧ n < 0xE000) := by omega
      rw [characters?.eq_def]
      simp [hhigh, hlow, ih]
    | pair hn hm h ih =>
      rw [characters?.eq_def]
      simp [hn, hm, ih]
  · intro h
    fun_induction characters? items generalizing cs with
    | case1 => cases h; exact .nil
    | case2 c rest ih =>
      obtain ⟨ds, hds, rfl⟩ := Option.map_eq_some_iff.1 h
      exact .char (ih hds)
    | case3 => simp at h
    | case4 n hn m rest hm ih =>
      obtain ⟨ds, hds, rfl⟩ := Option.map_eq_some_iff.1 h
      exact .pair (by simpa using hn) (by simpa using hm) (ih hds)
    | case5 => simp at h
    | case6 => simp at h
    | case7 => simp at h
    | case8 n rest hhigh hlow ih =>
      obtain ⟨ds, hds, rfl⟩ := Option.map_eq_some_iff.1 h
      exact .code (by simp at hhigh hlow; omega) (ih hds)

theorem items?_unicode (a b c d : Char) (s : Symbols) :
    items? (some '\\' :: some 'u' :: some a :: some b :: some c :: some d :: s) =
      match [a, b, c, d].mapM Text.hexDigit?, items? s with
      | some digits, some (items, rest) => some (.code (Text.ofDigits 16 digits) :: items, rest)
      | _, _ => none := rfl

theorem items?_code {a b c d : Char} {n : Nat} (s : Symbols)
    (h : ([a, b, c, d].mapM Text.hexDigit?).map (Text.ofDigits 16) = some n) :
    items? (some '\\' :: some 'u' :: some a :: some b :: some c :: some d :: s) =
      (items? s).map fun x => (.code n :: x.1, x.2) := by
  rw [items?_unicode]
  cases hd : [a, b, c, d].mapM Text.hexDigit? with
  | none => simp [hd] at h
  | some digits =>
    obtain rfl : Text.ofDigits 16 digits = n := by simpa [hd] using h
    cases items? s <;> rfl

theorem items?_escaped {c e : Char} (s : Symbols) (h : escaped? c = some e) :
    items? (some '\\' :: some c :: s) = (items? s).map fun x => (.char e :: x.1, x.2) := by
  have hu : c ≠ 'u' := by
    rintro rfl
    simp [escaped?] at h
  rw [items?]
  · rw [h]
    cases items? s <;> rfl
  · exact fun _ _ _ _ _ _ hc => hu hc

theorem items?_char {c : Char} (s : Symbols) (hquote : c ≠ '"') (hslash : c ≠ '\\') (hcode : ¬c.toNat < 0x20) :
    items? (some c :: s) = (items? s).map fun x => (.char c :: x.1, x.2) := by
  rw [items?]
  · rw [if_neg hcode]
  · exact hquote
  · exact fun _ _ _ _ _ _ hc => hslash hc
  · exact fun _ _ _ hc => hslash hc
  · exact hslash

theorem Content.items? {text : List Char} {items : List StringItem} (h : Content text items) (rest : Symbols) :
    Json.items? (text.map some ++ some '"' :: rest) = some (items, rest) := by
  induction h with
  | nil => rfl
  | char hcontrol hquote hslash hrest ih =>
    rw [List.map_cons, List.cons_append, items?_char _ hquote hslash (by omega), ih, Option.map_some]
  | escape h hrest ih =>
    rw [List.map_cons, List.map_cons, List.cons_append, List.cons_append, items?_escaped _ (escaped?_of_mem h), ih,
      Option.map_some]
  | @code a b c d i j k l text items ha hb hc hd hrest ih =>
    have hcode : ([a, b, c, d].mapM Text.hexDigit?).map (Text.ofDigits 16) =
        some (0x1000 * i + 0x100 * j + 0x10 * k + l) := by
      simp [List.mapM_cons, ha.eq_some, hb.eq_some, hc.eq_some, hd.eq_some, Text.ofDigits]
      omega
    simp only [List.map_cons, List.cons_append]
    rw [items?_code _ hcode, ih, Option.map_some]

theorem StringText.string? {text : List Char} {s : Option String} (h : StringText text s) (rest : Symbols) :
    ∃ behind, text.map some ++ rest = some '"' :: behind ∧ Json.string? behind = some (s, rest) := by
  obtain ⟨content, items, rfl, hcontent, hmeans⟩ := h
  refine ⟨content.map some ++ some '"' :: rest, by simp, ?_⟩
  have hread : (characters? items).map String.ofList = s := by
    cases hchars : characters? items with
    | some cs => rw [(hmeans cs).1 (standFor_iff.2 hchars), Option.map_some]
    | none =>
      cases s with
      | none => rfl
      | some s =>
        have hstands := (hmeans s.toList).2 (by rw [String.ofList_toList])
        exact absurd (standFor_iff.1 hstands) (by simp [hchars])
  simp only [Json.string?, hcontent.items? rest, Option.map_some, hread]

/-! ## Numbers -/

def Digits (ds : List Char) : Prop := ds ≠ [] ∧ ∀ d ∈ ds, d.isDigit

def FractionText (text : List Char) : Option (List Char) → Prop
  | none => text = []
  | some ds => Digits ds ∧ text = '.' :: ds

def ExponentText (text : List Char) : Option (List Char) → Prop
  | none => text = []
  | some x => ∃ e ∈ ['e', 'E'], ∃ mark ∈ [[], ['+'], ['-']], ∃ ds, Digits ds ∧ x = mark ++ ds ∧ text = e :: x

/-- A number; a zero stands in front of no other digits. -/
def NumberText (text : List Char) (n : Numeral) : Prop :=
  ∃ fraction exponent, text = (if n.negative then ['-'] else []) ++ (n.whole ++ (fraction ++ exponent)) ∧
    Digits n.whole ∧ (n.whole.head? = some '0' → n.whole = ['0']) ∧ FractionText fraction n.fraction ∧
    ExponentText exponent n.exponent

/-- What may follow a number: nothing that could be taken for more of it. -/
def Stops (s : Symbols) : Prop := ∀ c rest, s = some c :: rest → ¬c.isDigit ∧ c ≠ '.' ∧ c ≠ 'e' ∧ c ≠ 'E'

theorem stops_cons {c : Char} (h : ¬c.isDigit ∧ c ≠ '.' ∧ c ≠ 'e' ∧ c ≠ 'E') (s : Symbols) : Stops (some c :: s) := by
  rintro d rest ⟨rfl, -⟩
  exact h

theorem digits_of_not {s : Symbols} (h : ∀ c rest, s = some c :: rest → ¬c.isDigit) : digits s = ([], s) := by
  rw [digits.eq_def]
  split
  · next c rest => rw [if_neg (h c rest rfl)]
  · rfl

theorem digits_append {ds : List Char} {s : Symbols} (hds : ∀ d ∈ ds, d.isDigit)
    (h : ∀ c rest, s = some c :: rest → ¬c.isDigit) : digits (ds.map some ++ s) = (ds, s) := by
  induction ds with
  | nil => exact digits_of_not h
  | cons d ds ih =>
    have hd := hds d List.mem_cons_self
    rw [List.map_cons, List.cons_append, digits, if_pos hd, ih fun d' hd' => hds d' (List.mem_cons_of_mem _ hd')]

theorem sign_mark {mark : List Char} (hmark : mark ∈ [[], ['+'], ['-']]) {d : Char} (hd : d.isDigit) (s : Symbols) :
    sign (mark.map some ++ some d :: s) = (mark, some d :: s) := by
  have hplus : d ≠ '+' := by rintro rfl; simp at hd
  have hminus : d ≠ '-' := by rintro rfl; simp at hd
  simp only [List.mem_cons, List.not_mem_nil, or_false] at hmark
  rcases hmark with rfl | rfl | rfl
  · simp [sign, hplus, hminus]
  · rfl
  · rfl

theorem ExponentText.exponent? {text : List Char} {exponent : Option (List Char)} (h : ExponentText text exponent)
    {rest : Symbols} (hrest : Stops rest) : Json.exponent? (text.map some ++ rest) = some (exponent, rest) := by
  cases exponent with
  | none =>
    obtain rfl : text = [] := h
    rw [List.map_nil, List.nil_append, Json.exponent?.eq_def]
    split
    · next c rest => simp [(hrest c rest rfl).2.2]
    · rfl
  | some x =>
    obtain ⟨e, he, mark, hmark, ds, ⟨hne, hds⟩, rfl, rfl⟩ := h
    obtain ⟨d, ds, rfl⟩ := List.exists_cons_of_ne_nil hne
    have he' : (e = 'e' || e = 'E') = true := by simpa using he
    have hsign := sign_mark hmark (hds d List.mem_cons_self) (ds.map some ++ rest)
    have hdigits : digits (some d :: (ds.map some ++ rest)) = (d :: ds, rest) :=
      digits_append hds fun c s hs => (hrest c s hs).1
    simp [Json.exponent?, he', hsign, hdigits]

theorem FractionText.fraction? {text : List Char} {fraction : Option (List Char)} (h : FractionText text fraction)
    {rest : Symbols} (hrest : ∀ c s, rest = some c :: s → ¬c.isDigit ∧ c ≠ '.') :
    Json.fraction? (text.map some ++ rest) = some (fraction, rest) := by
  cases fraction with
  | none =>
    obtain rfl : text = [] := h
    rw [List.map_nil, List.nil_append, Json.fraction?.eq_def]
    split
    · next s => exact absurd rfl (hrest '.' s rfl).2
    · rfl
  | some ds =>
    obtain ⟨⟨hne, hds⟩, rfl⟩ := h
    have hdigits := digits_append hds fun c s hs => (hrest c s hs).1
    simp [Json.fraction?, hdigits, hne]

/-- An exponent does not begin like a fraction, nor do both begin like more of the whole part. -/
theorem ExponentText.follow {text : List Char} {exponent : Option (List Char)} (h : ExponentText text exponent)
    {rest : Symbols} (hrest : Stops rest) :
    ∀ c s, text.map some ++ rest = some c :: s → ¬c.isDigit ∧ c ≠ '.' := by
  intro c s hs
  cases exponent with
  | none =>
    obtain rfl : text = [] := h
    exact ⟨(hrest c s hs).1, (hrest c s hs).2.1⟩
  | some x =>
    obtain ⟨e, he, mark, hmark, ds, hds, hx, rfl⟩ := h
    obtain ⟨⟨rfl⟩, -⟩ := List.cons.inj hs
    simp only [List.mem_cons, List.not_mem_nil, or_false] at he
    rcases he with rfl | rfl <;> decide

theorem FractionText.follow {text : List Char} {fraction : Option (List Char)} (h : FractionText text fraction)
    {rest : Symbols} (hrest : ∀ c s, rest = some c :: s → ¬c.isDigit) :
    ∀ c s, text.map some ++ rest = some c :: s → ¬c.isDigit := by
  intro c s hs
  cases fraction with
  | none =>
    obtain rfl : text = [] := h
    exact hrest c s hs
  | some ds =>
    obtain ⟨-, rfl⟩ := h
    obtain ⟨⟨rfl⟩, -⟩ := List.cons.inj hs
    decide

theorem numeral?_whole {n : Numeral} {fraction exponent : List Char} (hwhole : Digits n.whole)
    (hzero : n.whole.head? = some '0' → n.whole = ['0']) (hfraction : FractionText fraction n.fraction)
    (hexponent : ExponentText exponent n.exponent) {rest : Symbols} (hrest : Stops rest) :
    numeral? n.negative ((n.whole ++ (fraction ++ exponent)).map some ++ rest) = some (n, rest) := by
  have hdigits : digits (n.whole.map some ++ (fraction.map some ++ (exponent.map some ++ rest))) =
      (n.whole, fraction.map some ++ (exponent.map some ++ rest)) :=
    digits_append hwhole.2 (hfraction.follow fun c s hs => (hexponent.follow hrest c s hs).1)
  have hlong : ¬(n.whole.head? = some '0' ∧ 1 < n.whole.length) := by
    rintro ⟨hhead, hlen⟩
    simp [hzero hhead] at hlen
  have hchecked : (n.whole.isEmpty || (n.whole.head? = some '0' && n.whole.length > 1)) = false := by
    simpa [hwhole.1] using hlong
  have hread := hfraction.fraction? (hexponent.follow hrest)
  simp [numeral?, hdigits, hchecked, hread, hexponent.exponent? hrest]

/-! ## Values -/

def Blanks (text : List Char) : Prop := ∀ c ∈ text, c ∈ [' ', '\t', '\n', '\r']

/-- What a part of a text can be. An element is a value with what blanks are around it. -/
inductive Phrase
  | value (j : Json)
  | element (j : Json)
  | elements (items : List Json)
  | member (m : Option String × Json)
  | members (ms : List (Option String × Json))

/-- The text is that phrase. -/
inductive Spells : List Char → Phrase → Prop
  | null : Spells "null".toList (.value .null)
  | true : Spells "true".toList (.value (.bool Bool.true))
  | false : Spells "false".toList (.value (.bool Bool.false))
  | number {text : List Char} {n : Numeral} (h : NumberText text n) : Spells text (.value (.number n))
  | string {text : List Char} {s : Option String} (h : StringText text s) : Spells text (.value (.string s))
  | emptyArray {blanks : List Char} (h : Blanks blanks) : Spells ('[' :: (blanks ++ [']'])) (.value (.array []))
  | array {text : List Char} {items : List Json} (h : Spells text (.elements items)) :
      Spells ('[' :: (text ++ [']'])) (.value (.array items))
  | emptyObject {blanks : List Char} (h : Blanks blanks) : Spells ('\x7b' :: (blanks ++ ['\x7d'])) (.value (.object []))
  | object {text : List Char} {ms : List (Option String × Json)} (h : Spells text (.members ms)) :
      Spells ('\x7b' :: (text ++ ['\x7d'])) (.value (.object ms))
  | element {before text behind : List Char} {j : Json} (hbefore : Blanks before) (h : Spells text (.value j))
      (hbehind : Blanks behind) : Spells (before ++ (text ++ behind)) (.element j)
  | lastElement {text : List Char} {j : Json} (h : Spells text (.element j)) : Spells text (.elements [j])
  | elements {text others : List Char} {j : Json} {items : List Json} (h : Spells text (.element j))
      (hothers : Spells others (.elements items)) : Spells (text ++ ',' :: others) (.elements (j :: items))
  | member {before key behind text : List Char} {k : Option String} {j : Json} (hbefore : Blanks before)
      (hkey : StringText key k) (hbehind : Blanks behind) (h : Spells text (.element j)) :
      Spells (before ++ (key ++ (behind ++ ':' :: text))) (.member (k, j))
  | lastMember {text : List Char} {m : Option String × Json} (h : Spells text (.member m)) : Spells text (.members [m])
  | members {text others : List Char} {m : Option String × Json} {ms : List (Option String × Json)}
      (h : Spells text (.member m)) (hothers : Spells others (.members ms)) :
      Spells (text ++ ',' :: others) (.members (m :: ms))

/-- The text is a JSON document that says `j`. -/
def Document (text : List Char) (j : Json) : Prop := Spells text (.element j)

theorem blanks_nil : Blanks [] := fun _ h => absurd h List.not_mem_nil

theorem Blanks.isBlank {text : List Char} (h : Blanks text) {c : Char} (hc : c ∈ text) : Json.isBlank c := by
  have hmem := h c hc
  simp only [List.mem_cons, List.not_mem_nil, or_false] at hmem
  rcases hmem with rfl | rfl | rfl | rfl <;> rfl

theorem skipBlanks_of_not {c : Char} (hc : isBlank c = false) (s : Symbols) : skipBlanks (some c :: s) = some c :: s := by
  rw [skipBlanks, hc]
  rfl

theorem Blanks.skip {text : List Char} (h : Blanks text) (s : Symbols) :
    skipBlanks (text.map some ++ s) = skipBlanks s := by
  induction text with
  | nil => rfl
  | cons c text ih =>
    rw [List.map_cons, List.cons_append, skipBlanks, if_pos (h.isBlank List.mem_cons_self),
      ih fun d hd => h d (List.mem_cons_of_mem _ hd)]

theorem Blanks.stops {text : List Char} (h : Blanks text) {rest : Symbols} (hrest : Stops rest) :
    Stops (text.map some ++ rest) := by
  cases text with
  | nil => exact hrest
  | cons c text =>
    have hc := h c List.mem_cons_self
    refine stops_cons ?_ _
    simp only [List.mem_cons, List.not_mem_nil, or_false] at hc
    rcases hc with rfl | rfl | rfl | rfl <;> decide

theorem skipBlanks_skipBlanks (s : Symbols) : skipBlanks (skipBlanks s) = skipBlanks s := by
  fun_induction skipBlanks s with
  | case1 c rest hc ih => exact ih
  | case2 c rest hc => exact skipBlanks_of_not (by simpa using hc) rest
  | case3 s hs =>
    rw [skipBlanks.eq_def]
    split
    · next c rest => exact absurd rfl (hs c rest)
    · rfl

/-! ## Steps of the readers -/

theorem value?_succ (fuel : Nat) (s : Symbols) :
    value? (fuel + 1) s =
      match skipBlanks s with
      | some 'n' :: rest => (literal? ['u', 'l', 'l'] rest).map (null, ·)
      | some 't' :: rest => (literal? ['r', 'u', 'e'] rest).map (bool true, ·)
      | some 'f' :: rest => (literal? ['a', 'l', 's', 'e'] rest).map (bool false, ·)
      | some '"' :: rest => (string? rest).map fun (s, rest) => (string s, rest)
      | some '[' :: rest =>
        match skipBlanks rest with
        | some ']' :: rest => some (array [], rest)
        | rest => (elements? fuel rest).map fun (items, rest) => (array items, rest)
      | some '\x7b' :: rest =>
        match skipBlanks rest with
        | some '\x7d' :: rest => some (object [], rest)
        | rest => (members? fuel rest).map fun (members, rest) => (object members, rest)
      | some '-' :: rest => (numeral? Bool.true rest).map fun (n, rest) => (number n, rest)
      | rest => (numeral? Bool.false rest).map fun (n, rest) => (number n, rest) := rfl

theorem elements?_succ (fuel : Nat) (s : Symbols) :
    elements? (fuel + 1) s =
      match value? fuel s with
      | none => none
      | some (v, rest) =>
        match skipBlanks rest with
        | some ']' :: rest => some ([v], rest)
        | some ',' :: rest => (elements? fuel rest).map fun (vs, rest) => (v :: vs, rest)
        | _ => none := rfl

/-- What is done behind a member: the object ends there, or there are others. -/
def behindMember (fuel : Nat) (member : Option String × Json) (s : Symbols) :
    Option (List (Option String × Json) × Symbols) :=
  match skipBlanks s with
  | some '\x7d' :: rest => some ([member], rest)
  | some ',' :: rest => (members? fuel rest).map fun x => (member :: x.1, x.2)
  | _ => none

theorem members?_succ (fuel : Nat) (s : Symbols) :
    members? (fuel + 1) s =
      match skipBlanks s with
      | some '"' :: rest =>
        match string? rest with
        | none => none
        | some (key, rest) =>
          match skipBlanks rest with
          | some ':' :: rest =>
            match value? fuel rest with
            | none => none
            | some (v, rest) => behindMember fuel (key, v) rest
          | _ => none
      | _ => none := rfl

/-- The readers pass over blanks in front. -/
theorem value?_congr {s t : Symbols} (h : skipBlanks s = skipBlanks t) (fuel : Nat) : value? fuel s = value? fuel t := by
  cases fuel with
  | zero => rfl
  | succ fuel => rw [value?_succ, value?_succ, h]

theorem elements?_congr {s t : Symbols} (h : skipBlanks s = skipBlanks t) (fuel : Nat) :
    elements? fuel s = elements? fuel t := by
  cases fuel with
  | zero => rfl
  | succ fuel => rw [elements?_succ, elements?_succ, value?_congr h]

theorem members?_congr {s t : Symbols} (h : skipBlanks s = skipBlanks t) (fuel : Nat) :
    members? fuel s = members? fuel t := by
  cases fuel with
  | zero => rfl
  | succ fuel => rw [members?_succ, members?_succ, h]

/-! ## Reading documents -/

theorem value?_quote (fuel : Nat) (s : Symbols) :
    value? (fuel + 1) (some '"' :: s) = (string? s).map fun x => (string x.1, x.2) := rfl

theorem value?_bracket (fuel : Nat) (s : Symbols) :
    value? (fuel + 1) (some '[' :: s) =
      match skipBlanks s with
      | some ']' :: rest => some (array [], rest)
      | rest => (elements? fuel rest).map fun (items, rest) => (array items, rest) := rfl

theorem value?_emptyArray {s rest : Symbols} (h : skipBlanks s = some ']' :: rest) (fuel : Nat) :
    value? (fuel + 1) (some '[' :: s) = some (array [], rest) := by
  rw [value?_bracket, h]
  rfl

theorem value?_array {fuel : Nat} {s rest : Symbols} {items : List Json}
    (hbegins : ∀ t, skipBlanks s ≠ some ']' :: t) (h : elements? fuel s = some (items, rest)) :
    value? (fuel + 1) (some '[' :: s) = some (array items, rest) := by
  rw [← elements?_congr (skipBlanks_skipBlanks s)] at h
  rw [value?_bracket]
  split
  · next heq => exact absurd heq (hbegins _)
  · rw [h, Option.map_some]

theorem value?_brace (fuel : Nat) (s : Symbols) :
    value? (fuel + 1) (some '\x7b' :: s) =
      match skipBlanks s with
      | some '\x7d' :: rest => some (object [], rest)
      | rest => (members? fuel rest).map fun (members, rest) => (object members, rest) := rfl

theorem value?_emptyObject {s rest : Symbols} (h : skipBlanks s = some '\x7d' :: rest) (fuel : Nat) :
    value? (fuel + 1) (some '\x7b' :: s) = some (object [], rest) := by
  rw [value?_brace, h]
  rfl

theorem value?_object {fuel : Nat} {s rest : Symbols} {ms : List (Option String × Json)}
    (hbegins : ∀ t, skipBlanks s ≠ some '\x7d' :: t) (h : members? fuel s = some (ms, rest)) :
    value? (fuel + 1) (some '\x7b' :: s) = some (object ms, rest) := by
  rw [← members?_congr (skipBlanks_skipBlanks s)] at h
  rw [value?_brace]
  split
  · next heq => exact absurd heq (hbegins _)
  · rw [h, Option.map_some]

theorem value?_minus (fuel : Nat) (s : Symbols) :
    value? (fuel + 1) (some '-' :: s) = (numeral? Bool.true s).map fun x => (number x.1, x.2) := rfl

theorem isBlank_digit {d : Char} (hd : d.isDigit) : isBlank d = Bool.false := by
  cases h : isBlank d with
  | false => rfl
  | true =>
    simp only [isBlank, Bool.or_eq_true, decide_eq_true_eq] at h
    rcases h with ((rfl | rfl) | rfl) | rfl <;> simp at hd

theorem value?_digit {d : Char} (hd : d.isDigit) (fuel : Nat) (s : Symbols) :
    value? (fuel + 1) (some d :: s) = (numeral? Bool.false (some d :: s)).map fun x => (number x.1, x.2) := by
  rw [value?_succ, skipBlanks_of_not (isBlank_digit hd)]
  split
  case h_8 => rfl
  all_goals next heq => obtain ⟨⟨rfl⟩, -⟩ := List.cons.inj heq; simp at hd

/-- Behind its blanks a phrase begins with a character that closes nothing. -/
theorem Spells.skip {text : List Char} {p : Phrase} (h : Spells text p) (rest : Symbols) :
    ∃ c s, skipBlanks (text.map some ++ rest) = some c :: s ∧ c ≠ ']' ∧ c ≠ '\x7d' := by
  have hstart {c : Char} (hc : isBlank c = Bool.false ∧ c ≠ ']' ∧ c ≠ '\x7d') (s : Symbols) :
      ∃ d t, skipBlanks (some c :: s) = some d :: t ∧ d ≠ ']' ∧ d ≠ '\x7d' :=
    ⟨c, s, skipBlanks_of_not hc.1 s, hc.2⟩
  induction h generalizing rest with
  | null => exact hstart (by decide) _
  | true => exact hstart (by decide) _
  | false => exact hstart (by decide) _
  | @number text n h =>
    obtain ⟨fraction, exponent, rfl, ⟨hne, hds⟩, -⟩ := h
    obtain ⟨d, ds, hwhole⟩ := List.exists_cons_of_ne_nil hne
    have hd : d.isDigit := hds d (by simp [hwhole])
    cases n.negative with
    | true => exact hstart (by decide) _
    | false =>
      rw [hwhole]
      exact hstart ⟨isBlank_digit hd, by rintro rfl; simp at hd, by rintro rfl; simp at hd⟩ _
  | string h =>
    obtain ⟨content, items, rfl, -⟩ := h
    exact hstart (by decide) _
  | emptyArray => exact hstart (by decide) _
  | array => exact hstart (by decide) _
  | emptyObject => exact hstart (by decide) _
  | object => exact hstart (by decide) _
  | element hbefore h hbehind ih =>
    simp only [List.map_append, List.append_assoc, hbefore.skip]
    exact ih _
  | lastElement h ih => exact ih rest
  | elements h hothers ih =>
    rw [List.map_append, List.append_assoc]
    exact ih _
  | member hbefore hkey =>
    obtain ⟨content, items, rfl, -⟩ := hkey
    rw [List.map_append, List.append_assoc, hbefore.skip]
    exact hstart (by decide) _
  | lastMember h ih => exact ih rest
  | members h hothers ih =>
    rw [List.map_append, List.append_assoc]
    exact ih _

theorem Spells.not_closing {text : List Char} {p : Phrase} (h : Spells text p) (rest t : Symbols) :
    skipBlanks (text.map some ++ rest) ≠ some ']' :: t ∧ skipBlanks (text.map some ++ rest) ≠ some '\x7d' :: t := by
  obtain ⟨c, s, hskip, hbracket, hbrace⟩ := h.skip rest
  rw [hskip]
  simp [hbracket, hbrace]

/-- The text is read as that phrase, with fuel for each of its characters. -/
def Phrase.ReadFrom (text : List Char) : Phrase → Prop
  | value j => ∀ fuel rest, text.length ≤ fuel → Stops rest → value? fuel (text.map some ++ rest) = some (j, rest)
  | element j => ∀ fuel rest, text.length ≤ fuel → Stops rest →
      ∃ left, value? fuel (text.map some ++ rest) = some (j, left) ∧ skipBlanks left = skipBlanks rest
  | elements items => ∀ fuel rest, text.length < fuel →
      elements? fuel (text.map some ++ some ']' :: rest) = some (items, rest)
  | member m => ∀ fuel rest, text.length ≤ fuel → Stops rest →
      members? (fuel + 1) (text.map some ++ rest) = behindMember fuel m rest
  | members ms => ∀ fuel rest, text.length < fuel →
      members? fuel (text.map some ++ some '\x7d' :: rest) = some (ms, rest)

theorem NumberText.value? {text : List Char} {n : Numeral} (h : NumberText text n) (fuel : Nat) {rest : Symbols}
    (hrest : Stops rest) : Json.value? (fuel + 1) (text.map some ++ rest) = some (number n, rest) := by
  obtain ⟨fraction, exponent, rfl, hwhole, hzero, hfraction, hexponent⟩ := h
  have hnumeral := numeral?_whole hwhole hzero hfraction hexponent hrest
  cases hneg : n.negative with
  | true =>
    rw [hneg] at hnumeral
    simpa [value?_minus] using hnumeral
  | false =>
    obtain ⟨d, ds, hcons⟩ := List.exists_cons_of_ne_nil hwhole.1
    have hd : d.isDigit := hwhole.2 d (by simp [hcons])
    rw [hneg, hcons] at hnumeral
    simpa [hcons, value?_digit hd] using hnumeral

theorem Spells.fuel {text : List Char} {p : Phrase} (h : Spells text p) {fuel : Nat} (hfuel : text.length ≤ fuel) :
    ∃ k, fuel = k + 1 := by
  cases fuel with
  | succ k => exact ⟨k, rfl⟩
  | zero =>
    obtain rfl := List.eq_nil_of_length_eq_zero (Nat.le_zero.1 hfuel)
    obtain ⟨c, s, hskip, -⟩ := h.skip []
    simp [skipBlanks] at hskip

theorem symbols_enclosed (opening closing : Char) (text : List Char) (rest : Symbols) :
    (opening :: (text ++ [closing])).map some ++ rest = some opening :: (text.map some ++ some closing :: rest) := by simp

theorem symbols_separated (text : List Char) (separator : Char) (others : List Char) (rest : Symbols) :
    (text ++ separator :: others).map some ++ rest = text.map some ++ some separator :: (others.map some ++ rest) := by
  simp

/-- The reader follows the rules of the grammar one by one. -/
theorem Spells.readFrom {text : List Char} {p : Phrase} (h : Spells text p) : p.ReadFrom text := by
  have hcomma (s : Symbols) : Stops (some ',' :: s) := stops_cons (by decide) s
  have hbracket (s : Symbols) : Stops (some ']' :: s) := stops_cons (by decide) s
  have hbrace (s : Symbols) : Stops (some '\x7d' :: s) := stops_cons (by decide) s
  induction h with
  | null =>
    intro fuel rest hfuel _
    obtain ⟨fuel, rfl⟩ := Spells.null.fuel hfuel
    rfl
  | true =>
    intro fuel rest hfuel _
    obtain ⟨fuel, rfl⟩ := Spells.true.fuel hfuel
    rfl
  | false =>
    intro fuel rest hfuel _
    obtain ⟨fuel, rfl⟩ := Spells.false.fuel hfuel
    rfl
  | number h =>
    intro fuel rest hfuel hrest
    obtain ⟨fuel, rfl⟩ := (Spells.number h).fuel hfuel
    exact h.value? fuel hrest
  | string h =>
    intro fuel rest hfuel _
    obtain ⟨fuel, rfl⟩ := (Spells.string h).fuel hfuel
    obtain ⟨behind, htext, hstring⟩ := h.string? rest
    rw [htext, value?_quote, hstring, Option.map_some]
  | emptyArray h =>
    intro fuel rest hfuel _
    obtain ⟨fuel, rfl⟩ := (Spells.emptyArray h).fuel hfuel
    rw [symbols_enclosed]
    exact value?_emptyArray (by rw [h.skip]; rfl) fuel
  | @array text items h ih =>
    intro fuel rest hfuel _
    obtain ⟨fuel, rfl⟩ := h.array.fuel hfuel
    have hread := ih fuel rest (by simp at hfuel; omega)
    rw [symbols_enclosed]
    exact value?_array (fun t => (h.not_closing (some ']' :: rest) t).1) hread
  | emptyObject h =>
    intro fuel rest hfuel _
    obtain ⟨fuel, rfl⟩ := (Spells.emptyObject h).fuel hfuel
    rw [symbols_enclosed]
    exact value?_emptyObject (by rw [h.skip]; rfl) fuel
  | @object text ms h ih =>
    intro fuel rest hfuel _
    obtain ⟨fuel, rfl⟩ := h.object.fuel hfuel
    have hread := ih fuel rest (by simp at hfuel; omega)
    rw [symbols_enclosed]
    exact value?_object (fun t => (h.not_closing (some '\x7d' :: rest) t).2) hread
  | @element before text behind j hbefore h hbehind ih =>
    intro fuel rest hfuel hrest
    have hread := ih fuel (behind.map some ++ rest) (by simp at hfuel; omega) (hbehind.stops hrest)
    refine ⟨behind.map some ++ rest, ?_, hbehind.skip rest⟩
    simp only [List.map_append, List.append_assoc]
    rw [value?_congr (hbefore.skip _), hread]
  | lastElement h ih =>
    intro fuel rest hfuel
    obtain ⟨fuel, rfl⟩ := h.fuel (Nat.le_of_lt hfuel)
    obtain ⟨left, hread, hleft⟩ := ih fuel (some ']' :: rest) (Nat.le_of_lt_succ hfuel) (hbracket rest)
    rw [elements?_succ, hread]
    simp [hleft, skipBlanks, isBlank]
  | @elements text others j items h hothers ih ihothers =>
    intro fuel rest hfuel
    obtain ⟨fuel, rfl⟩ := (h.elements hothers).fuel (Nat.le_of_lt hfuel)
    simp only [List.length_append, List.length_cons] at hfuel
    obtain ⟨left, hread, hleft⟩ :=
      ih fuel (some ',' :: (others.map some ++ some ']' :: rest)) (by omega) (hcomma _)
    have hreads := ihothers fuel rest (by omega)
    rw [symbols_separated, elements?_succ, hread]
    simp [hleft, skipBlanks, isBlank, hreads]
  | @member before key behind text k j hbefore hkey hbehind h ih =>
    intro fuel rest hfuel hrest
    obtain ⟨left, hread, hleft⟩ := ih fuel rest (by simp at hfuel; omega) hrest
    obtain ⟨behindKey, htext, hstring⟩ := hkey.string? (behind.map some ++ some ':' :: (text.map some ++ rest))
    have hskip : skipBlanks ((before ++ (key ++ (behind ++ ':' :: text))).map some ++ rest) = some '"' :: behindKey := by
      simp only [List.map_append, List.append_assoc, List.map_cons, List.cons_append, hbefore.skip]
      rw [htext]
      exact skipBlanks_of_not rfl _
    have hcolon : skipBlanks (behind.map some ++ some ':' :: (text.map some ++ rest)) =
        some ':' :: (text.map some ++ rest) := by
      rw [hbehind.skip, skipBlanks_of_not rfl]
    rw [members?_succ, hskip]
    simp only [hstring, hcolon, hread]
    rw [behindMember, behindMember, hleft]
  | lastMember h ih =>
    intro fuel rest hfuel
    obtain ⟨fuel, rfl⟩ := h.fuel (Nat.le_of_lt hfuel)
    rw [ih fuel _ (Nat.le_of_lt_succ hfuel) (hbrace rest), behindMember, skipBlanks_of_not rfl]
    rfl
  | @members text others m ms h hothers ih ihothers =>
    intro fuel rest hfuel
    obtain ⟨fuel, rfl⟩ := (h.members hothers).fuel (Nat.le_of_lt hfuel)
    simp only [List.length_append, List.length_cons] at hfuel
    have hreads := ihothers fuel rest (by omega)
    rw [symbols_separated, ih fuel _ (by omega) (hcomma _), behindMember, skipBlanks_of_not rfl]
    exact congrArg (Option.map fun x => (m :: x.1, x.2)) hreads

theorem Document.read? {text : List Char} {j : Json} (h : Document text j) : Json.read? (text.map some) = some j := by
  have hend : Stops [] := by rintro c rest ⟨⟩
  obtain ⟨left, hread, hleft⟩ := h.readFrom (2 * (text.map some).length + 2) [] (by simp; omega) hend
  rw [List.append_nil] at hread
  rw [Json.read?, hread]
  simp [hleft, skipBlanks]

/-- A text says one thing at most. -/
theorem Document.unique {text : List Char} {j k : Json} (hj : Document text j) (hk : Document text k) : j = k :=
  Option.some.inj (hj.read?.symm.trans hk.read?)

theorem Document.ofBytes? {s : String} {j : Json} (h : Document s.toList j) : Json.ofBytes? s.toUTF8 = some j := by
  rw [ofBytes?_toUTF8, h.read?]

end CallGraph.Json
