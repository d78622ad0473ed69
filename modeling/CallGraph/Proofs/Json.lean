import CallGraph.Json.Text
import CallGraph.Proofs.Grammar
import Mathlib.Data.List.Forall2
/-!
# JSON texts that are written

A string is written as a string of the grammar that says just this string: `spells_quoted`. Values with commas between
them are arrays, members are objects: `spells_array`, `spells_object`.
-/

namespace CallGraph.Json

/-! ## Strings -/

/-- What is written for a character. -/
def written (c : Char) : List Char := (escape? c).getD [c]

def quoted (s : String) : List Char := '"' :: (s.toList.flatMap written ++ ['"'])

theorem toList_stretch (cs : List Char) : (stretch cs).flatMap String.toList = cs.reverse := by
  unfold stretch
  split
  · next h => simp [List.isEmpty_iff.1 h]
  · simp

theorem toList_contentPieces (before cs : List Char) :
    (contentPieces before cs).flatMap String.toList = before.reverse ++ cs.flatMap written := by
  induction cs generalizing before with
  | nil => simp [contentPieces, toList_stretch]
  | cons c rest ih =>
    unfold contentPieces
    cases he : escape? c with
    | none => simp [ih, written, he]
    | some e => simp [toList_stretch, ih, written, he]

theorem toList_stringPieces (s : String) : (stringPieces s).flatMap String.toList = quoted s := by
  simp [stringPieces, toList_contentPieces, quoted]

theorem hexDigit_hexDigit {n : Nat} (hn : n < 16) : HexDigit (hexDigit n) n := by
  have hall : ∀ n < 16, ['0', '1', '2', '3', '4', '5', '6', '7', '8', '9', 'a', 'b', 'c', 'd', 'e', 'f'][n]? =
      some (hexDigit n) := by decide
  exact .inl (toList_lowerDigits ▸ hall n hn)

/-- What is written for a character is one item, which stands for that character. -/
theorem content_written (c : Char) {text : List Char} {items : List StringItem} (h : Content text items) :
    ∃ item, Content (written c ++ text) (item :: items) ∧
      ∀ cs, StandFor items cs → StandFor (item :: items) (c :: cs) := by
  -- First the characters that have an escape of one letter, and those that need none.
  have hof {n : Nat} (h : c.toNat = n) : Char.ofNat n = c := by rw [← h, Char.ofNat_toNat]
  have hescaped {e : Char} (he : (e, c) ∈ escapes) (hw : written c = ['\\', e]) :
      ∃ item, Content (written c ++ text) (item :: items) ∧
        ∀ cs, StandFor items cs → StandFor (item :: items) (c :: cs) :=
    ⟨.char c, by rw [hw]; exact .escape he h, fun _ hcs => .char hcs⟩
  by_cases hquote : c = '"'
  · subst hquote
    exact hescaped (e := '"') (by decide) rfl
  by_cases hslash : c = '\\'
  · subst hslash
    exact hescaped (e := '\\') (by decide) rfl
  by_cases hplain : c.toNat ≥ 0x20
  · have hw : written c = [c] := by simp [written, escape?, hquote, hslash, hplain]
    rw [hw]
    exact ⟨.char c, .char hplain hquote hslash h, fun _ hcs => .char hcs⟩
  by_cases hn : c = '\n'
  · subst hn
    exact hescaped (e := 'n') (by decide) rfl
  by_cases hr : c = '\r'
  · subst hr
    exact hescaped (e := 'r') (by decide) rfl
  by_cases ht : c = '\t'
  · subst ht
    exact hescaped (e := 't') (by decide) rfl
  by_cases hb : c.toNat = 8
  · obtain rfl := hof hb
    exact hescaped (e := 'b') (by decide) rfl
  by_cases hf : c.toNat = 12
  · obtain rfl := hof hf
    exact hescaped (e := 'f') (by decide) rfl
  -- Any other control character is written by its code.
  have hw : written c = ['\\', 'u', '0', '0', hexDigit (c.toNat / 16), hexDigit (c.toNat % 16)] := by
    simp [written, escape?, hquote, hslash, hplain, hn, hr, ht, hb, hf]
  have hzero : HexDigit '0' 0 := .inl rfl
  have hhigh := hexDigit_hexDigit (n := c.toNat / 16) (by omega)
  have hlow := hexDigit_hexDigit (n := c.toNat % 16) (by omega)
  have hcode : 0x1000 * 0 + 0x100 * 0 + 0x10 * (c.toNat / 16) + c.toNat % 16 = c.toNat := by omega
  have hcontent := Content.code hzero hzero hhigh hlow h
  rw [hcode] at hcontent
  rw [hw]
  refine ⟨.code c.toNat, hcontent, fun cs hcs => ?_⟩
  -- A code this small is no half of a pair.
  have hstands := StandFor.code (n := c.toNat) (.inl (by omega)) hcs
  rwa [Char.ofNat_toNat] at hstands

theorem content_flatMap (cs : List Char) : ∃ items, Content (cs.flatMap written) items ∧ StandFor items cs := by
  induction cs with
  | nil => exact ⟨[], .nil, .nil⟩
  | cons c cs ih =>
    obtain ⟨items, hcontent, hstands⟩ := ih
    obtain ⟨item, hitem, hstand⟩ := content_written c hcontent
    exact ⟨item :: items, hitem, hstand cs hstands⟩

theorem stringText_quoted (s : String) : StringText (quoted s) (some s) := by
  obtain ⟨items, hcontent, hstands⟩ := content_flatMap s.toList
  refine ⟨_, items, rfl, hcontent, fun cs => ⟨fun hcs => ?_, fun hcs => ?_⟩⟩
  · have heq := (standFor_iff.1 hstands).symm.trans (standFor_iff.1 hcs)
    rw [← Option.some.inj heq, String.ofList_toList]
  · rw [Option.some.inj hcs, String.toList_ofList] at hstands
    exact hstands

/-! ## Values -/

theorem spells_quoted (s : String) : Spells (quoted s) (.value (.string (some s))) := .string (stringText_quoted s)

theorem Spells.alone {text : List Char} {j : Json} (h : Spells text (.value j)) : Spells text (.element j) := by
  simpa using Spells.element blanks_nil h blanks_nil

/-- Texts with commas between them. -/
def listed : List (List Char) → List Char
  | [] => []
  | text :: rest => text ++ rest.flatMap fun next => ',' :: next

theorem listed_cons_cons (text next : List Char) (texts : List (List Char)) :
    listed (text :: next :: texts) = text ++ ',' :: listed (next :: texts) := rfl

theorem spells_elements {texts : List (List Char)} {items : List Json}
    (h : List.Forall₂ (fun text j => Spells text (.value j)) texts items) (hne : texts ≠ []) :
    Spells (listed texts) (.elements items) := by
  induction h with
  | nil => exact absurd rfl hne
  | @cons text j texts items hj hrest ih =>
    cases texts with
    | nil =>
      cases hrest
      simpa [listed] using hj.alone.lastElement
    | cons next texts =>
      rw [listed_cons_cons]
      exact hj.alone.elements (ih (by simp))

theorem spells_array {texts : List (List Char)} {items : List Json}
    (h : List.Forall₂ (fun text j => Spells text (.value j)) texts items) :
    Spells ('[' :: (listed texts ++ [']'])) (.value (.array items)) := by
  cases h with
  | nil => exact .emptyArray blanks_nil
  | cons hj hrest => exact .array (spells_elements (.cons hj hrest) (by simp))

def memberText (key : String) (text : List Char) : List Char := quoted key ++ ':' :: text

theorem spells_member (key : String) {text : List Char} {j : Json} (h : Spells text (.value j)) :
    Spells (memberText key text) (.member (some key, j)) :=
  .member blanks_nil (stringText_quoted key) blanks_nil h.alone

theorem spells_members {members : List (String × List Char)} {values : List Json}
    (h : List.Forall₂ (fun m j => Spells m.2 (.value j)) members values) (hne : members ≠ []) :
    Spells (listed (members.map fun m => memberText m.1 m.2))
      (.members ((members.map fun m => some m.1).zip values)) := by
  induction h with
  | nil => exact absurd rfl hne
  | @cons m j members values hj hrest ih =>
    cases members with
    | nil =>
      cases hrest
      simpa [listed] using (spells_member m.1 hj).lastMember
    | cons next members => exact (spells_member m.1 hj).members (ih (by simp))

theorem spells_object {members : List (String × List Char)} {values : List Json}
    (h : List.Forall₂ (fun m j => Spells m.2 (.value j)) members values) (hne : members ≠ []) :
    Spells ('\x7b' :: (listed (members.map fun m => memberText m.1 m.2) ++ ['\x7d']))
      (.value (.object ((members.map fun m => some m.1).zip values))) :=
  .object (spells_members h hne)

end CallGraph.Json
