import CallGraph.ClassName
/-!
# Spellings of class names

A class name in internal form can be written with or without the mark in front and the mark behind. What is derived from
the bare name does not depend on that; `Spells.sourceFile` and `Spells.dotted` say so.
-/

namespace CallGraph

/-! ## Marks -/

namespace Text

theorem dropFirst_self (c : Char) (cs : List Char) : dropFirst c (c :: cs) = cs := by simp [dropFirst]

theorem dropFirst_of_head {c : Char} {cs : List Char} (h : cs.head? ≠ some c) : dropFirst c cs = cs := by
  cases cs with
  | nil => rfl
  | cons d ds => simpa [dropFirst] using h

theorem dropLast_self (c : Char) (cs : List Char) : dropLast c (cs ++ [c]) = cs := by simp [dropLast]

theorem dropLast_of_last {c : Char} {cs : List Char} (h : cs.getLast? ≠ some c) : dropLast c cs = cs := by
  rw [dropLast, if_neg h]

/-- What stands in front of another character stays. -/
theorem dropLast_append_cons {c d : Char} (h : d ≠ c) (front cs : List Char) :
    dropLast c (front ++ d :: cs) = front ++ d :: dropLast c cs := by
  rcases List.eq_nil_or_concat cs with rfl | ⟨cs, e, rfl⟩
  · simp [dropLast, h]
  · by_cases he : e = c
    · subst he
      have hsplit : front ++ d :: (cs ++ [e]) = (front ++ d :: cs) ++ [e] := by simp
      rw [List.concat_eq_append, dropLast_self, hsplit, dropLast_self]
    · have hlast : (d :: (cs ++ [e])).getLast? = some e := by rw [← List.cons_append, List.getLast?_concat]
      rw [dropLast_of_last, dropLast_of_last] <;> simp [he, hlast]

theorem dropLast_prefix (c : Char) (cs : List Char) : dropLast c cs <+: cs := by
  unfold dropLast
  split
  · exact List.dropLast_prefix cs
  · exact List.prefix_rfl

end Text

namespace ClassName

/-! ## Spellings -/

/-- A class name in internal form that carries neither mark, and could not be taken to carry one. -/
structure Internal (c : String) : Prop where
  front : c.toList.head? ≠ some 'L'
  back : c.toList.getLast? ≠ some ';'

/-- The ways to write a class name: with the mark in front or without, with the mark behind or without. -/
inductive Spells (c : String) : String → Prop
  | plain : Spells c c
  | front : Spells c ("L" ++ c)
  | back : Spells c (c ++ ";")
  | both : Spells c ("L" ++ c ++ ";")

theorem toList_front (c : String) : ("L" ++ c).toList = 'L' :: c.toList := by simp

theorem toList_back (c : String) : (c ++ ";").toList = c.toList ++ [';'] := by simp

theorem bare_front (c : String) : bare ("L" ++ c) = Text.dropLast ';' c.toList := by
  rw [bare, toList_front, Text.dropFirst_self]

theorem bare_both (c : String) : bare ("L" ++ c ++ ";") = c.toList := by
  rw [bare, String.append_assoc, toList_front, Text.dropFirst_self, toList_back, Text.dropLast_self]

theorem unmarked_front (c : String) : unmarked ("L" ++ c) = c := by
  rw [unmarked, toList_front, Text.dropFirst_self, String.ofList_toList]

namespace Internal

variable {c : String}

theorem head_back (h : Internal c) : (c ++ ";").toList.head? ≠ some 'L' := by
  have hfront := h.front
  rw [toList_back]
  cases hc : c.toList with
  | nil => simp
  | cons d ds => simpa [hc] using hfront

theorem unmarked (h : Internal c) : ClassName.unmarked c = c := by
  rw [ClassName.unmarked, Text.dropFirst_of_head h.front, String.ofList_toList]

theorem unmarked_back (h : Internal c) : ClassName.unmarked (c ++ ";") = c ++ ";" := by
  rw [ClassName.unmarked, Text.dropFirst_of_head h.head_back, String.ofList_toList]

end Internal

/-- All spellings have the same bare name. -/
theorem Spells.bare {c n : String} (h : Spells c n) (hc : Internal c) : bare n = c.toList := by
  cases h with
  | plain => rw [ClassName.bare, Text.dropFirst_of_head hc.front, Text.dropLast_of_last hc.back]
  | front => rw [bare_front, Text.dropLast_of_last hc.back]
  | back => rw [ClassName.bare, Text.dropFirst_of_head hc.head_back, toList_back, Text.dropLast_self]
  | both => exact bare_both c

theorem Spells.sourceFile {c n : String} (h : Spells c n) (hc : Internal c) : sourceFile n = sourceFile c := by
  rw [ClassName.sourceFile, ClassName.sourceFile, h.bare hc, Spells.plain.bare hc]

theorem Spells.dotted {c n : String} (h : Spells c n) (hc : Internal c) : dotted n = dotted c := by
  rw [ClassName.dotted, ClassName.dotted, h.bare hc, Spells.plain.bare hc]

end ClassName

end CallGraph
