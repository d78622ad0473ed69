import CallGraph.Proofs.Directories
import CallGraph.Source.Archive
/-!
# The entry for a source file

The names of entries are components between slashes, and a source file lies below a source root if the last components of
a name are its own. That is seen from the characters: the name then ends in the name of the source file, and if it is not
that very name, a slash stands before (`components_suffix_iff`). So the entry found is the one that the components say:
`found_by_components`.
-/

namespace CallGraph.Archive

/-! ## Components -/

/-- What stands between the slashes of a name. Stretches can be empty. -/
def components (name : String) : List (List Char) := name.toList.splitOn '/'

/-- A name that ends in that of the source file, after a slash. -/
def EndsIn (candidate name : String) : Prop := '/' :: candidate.toList <:+ name.toList

instance (candidate name : String) : Decidable (EndsIn candidate name) :=
  inferInstanceAs (Decidable ('/' :: candidate.toList <:+ name.toList))

theorem splitOn_inj {cs ds : List Char} (h : cs.splitOn '/' = ds.splitOn '/') : cs = ds := by
  have hjoin := congrArg ['/'].intercalate h
  rwa [List.intercalate_splitOn, List.intercalate_splitOn] at hjoin

theorem components_suffix_iff {candidate name : String} :
    components candidate <:+ components name ↔ name = candidate ∨ EndsIn candidate name := by
  constructor
  · rintro ⟨front, hsplit⟩
    by_cases hfront : front = []
    · subst hfront
      exact .inl (String.toList_inj.1 (splitOn_inj hsplit.symm))
    · -- What the components in front join to has just these components.
      have hslash : ∀ part ∈ front, '/' ∉ part := fun part hpart =>
        Path.notMem_of_mem_splitOn (hsplit ▸ List.mem_append_left _ hpart)
      refine .inr ⟨['/'].intercalate front, splitOn_inj ?_⟩
      rw [List.splitOn_append_cons_self, List.splitOn_intercalate '/' hslash hfront]
      exact hsplit
  · rintro (rfl | ⟨front, hsplit⟩)
    · exact List.suffix_rfl
    · rw [components, components, ← hsplit, List.splitOn_append_cons_self]
      exact List.suffix_append _ _

/-! ## What is found -/

section
variable {names : List String} {candidate : String}

theorem findEntry?_eq (names : List String) (candidate : String) :
    findEntry? names candidate =
      if candidate ∈ names then some candidate
      else if '/' ∈ candidate.toList then names.find? fun name => ('/' :: candidate.toList).isSuffixOf name.toList
      else none := by
  rw [ findEntry?]
  cases hfound : names.find? (· = candidate) with
  | some name =>
    obtain rfl : name = candidate := by simpa using (List.find?_eq_some_iff_append.1 hfound).1
    rw [if_pos (List.mem_of_find?_eq_some hfound)]
  | none =>
    have hmem : candidate ∉ names := fun hmem => by simpa using List.find?_eq_none.1 hfound candidate hmem
    simp only [hmem, List.contains_eq_mem, decide_eq_true_eq, if_false]

theorem findEntry?_of_mem (hmem : candidate ∈ names) : findEntry? names candidate = some candidate := by
  rw [findEntry?_eq, if_pos hmem]

/-- A source file that is not listed itself is looked for below source roots, and the first name that ends in it is
taken. -/
theorem findEntry?_eq_some_iff_of_notMem (hnot : candidate ∉ names) {name : String} :
    findEntry? names candidate = some name ↔
      '/' ∈ candidate.toList ∧ ∃ before after, names = before ++ name :: after ∧ EndsIn candidate name ∧
        ∀ other ∈ before, ¬EndsIn candidate other := by
  rw [findEntry?_eq, if_neg hnot]
  by_cases hslash : '/' ∈ candidate.toList
  · rw [if_pos hslash, List.find?_eq_some_iff_append]
    simp only [List.isSuffixOf_iff_suffix, Bool.not_eq_true', ← Bool.not_eq_true, EndsIn, hslash, true_and]
    constructor
    · rintro ⟨hends, before, after, hsplit, hbefore⟩
      exact ⟨before, after, hsplit, hends, hbefore⟩
    · rintro ⟨before, after, hsplit, hends, hbefore⟩
      exact ⟨hends, before, after, hsplit, hbefore⟩
  · simp [hslash]

theorem findEntry?_eq_none_iff :
    findEntry? names candidate = none ↔
      candidate ∉ names ∧ ('/' ∈ candidate.toList → ∀ name ∈ names, ¬EndsIn candidate name) := by
  rw [findEntry?_eq]
  split
  · next hmem => simp [hmem]
  · next hmem =>
    split
    · next hslash => simp [hmem, hslash, EndsIn, List.find?_eq_none]
    · next hslash => simp [hmem, hslash]

/-- Unless the very name is listed, the components of a listed name end in those of the file just if the name does. -/
theorem components_suffix_iff_of_listed (hnot : candidate ∉ names) {name : String} (hmem : name ∈ names) :
    components candidate <:+ components name ↔ EndsIn candidate name := by
  rw [components_suffix_iff, or_iff_right (ne_of_mem_of_not_mem hmem hnot)]

/-- What is found is the very name, or else the first name that ends in it. -/
theorem cases_of_found {name : String} (h : findEntry? names candidate = some name) :
    candidate ∈ names ∧ name = candidate ∨
      candidate ∉ names ∧ '/' ∈ candidate.toList ∧ ∃ before after, names = before ++ name :: after ∧
        EndsIn candidate name ∧ ∀ other ∈ before, ¬EndsIn candidate other := by
  by_cases hmem : candidate ∈ names
  · rw [findEntry?_of_mem hmem] at h
    exact .inl ⟨hmem, (Option.some.inj h).symm⟩
  · exact .inr ⟨hmem, (findEntry?_eq_some_iff_of_notMem hmem).1 h⟩

theorem components_suffix_of_found {name : String} (h : findEntry? names candidate = some name) :
    name ∈ names ∧ components candidate <:+ components name := by
  rcases cases_of_found h with ⟨hmem, rfl⟩ | ⟨-, -, before, after, rfl, hends, -⟩
  · exact ⟨hmem, List.suffix_rfl⟩
  · exact ⟨by simp, components_suffix_iff.2 (.inr hends)⟩

theorem eq_of_found (hslash : '/' ∉ candidate.toList) {name : String} (h : findEntry? names candidate = some name) :
    name = candidate := by
  rcases cases_of_found h with ⟨-, heq⟩ | ⟨-, hmem, -⟩
  · exact heq
  · exact absurd hmem hslash

end

/-! ## Main theorem -/

/-- The name is one under which the source file can lie: its own, or one that ends in its components. A file of the
default package, which has one component, would be found in every package that way, so only its own name counts. -/
def Qualifies (candidate name : String) : Prop :=
  name = candidate ∨ '/' ∈ candidate.toList ∧ components candidate <:+ components name

/-- What is found is listed, and ends in the components of the source file. If the very name is listed, it is what is
found; a source file of the default package is found under no other. Any other source file that is not listed itself is
found under the first name that ends in its components. Nothing is found just if no name that is listed qualifies. -/
theorem found_by_components (names : List String) (candidate : String) :
    (∀ name, findEntry? names candidate = some name → name ∈ names ∧ components candidate <:+ components name) ∧
      (candidate ∈ names → findEntry? names candidate = some candidate) ∧
      ('/' ∉ candidate.toList → ∀ name, findEntry? names candidate = some name → name = candidate) ∧
      ('/' ∈ candidate.toList → candidate ∉ names → ∀ name, findEntry? names candidate = some name ↔
        ∃ before after, names = before ++ name :: after ∧ components candidate <:+ components name ∧
          ∀ other ∈ before, ¬components candidate <:+ components other) ∧
      ((∀ name ∈ names, ¬Qualifies candidate name) ↔ findEntry? names candidate = none) := by
  refine ⟨fun name => components_suffix_of_found, findEntry?_of_mem, fun hslash name => eq_of_found hslash,
    fun hslash hnot name => ?_, ?_⟩
  · rw [findEntry?_eq_some_iff_of_notMem hnot, and_iff_right hslash]
    refine exists_congr fun before => exists_congr fun after => and_congr_right ?_
    rintro rfl
    refine and_congr (components_suffix_iff_of_listed hnot (by simp)).symm (forall₂_congr fun other hother => ?_)
    exact not_congr (components_suffix_iff_of_listed hnot (List.mem_append_left _ hother)).symm
  · rw [findEntry?_eq_none_iff]
    constructor
    · intro hnone
      refine ⟨fun hmem => hnone candidate hmem (.inl rfl), fun hslash name hmem hends => ?_⟩
      exact hnone name hmem (.inr ⟨hslash, components_suffix_iff.2 (.inr hends)⟩)
    · rintro ⟨hnot, hnone⟩ name hmem (rfl | ⟨hslash, hsuffix⟩)
      · exact hnot hmem
      · exact hnone hslash name hmem ((components_suffix_iff_of_listed hnot hmem).1 hsuffix)

/-- The very name is found behind a longer one, and part of a component is no component. -/
example :
    findEntry? ["src/com/acme/App.java", "com/acme/App.java"] "com/acme/App.java" = some "com/acme/App.java" ∧
      findEntry? ["src/com/acme/App.java"] "me/App.java" = none := by
  decide

end CallGraph.Archive
