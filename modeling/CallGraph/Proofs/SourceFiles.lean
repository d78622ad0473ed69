import CallGraph.Proofs.ClassNames
import CallGraph.Proofs.Holdings
import CallGraph.Proofs.Lists
/-!
# The source file of a class

How a class of a package is led to its source file. The name is cut at its first `$`, wherever that stands: the package
and a part of the simple name are kept if the package has no `$` and the simple name does not begin with one, and only
then (`sourceFile_iff`). `sourceFile_spec` says what else holds: nested classes share the file of their top-level class,
and no text is read from the file of another package for being of the very name that is looked for.
-/

namespace CallGraph

namespace ClassName

/-- The name of a class `s` of package `p` with the mark in front, and with the mark behind if it is `closed`. -/
def ofPackage (p s : String) (closed : Bool) : String := "L" ++ p ++ "/" ++ s ++ if closed then ";" else ""

/-- The characters that are taken for the simple name. -/
def simpleName (s : String) (closed : Bool) : List Char := if closed then s.toList else Text.dropLast ';' s.toList

/-- A file stands right in the directory of a package. -/
def StandsIn (file p : String) : Prop := ∃ name : String, '/' ∉ name.toList ∧ file = p ++ "/" ++ name

theorem simpleName_isPrefix (s : String) (closed : Bool) : simpleName s closed <+: s.toList := by
  cases closed with
  | true => exact List.prefix_rfl
  | false => exact Text.dropLast_prefix ';' s.toList

/-! ## Cutting at the mark -/

theorem takeWhile_append_mark (cs rest : List Char) :
    (cs ++ '$' :: rest).takeWhile (· ≠ '$') = cs.takeWhile (· ≠ '$') := by
  induction cs with
  | nil => simp
  | cons c cs ih => simp only [List.cons_append, List.takeWhile_cons, ih]

theorem takeWhile_of_notMem {cs : List Char} (h : '$' ∉ cs) (rest : List Char) :
    (cs ++ rest).takeWhile (· ≠ '$') = cs ++ rest.takeWhile (· ≠ '$') := by
  refine List.takeWhile_append_of_pos fun c hc => ?_
  have hne : c ≠ '$' := ne_of_mem_of_not_mem hc h
  simpa using hne

theorem takeWhile_eq_nil_iff (cs : List Char) : cs.takeWhile (· ≠ '$') = [] ↔ cs = [] ∨ cs.head? = some '$' := by
  cases cs with
  | nil => simp
  | cons c cs => by_cases hc : c = '$' <;> simp [hc]

theorem simpleName_eq_nil_iff {s : String} (hs : s ≠ "") (closed : Bool) :
    simpleName s closed = [] ↔ closed = false ∧ s = ";" := by
  have hsemicolon : s = ";" ↔ s.toList = [';'] := String.toList_inj.symm
  have hne : s.toList ≠ [] := by simpa using hs
  rw [hsemicolon]
  cases closed with
  | true => simpa [simpleName] using hs
  | false =>
    rw [simpleName, if_neg Bool.false_ne_true, Text.dropLast]
    rcases List.eq_nil_or_concat s.toList with hnil | ⟨cs, c, hcs⟩
    · exact absurd hnil hne
    · rw [hcs]
      by_cases hc : c = ';' <;> simp [hc, List.append_eq_singleton_iff]

/-- What is left of the simple name is empty if and only if it is empty as it stands, or begins with the mark. -/
theorem takeWhile_simpleName_eq_nil_iff {s : String} (hs : s ≠ "") (closed : Bool) :
    (simpleName s closed).takeWhile (· ≠ '$') = [] ↔ s.toList.head? = some '$' ∨ (closed = false ∧ s = ";") := by
  rw [takeWhile_eq_nil_iff, ← simpleName_eq_nil_iff hs closed]
  obtain ⟨rest, hrest⟩ := simpleName_isPrefix s closed
  cases hname : simpleName s closed with
  | nil => simp
  | cons c cs =>
    rw [hname] at hrest
    simp [← hrest]

theorem bare_ofPackage (p s : String) (closed : Bool) :
    bare (ofPackage p s closed) = p.toList ++ '/' :: simpleName s closed := by
  have hsplit : "L" ++ p ++ "/" ++ s = "L" ++ (p ++ "/" ++ s) := by simp only [String.append_assoc]
  have hchars : (p ++ "/" ++ s).toList = p.toList ++ '/' :: s.toList := by simp
  cases closed with
  | true =>
    rw [ofPackage, if_pos rfl, hsplit, bare_both, hchars]
    rfl
  | false =>
    rw [ofPackage, if_neg Bool.false_ne_true, String.append_empty, hsplit, bare_front, hchars,
      Text.dropLast_append_cons (by decide)]
    rfl

/-- A package without a mark is kept. -/
theorem sourceFile_of_notMem {p : String} (hp : '$' ∉ p.toList) (s : String) (closed : Bool) :
    sourceFile (ofPackage p s closed) =
      p ++ "/" ++ String.ofList ((simpleName s closed).takeWhile (· ≠ '$')) ++ ".java" := by
  rw [sourceFile, bare_ofPackage, takeWhile_of_notMem hp, List.takeWhile_cons_of_pos (by decide)]
  rw [← String.toList_inj]
  simp

/-- A package with a mark is cut there, and the simple name goes. -/
theorem sourceFile_of_mark {p : String} {front rest : List Char} (hp : p.toList = front ++ '$' :: rest)
    (hfront : '$' ∉ front) (s : String) (closed : Bool) :
    sourceFile (ofPackage p s closed) = String.ofList front ++ ".java" := by
  have hall := takeWhile_of_notMem hfront []
  rw [List.append_nil] at hall
  rw [sourceFile, bare_ofPackage, hp, List.append_assoc, List.cons_append, takeWhile_append_mark, hall]
  simp

/-- A nested class has the file of its top-level class. -/
theorem sourceFile_nested (p t rest : String) (closed : Bool) {closed' : Bool}
    (ht : closed' = false → t.toList.getLast? ≠ some ';') :
    sourceFile (ofPackage p (t ++ "$" ++ rest) closed) = sourceFile (ofPackage p t closed') := by
  have hname : simpleName (t ++ "$" ++ rest) closed = t.toList ++ '$' :: simpleName rest closed := by
    have hchars : (t ++ "$" ++ rest).toList = t.toList ++ '$' :: rest.toList := by simp
    cases closed with
    | true => exact hchars
    | false => exact (congrArg (Text.dropLast ';') hchars).trans (Text.dropLast_append_cons (by decide) _ _)
  have hname' : simpleName t closed' = t.toList := by
    cases closed' with
    | true => rfl
    | false => exact Text.dropLast_of_last (ht rfl)
  have hsplit : p.toList ++ '/' :: (t.toList ++ '$' :: simpleName rest closed) =
      (p.toList ++ '/' :: t.toList) ++ '$' :: simpleName rest closed := by simp
  rw [sourceFile, sourceFile, bare_ofPackage, bare_ofPackage, hname, hname', hsplit, takeWhile_append_mark]

/-! ## Packages -/

/-- A file stands in one directory only. -/
theorem StandsIn.unique {file p q : String} (hp : StandsIn file p) (hq : StandsIn file q) : p = q := by
  obtain ⟨name, hname, rfl⟩ := hp
  obtain ⟨name', hname', heq⟩ := hq
  have hchars := congrArg String.toList heq
  simp only [String.toList_append, List.append_assoc] at hchars
  exact String.toList_inj.1 (append_cons_inj_last hname hname' hchars).1

theorem sourceFile_standsIn {p s : String} (hp : '$' ∉ p.toList) (hs : '/' ∉ s.toList) (closed : Bool) :
    StandsIn (sourceFile (ofPackage p s closed)) p := by
  have hsub : (simpleName s closed).takeWhile (· ≠ '$') ⊆ s.toList :=
    ((List.takeWhile_prefix _).trans (simpleName_isPrefix s closed)).subset
  refine ⟨String.ofList ((simpleName s closed).takeWhile (· ≠ '$')) ++ ".java", ?_, ?_⟩
  · rw [String.toList_append, String.toList_ofList, List.mem_append, not_or]
    exact ⟨fun hmem => hs (hsub hmem), by decide⟩
  · rw [sourceFile_of_notMem hp, String.append_assoc]

/-- The source file is named by the package and a part of the simple name that is not empty, if and only if the package
has no mark and the simple name begins with something else. -/
theorem sourceFile_iff {p s : String} (hs : s ≠ "") (closed : Bool) :
    (∃ t : String, t ≠ "" ∧ t.toList <+: s.toList ∧ sourceFile (ofPackage p s closed) = p ++ "/" ++ t ++ ".java") ↔
      '$' ∉ p.toList ∧ s.toList.head? ≠ some '$' ∧ (closed = false → s ≠ ";") := by
  have hempty := takeWhile_simpleName_eq_nil_iff hs closed
  constructor
  · rintro ⟨t, ht, -, hfile⟩
    have hp : '$' ∉ p.toList := by
      -- A name that is cut inside the package is too short.
      intro hmem
      obtain ⟨front, rest, hsplit, hfront⟩ := List.eq_append_cons_of_mem hmem
      rw [sourceFile_of_mark hsplit hfront] at hfile
      have hlength := congrArg (fun file : String => file.toList.length) hfile
      simp [hsplit] at hlength
      omega
    rw [sourceFile_of_notMem hp, String.append_left_inj, String.append_right_inj] at hfile
    have hnot := mt hempty.2 fun hnil => ht (by rw [← hfile, hnil])
    rw [not_or] at hnot
    exact ⟨hp, hnot.1, fun hopen heq => hnot.2 ⟨hopen, heq⟩⟩
  · rintro ⟨hp, hhead, hopen⟩
    refine ⟨String.ofList ((simpleName s closed).takeWhile (· ≠ '$')), ?_, ?_, sourceFile_of_notMem hp s closed⟩
    · intro hnil
      have hnil : (simpleName s closed).takeWhile (· ≠ '$') = [] := by simpa using congrArg String.toList hnil
      rcases hempty.1 hnil with hmark | ⟨hfalse, heq⟩
      · exact hhead hmark
      · exact hopen hfalse heq
    · rw [String.toList_ofList]
      exact (List.takeWhile_prefix _).trans (simpleName_isPrefix s closed)

end ClassName

/-! ## Reading -/

theorem firstLine_eq_some {candidate : String} {line : UInt32} {hs : List Holding} {text : String}
    (h : firstLine candidate line hs = some text) :
    ∃ held ∈ hs, ∃ entry lines, Archive.findEntry? held.entries candidate = some entry ∧
      held.lines entry = some lines ∧ lines[line.toNat - 1]? = some text := by
  induction hs with
  | nil => cases h
  | cons held rest ih =>
    rw [firstLine] at h
    split at h
    · obtain ⟨held', hmem, hfound⟩ := ih h
      exact ⟨held', List.mem_cons_of_mem _ hmem, hfound⟩
    · next entry hentry =>
      obtain ⟨lines, hlines, hline⟩ := Option.bind_eq_some_iff.1 h
      split at hline
      · cases hline
      · exact ⟨held, List.mem_cons_self, entry, lines, hentry, hlines, hline⟩

/-! ## Main theorem -/

open ClassName in
/-- The source file is named by the package and a part of the simple name just under the condition given; nested classes
share that of their top-level class. Without a `$` in packages, classes of different packages have different files, and
an entry of the very name of the file, from which the text of a line is read, stands in no other package. A package with
a `$` is cut there. -/
theorem sourceFile_spec {p s : String} (hs : s ≠ "") (hslash : '/' ∉ s.toList) (closed : Bool) :
    ((∃ t : String, t ≠ "" ∧ t.toList <+: s.toList ∧ sourceFile (ofPackage p s closed) = p ++ "/" ++ t ++ ".java") ↔
        '$' ∉ p.toList ∧ s.toList.head? ≠ some '$' ∧ (closed = false → s ≠ ";")) ∧
      (∀ (t rest : String) (closed' : Bool), s = t ++ "$" ++ rest →
        (closed' = false → t.toList.getLast? ≠ some ';') →
        sourceFile (ofPackage p s closed) = sourceFile (ofPackage p t closed')) ∧
      ('$' ∉ p.toList →
        (∀ (p' s' : String) (closed' : Bool), '$' ∉ p'.toList → '/' ∉ s'.toList →
          sourceFile (ofPackage p' s' closed') = sourceFile (ofPackage p s closed) → p' = p) ∧
        ∀ (loc : Locator) (files : FileTree) (line : UInt32) (text : String),
          (loc.textOf files (ofPackage p s closed) line).1 = some text →
          ∀ held : List Holding,
            List.Forall₂ Shelf.Agrees (loc.textOf files (ofPackage p s closed) line).2.shelves held →
            ∃ h ∈ held, ∃ entry lines, Archive.findEntry? h.entries (sourceFile (ofPackage p s closed)) = some entry ∧
              h.lines entry = some lines ∧ lines[line.toNat - 1]? = some text ∧
              (entry = sourceFile (ofPackage p s closed) → ∀ q, StandsIn entry q → q = p)) ∧
      ∀ front rest : List Char, p.toList = front ++ '$' :: rest → '$' ∉ front →
        sourceFile (ofPackage p s closed) = String.ofList front ++ ".java" := by
  refine ⟨sourceFile_iff hs closed, ?_, fun hp => ⟨?_, ?_⟩, fun front rest hsplit hfront =>
    sourceFile_of_mark hsplit hfront s closed⟩
  · rintro t rest closed' rfl ht
    exact sourceFile_nested p t rest closed ht
  · intro p' s' closed' hp' hslash' hsame
    have hstands := sourceFile_standsIn hp' hslash' closed'
    rw [hsame] at hstands
    exact hstands.unique (sourceFile_standsIn hp hslash closed)
  · intro loc files line text htext held hagrees
    obtain ⟨-, hsearch⟩ := Shelf.search_agrees files _ line hagrees
    obtain ⟨h, hmem, entry, lines, hentry, hlines, hline⟩ := firstLine_eq_some (hsearch.symm.trans htext)
    refine ⟨h, hmem, entry, lines, hentry, hlines, hline, ?_⟩
    rintro rfl q hq
    exact hq.unique (sourceFile_standsIn hp hslash closed)

namespace ClassName

/-- An anonymous class has the file of the class around it. -/
theorem sourceFile_anonymous :
    (∃ t : String, t ≠ "" ∧ t.toList <+: "App$1".toList ∧
      sourceFile (ofPackage "com/acme" "App$1" false) = "com/acme" ++ "/" ++ t ++ ".java") ∧
    sourceFile (ofPackage "com/acme" "App$1" false) = sourceFile (ofPackage "com/acme" "App" true) := by
  obtain ⟨hfile, hnested, -⟩ := sourceFile_spec (p := "com/acme") (s := "App$1") (by decide) (by decide) false
  exact ⟨hfile.2 (by decide), hnested "App" "1" true (by decide) (by decide)⟩

/-- The generated class `$AutoValue_X` is led to a file without a name, and a class of package `com/a$b` to the file of
class `a` in package `com`. -/
theorem sourceFile_generated :
    (¬∃ t : String, t ≠ "" ∧ t.toList <+: "$AutoValue_X".toList ∧
      sourceFile (ofPackage "com/acme" "$AutoValue_X" false) = "com/acme" ++ "/" ++ t ++ ".java") ∧
    sourceFile (ofPackage "com/a$b" "X" true) = sourceFile (ofPackage "com" "a" true) := by
  refine ⟨?_, by decide⟩
  rintro ⟨t, ht, -, hfile⟩
  have hnameless : sourceFile (ofPackage "com/acme" "$AutoValue_X" false) = "com/acme" ++ "/" ++ "" ++ ".java" := by
    decide
  rw [hnameless, String.append_left_inj, String.append_right_inj] at hfile
  exact ht hfile.symm

end ClassName

end CallGraph
