import CallGraph.Proofs.Written
/-!
# Statements that are written

A document is written line by line and read line by line. What `Spelled` says of a text is weaker than that it was
written: the statements stand in it as they are written, with any number of empty lines between them. Still it is read as
just these statements, `statements?_spelled`.
-/

namespace CallGraph.Toml

/-! ## Keys -/

/-- A name that needs no quotes. -/
structure Bare (name : String) : Prop where
  ne_nil : name.toList ≠ []
  all : ∀ c ∈ name.toList, isBare c = true

instance (name : String) : Decidable (Bare name) :=
  decidable_of_iff (name.toList ≠ [] ∧ name.toList.all isBare = true)
    ⟨fun h => ⟨h.1, List.all_eq_true.1 h.2⟩, fun h => ⟨h.ne_nil, List.all_eq_true.2 h.all⟩⟩

theorem Bare.written {name : String} (h : Bare name) : (⟨[], name⟩ : Key).written = name.toList := by
  have hplain : (name.toList.isEmpty || name.toList.any (!isBare ·)) = false := by
    have hne := h.ne_nil
    have hall := h.all
    simpa [hne] using hall
  have hkey : keyText name = name.toList := by
    rw [keyText]
    simp only [hplain]
    rfl
  simp [Key.written, Key.parts, hkey]

theorem Bare.head {name : String} (h : Bare name) : ∃ c cs, name.toList = c :: cs ∧ isBare c = true := by
  cases hname : name.toList with
  | nil => exact absurd hname h.ne_nil
  | cons c cs => exact ⟨c, cs, rfl, h.all c (hname ▸ List.mem_cons_self)⟩

/-- A bare character is none of the marks. -/
theorem ne_of_isBare {c : Char} (hc : isBare c = true) {d : Char} (hd : isBare d = false) : c ≠ d := by
  rintro rfl
  rw [hc] at hd
  nomatch hd

theorem skipBlanks_of_head {c : Char} (hc : isBlank c = false) (cs : List Char) : skipBlanks (c :: cs) = c :: cs := by
  rw [skipBlanks, List.dropWhile_cons_of_neg (by simpa using hc)]

theorem isBlank_of_isBare {c : Char} (hc : isBare c = true) : isBlank c = false := by
  simp [isBlank, ne_of_isBare hc (d := ' ') (by decide), ne_of_isBare hc (d := '\t') (by decide)]

/-- A bare name is read up to the character behind it. -/
theorem keyPart?_bare {name : String} (h : Bare name) {c : Char} (hc : isBare c = false) (rest : List Char) :
    keyPart? (name.toList ++ c :: rest) = some (name, c :: rest) := by
  obtain ⟨d, ds, hname, hd⟩ := h.head
  have hquoted : Quoted.quoted? (name.toList ++ c :: rest) = none := by
    rw [hname, List.cons_append]
    unfold Quoted.quoted?
    split
    · next heq => exact absurd (List.cons.inj heq).1 (ne_of_isBare hd (by decide))
    · next heq => exact absurd (List.cons.inj heq).1 (ne_of_isBare hd (by decide))
    · rfl
  have htake : (name.toList ++ c :: rest).takeWhile isBare = name.toList := by
    rw [List.takeWhile_append_of_pos h.all, List.takeWhile_cons_of_neg (by simpa using hc), List.append_nil]
  have hdrop : (name.toList ++ c :: rest).dropWhile isBare = c :: rest := by
    rw [List.dropWhile_append_of_pos h.all, List.dropWhile_cons_of_neg (by simpa using hc)]
  rw [keyPart?, hquoted]
  dsimp only
  rw [htake, hdrop, if_neg (by simpa using h.ne_nil), String.ofList_toList]

theorem key?_bare {name : String} (h : Bare name) {c : Char} (hc : isBare c = false) (rest : List Char)
    (hdot : (skipBlanks (c :: rest)).head? ≠ some '.') :
    key? (name.toList ++ c :: rest) = some (⟨[], name⟩, skipBlanks (c :: rest)) := by
  obtain ⟨d, ds, hname, hd⟩ := h.head
  have hskip : skipBlanks (name.toList ++ c :: rest) = name.toList ++ c :: rest := by
    rw [hname, List.cons_append, skipBlanks_of_head (isBlank_of_isBare hd)]
  have hparts : keyParts? (depthLimit - 1) (name.toList ++ c :: rest) = some ([name], skipBlanks (c :: rest)) := by
    rw [show depthLimit - 1 = 78 + 1 from rfl, keyParts?, hskip, keyPart?_bare h hc rest]
    dsimp only
    split
    · next heq =>
      rw [heq] at hdot
      exact absurd rfl hdot
    · rfl
  rw [key?, hparts]
  rfl

/-! ## Statements -/

/-- A statement about a bare name: the header of one table, or an assignment of a listed value. -/
inductive Statement.Plain : Statement → Prop
  | header {name : String} (h : Bare name) : Plain (.header ⟨⟨[], name⟩, false⟩)
  | assign {name : String} {v : Toml} (h : Bare name) (hv : Listed v) : Plain (.assign ⟨⟨[], name⟩, v⟩)

/-- What is written for a statement, without empty lines and without the end of its line. -/
def Statement.line? : Statement → Option (List Char)
  | .assign a => a.written?
  | .header h => some h.written

/-- A text in which statements stand as they are written, each on lines of its own, with empty lines anywhere. -/
inductive Spelled : List Statement → List Char → Prop
  | nil : Spelled [] []
  | empty {statements : List Statement} {text : List Char} (h : Spelled statements text) :
      Spelled statements ('\n' :: text)
  | line {s : Statement} {line : List Char} {statements : List Statement} {text : List Char} (hs : s.line? = some line)
      (h : Spelled statements text) : Spelled (s :: statements) (line ++ '\n' :: text)

theorem header?_written {name : String} (h : Bare name) (rest : List Char) :
    header? ((⟨⟨[], name⟩, false⟩ : Header).written ++ '\n' :: rest) = some (⟨⟨[], name⟩, false⟩, '\n' :: rest) := by
  have hkey := key?_bare h (c := ']') (by decide) ('\n' :: rest) (by simp [skipBlanks, isBlank])
  have htext : (⟨⟨[], name⟩, false⟩ : Header).written ++ '\n' :: rest =
      '[' :: (name.toList ++ ']' :: '\n' :: rest) := by
    simp [Header.written, h.written]
  obtain ⟨c, cs, hname, hc⟩ := h.head
  rw [htext]
  unfold header?
  split
  · next heq =>
    rw [hname] at heq
    exact absurd (List.cons.inj (List.cons.inj heq).2).1 (ne_of_isBare hc (by decide))
  · next heq =>
    rw [← (List.cons.inj heq).2, hkey]
    rfl
  · next hother => exact absurd rfl (hother _)

theorem assignment?_written {name : String} (h : Bare name) {v : Toml} (hv : Listed v) {line : List Char}
    (hline : (⟨⟨[], name⟩, v⟩ : Assignment).written? = some line) (rest : List Char) :
    assignment? (line ++ '\n' :: rest) = some (⟨⟨[], name⟩, v⟩, '\n' :: rest) := by
  obtain ⟨w, hw, rfl⟩ := Option.map_eq_some_iff.1 hline
  obtain ⟨c, cs, hhead, hc⟩ := written?_head hv hw
  have htext : (⟨[], name⟩ : Key).written ++ [' ', '=', ' '] ++ w ++ '\n' :: rest =
      name.toList ++ ' ' :: '=' :: ' ' :: (w ++ '\n' :: rest) := by
    simp [h.written]
  have hkey := key?_bare h (c := ' ') (by decide) ('=' :: ' ' :: (w ++ '\n' :: rest))
    (by simp [skipBlanks, isBlank])
  have hequals : skipBlanks (' ' :: '=' :: ' ' :: (w ++ '\n' :: rest)) = '=' :: ' ' :: (w ++ '\n' :: rest) := by
    simp [skipBlanks, isBlank]
  have hvalue : skipBlanks (' ' :: (w ++ '\n' :: rest)) = w ++ '\n' :: rest := by
    have hskip := skipBlanks_of_head hc (cs ++ '\n' :: rest)
    rw [hhead, List.cons_append]
    simpa [skipBlanks, isBlank] using hskip
  have hread : value? (2 * (' ' :: (w ++ '\n' :: rest)).length + 2) 0 (w ++ '\n' :: rest) = some (v, '\n' :: rest) := by
    apply value?_written hv hw (ends_of_head (.inl rfl) rest)
    simp only [List.length_cons, List.length_append]
    omega
  rw [htext, assignment?, hkey, hequals]
  simp only [Option.bind_eq_bind, Option.bind_some, mark?, if_true, hvalue, hread, Option.pure_def]

/-- The first character of a statement is no blank, no line end and no mark of a comment. -/
theorem Statement.Plain.line_head {s : Statement} (h : s.Plain) {line : List Char} (hline : s.line? = some line) :
    ∃ c cs, line = c :: cs ∧ (c = '[' ∨ isBare c = true) := by
  cases h with
  | @header name h => exact ⟨'[', _, (Option.some.inj hline).symm, .inl rfl⟩
  | @assign name v h hv =>
    obtain ⟨w, -, rfl⟩ := Option.map_eq_some_iff.1 hline
    obtain ⟨c, cs, hname, hc⟩ := h.head
    rw [h.written, hname]
    exact ⟨c, _, rfl, .inr hc⟩

theorem statement?_line {s : Statement} (h : s.Plain) {line : List Char} (hline : s.line? = some line)
    (rest : List Char) : statement? (line ++ '\n' :: rest) = some (s, rest) := by
  have hend : afterLine? false ('\n' :: rest) = some rest := by simp [afterLine?]
  cases h with
  | @header name h =>
    obtain rfl : (⟨⟨[], name⟩, false⟩ : Header).written = line := Option.some.inj hline
    have hread := header?_written h rest
    have hopen : ((⟨⟨[], name⟩, false⟩ : Header).written ++ '\n' :: rest).head? = some '[' := rfl
    rw [statement?, if_pos hopen, hread]
    dsimp only [Option.map_some]
    rw [hend]
    rfl
  | @assign name v h hv =>
    have hread := assignment?_written h hv hline rest
    have hne : (line ++ '\n' :: rest).head? ≠ some '[' := by
      obtain ⟨w, -, rfl⟩ := Option.map_eq_some_iff.1 hline
      obtain ⟨c, cs, hname, hc⟩ := h.head
      rw [h.written, hname]
      intro heq
      exact ne_of_isBare hc (by decide) (Option.some.inj heq)
    rw [statement?, if_neg hne, hread]
    dsimp only [Option.map_some]
    rw [hend]
    rfl

theorem statements?_empty (fuel : Nat) (rest : List Char) : statements? (fuel + 1) ('\n' :: rest) = statements? fuel rest :=
  rfl

/-- A statement that stands on a line of its own is the next one that is read. -/
theorem statements?_line {s : Statement} (h : s.Plain) {line : List Char} (hline : s.line? = some line) (fuel : Nat)
    (rest : List Char) : statements? (fuel + 1) (line ++ '\n' :: rest) = (statements? fuel rest).map (s :: ·) := by
  have hread := statement?_line h hline rest
  obtain ⟨c, cs, rfl, hc⟩ := h.line_head hline
  have hother : isBlank c = false ∧ c ≠ '\n' ∧ c ≠ '\r' ∧ c ≠ '#' := by
    rcases hc with rfl | hc
    · decide
    · refine ⟨isBlank_of_isBare hc, ?_, ?_, ?_⟩
      · exact ne_of_isBare hc (by decide)
      · exact ne_of_isBare hc (by decide)
      · exact ne_of_isBare hc (by decide)
  obtain ⟨hblank, hbreak, hreturn, hhash⟩ := hother
  have hend : afterLine? false (c :: cs ++ '\n' :: rest) = none := by
    rw [List.cons_append, afterLine?]
    simp [hbreak, hreturn, hblank, hhash]
  have hskip : skipBlanks (c :: cs ++ '\n' :: rest) = c :: cs ++ '\n' :: rest := by
    rw [List.cons_append, skipBlanks_of_head hblank]
  rw [statements?, hend]
  · dsimp only
    rw [hskip, hread]
  · simp

/-- The statements of a text are read, whatever empty lines stand between them. -/
theorem statements?_spelled {statements : List Statement} {text : List Char} (h : Spelled statements text)
    (hplain : ∀ s ∈ statements, s.Plain) {fuel : Nat} (hfuel : text.length ≤ fuel) :
    statements? fuel text = some statements := by
  induction h generalizing fuel with
  | nil => cases fuel <;> rfl
  | @empty statements text _ ih =>
    obtain ⟨fuel, rfl⟩ : ∃ k, fuel = k + 1 := ⟨fuel - 1, by simp only [List.length_cons] at hfuel; omega⟩
    rw [statements?_empty]
    exact ih hplain (by simpa using hfuel)
  | @line s line statements text hs _ ih =>
    rw [List.length_append, List.length_cons] at hfuel
    obtain ⟨fuel, rfl⟩ : ∃ k, fuel = k + 1 := ⟨fuel - 1, by omega⟩
    have hroom : text.length ≤ fuel := by omega
    have hrest := ih (fun t ht => hplain t (List.mem_cons_of_mem _ ht)) hroom
    rw [statements?_line (hplain s List.mem_cons_self) hs, hrest]
    rfl

/-- The lines of some statements can be taken out of a text. -/
theorem Spelled.sublist {statements : List Statement} {text : List Char} (h : Spelled statements text)
    {rest : List Statement} (hsub : rest.Sublist statements) : ∃ left, left.Sublist text ∧ Spelled rest left := by
  induction h generalizing rest with
  | nil =>
    obtain rfl := List.sublist_nil.1 hsub
    exact ⟨[], .slnil, .nil⟩
  | empty _ ih =>
    obtain ⟨left, hleft, hspelled⟩ := ih hsub
    exact ⟨left, .cons _ hleft, hspelled⟩
  | @line s line statements text hs _ ih =>
    cases hsub with
    | cons _ hsub =>
      obtain ⟨left, hleft, hspelled⟩ := ih hsub
      exact ⟨left, (hleft.cons '\n').trans (List.sublist_append_right _ _), hspelled⟩
    | cons_cons _ hsub =>
      obtain ⟨left, hleft, hspelled⟩ := ih hsub
      exact ⟨line ++ '\n' :: left, (hleft.cons_cons '\n').append_left line, .line hs hspelled⟩

/-! ## Documents -/

/-- What is written of a document is its statements. -/
theorem spelled_flatten {statements : List Statement} {lines : List (List Char)}
    (h : statements.mapM Statement.written? = some lines) : Spelled statements lines.flatten := by
  induction statements generalizing lines with
  | nil =>
    cases h
    exact .nil
  | cons s statements ih =>
    rw [List.mapM_cons] at h
    obtain ⟨line, hline, h⟩ := Option.bind_eq_some_iff.1 h
    obtain ⟨rest, hrest, h⟩ := Option.bind_eq_some_iff.1 h
    obtain rfl : line :: rest = lines := Option.some.inj h
    rw [List.flatten_cons]
    cases s with
    | assign a =>
      obtain ⟨text, htext, rfl⟩ := Option.map_eq_some_iff.1 hline
      rw [List.append_assoc, List.singleton_append]
      exact .line htext (ih hrest)
    | header header =>
      obtain rfl : '\n' :: header.written ++ ['\n'] = line := Option.some.inj hline
      rw [List.cons_append, List.cons_append, List.append_assoc, List.singleton_append]
      exact .empty (.line rfl (ih hrest))

theorem Spelled.head {statements : List Statement} {text : List Char} (h : Spelled statements text)
    (hplain : ∀ s ∈ statements, s.Plain) {c : Char} (hc : text.head? = some c) :
    c = '\n' ∨ c = '[' ∨ isBare c = true := by
  cases h with
  | nil => nomatch hc
  | empty => exact .inl (Option.some.inj hc).symm
  | @line s line statements text hs =>
    obtain ⟨d, ds, rfl, hd⟩ := (hplain s List.mem_cons_self).line_head hs
    obtain rfl : d = c := Option.some.inj hc
    exact .inr hd

/-- A line end in front of the statements can be dropped. -/
theorem Spelled.tail {statements : List Statement} {text : List Char} (h : Spelled statements ('\n' :: text))
    (hplain : ∀ s ∈ statements, s.Plain) : Spelled statements text := by
  generalize htext : '\n' :: text = whole at h
  cases h with
  | nil => nomatch htext
  | empty h =>
    obtain ⟨-, rfl⟩ := List.cons.inj htext
    exact h
  | @line s line statements text' hs h =>
    obtain ⟨c, cs, rfl, hc⟩ := (hplain s List.mem_cons_self).line_head hs
    obtain rfl := (List.cons.inj htext).1
    rcases hc with hc | hc
    · nomatch hc
    · nomatch hc

/-- A document of plain statements is read from any text in which they stand. -/
theorem Document.ofText?_spelled {d : Document} (hplain : ∀ s ∈ d.statements, s.Plain) {text : String}
    (h : Spelled d.statements text.toList) : ofText? text = some d := by
  have hmark : dropMark text.toList = text.toList := by
    rw [dropMark, if_neg]
    intro hhead
    rcases h.head hplain hhead with hc | hc | hc
    · nomatch hc
    · nomatch hc
    · nomatch hc
  rw [ofText?, hmark]
  rw [statements?_spelled h hplain (Nat.le_refl _), Option.map_some, ofStatements_statements]

/-- What is written of a document of plain statements is a text in which they stand. -/
theorem Document.spelled_text {d : Document} (hplain : ∀ s ∈ d.statements, s.Plain) {text : String}
    (h : d.text? = some text) : Spelled d.statements text.toList := by
  obtain ⟨lines, hlines, rfl⟩ := Option.map_eq_some_iff.1 h
  have hspelled := spelled_flatten hlines
  rw [String.toList_ofList]
  split
  · next rest heq =>
    rw [heq] at hspelled
    exact hspelled.tail hplain
  · exact hspelled

end CallGraph.Toml
