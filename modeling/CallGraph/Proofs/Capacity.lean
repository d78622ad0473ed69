import CallGraph.Output.Sink
import CallGraph.Proofs.Rows
/-!
# Writing until a sink is full

Some sinks take a number of bytes and no more: `Sink.Limited`. Whatever is written to one in steps, it has the first bytes
of it, `Limited.attempt`, wherever between or inside the pieces that ends. So the steps of a file of records succeed as
long as the text fits, and what a full sink has is a beginning of the file: `attempts_within`.
-/

namespace CallGraph

namespace Sink

variable {σ ε : Type} [Sink σ ε]

/-- A sink that takes `n` bytes. Of bytes that do not all fit it takes the first ones, and refuses the rest with `fault`.
`Has s bytes` says that `s` has taken `bytes`. -/
structure Limited (n : Nat) (fault : ε) (Has : σ → ByteArray → Prop) : Prop where
  takes : ∀ {s : σ} {taken : ByteArray} (bytes : ByteArray), Has s taken → taken.size + bytes.size ≤ n →
    ∃ s', write s bytes = (.ok (), s') ∧ Has s' (taken ++ bytes)
  refuses : ∀ {s : σ} {taken : ByteArray} (bytes : ByteArray), Has s taken → n < taken.size + bytes.size →
    ∃ s', write s bytes = (.error fault, s') ∧ Has s' ((taken ++ bytes).extract 0 n)

/-- What comes of steps that are taken in order, each whether or not one before it failed, and the sink behind each. -/
def attempts : List (List String) → σ → List (Except ε Unit × σ)
  | [], _ => []
  | pieces :: rest, s => Sink.writeAll pieces s :: attempts rest (Sink.writeAll pieces s).2

theorem length_attempts (steps : List (List String)) (s : σ) : (attempts steps s).length = steps.length := by
  induction steps generalizing s with
  | nil => rfl
  | cons pieces rest ih => simp [attempts, ih]

/-- What the first `k` steps write. -/
def textOf (steps : List (List String)) (k : Nat) : String := String.join (steps.take k).flatten

theorem textOf_cons (pieces : List String) (rest : List (List String)) (k : Nat) :
    textOf (pieces :: rest) (k + 1) = String.join pieces ++ textOf rest k := by
  simp [textOf]

theorem textOf_succ {steps : List (List String)} {k : Nat} {pieces : List String} (hk : steps[k]? = some pieces) :
    textOf steps (k + 1) = textOf steps k ++ String.join pieces := by
  rw [textOf, List.take_add_one, hk, Option.toList_some, List.flatten_append, List.flatten_singleton, String.join_append,
    textOf]

section
variable {n : Nat} {fault : ε} {Has : σ → ByteArray → Prop}

/-- What is no longer than `n` is its own beginning. -/
theorem extract_of_size_le {bytes : ByteArray} (h : bytes.size ≤ n) : bytes.extract 0 n = bytes := by
  rw [← Nat.max_eq_left h, ByteArray.extract_zero_max_size]

theorem extract_append_of_le {before : ByteArray} (h : n ≤ before.size) (bytes : ByteArray) :
    (before ++ bytes).extract 0 n = before.extract 0 n := by
  rw [ByteArray.extract_append, Nat.sub_eq_zero_of_le h, Nat.zero_sub, ByteArray.extract_same, ByteArray.append_empty]

theorem extract_extract_append (before bytes : ByteArray) (n : Nat) :
    (before.extract 0 n ++ bytes).extract 0 n = (before ++ bytes).extract 0 n := by
  rcases Nat.le_total before.size n with h | h
  · rw [extract_of_size_le h]
  · have hsize : n = (before.extract 0 n).size := by rw [ByteArray.size_extract]; omega
    rw [extract_append_of_le h, ByteArray.extract_append_eq_left hsize]

/-- Bytes written to a sink that has the first bytes of some. -/
theorem Limited.write (h : Limited n fault Has) {s : σ} {before : ByteArray} (bytes : ByteArray)
    (hs : Has s (before.extract 0 n)) :
    Has (Sink.write s bytes).2 ((before ++ bytes).extract 0 n) ∧
      (Sink.write s bytes).1 = if before.size + bytes.size ≤ n ∨ bytes.size = 0 then .ok () else .error fault := by
  have hsize : (before.extract 0 n).size = min n before.size := by rw [ByteArray.size_extract, Nat.sub_zero]
  rw [← extract_extract_append]
  by_cases hfits : (before.extract 0 n).size + bytes.size ≤ n
  · obtain ⟨s', hwrite, hs'⟩ := h.takes bytes hs hfits
    rw [hwrite, extract_of_size_le (by rwa [ByteArray.size_append]), if_pos (by omega)]
    exact ⟨hs', rfl⟩
  · obtain ⟨s', hwrite, hs'⟩ := h.refuses bytes hs (Nat.lt_of_not_le hfits)
    rw [hwrite, if_neg (by omega)]
    exact ⟨hs', rfl⟩

/-- Pieces written to such a sink. What is behind a refused piece would not have been taken either. -/
theorem Limited.writeAll (h : Limited n fault Has) (pieces : List String) {s : σ} {before : ByteArray}
    (hs : Has s (before.extract 0 n)) :
    Has (Sink.writeAll pieces s).2 ((before ++ (String.join pieces).toUTF8).extract 0 n) ∧
      (Sink.writeAll pieces s).1 =
        if before.size + (String.join pieces).toUTF8.size ≤ n ∨ (String.join pieces).toUTF8.size = 0 then .ok ()
        else .error fault := by
  induction pieces generalizing s before with
  | nil => simpa [Sink.writeAll] using hs
  | cons piece rest ih =>
    obtain ⟨htaken, hresult⟩ := h.write piece.toUTF8 hs
    have hwhole : before ++ (String.join (piece :: rest)).toUTF8 =
        before ++ piece.toUTF8 ++ (String.join rest).toUTF8 := by
      rw [String.join_cons, toUTF8_append, ByteArray.append_assoc]
    have hlength : (String.join (piece :: rest)).toUTF8.size = piece.toUTF8.size + (String.join rest).toUTF8.size := by
      rw [String.join_cons, toUTF8_append, ByteArray.size_append]
    rw [hwhole, hlength]
    unfold Sink.writeAll
    by_cases hfits : before.size + piece.toUTF8.size ≤ n ∨ piece.toUTF8.size = 0
    · rw [if_pos hfits] at hresult
      obtain ⟨hrest, hlater⟩ := ih htaken
      rw [← Prod.eta (Sink.write s piece.toUTF8), hresult]
      refine ⟨hrest, hlater.trans ?_⟩
      rw [ByteArray.size_append]
      refine if_congr ?_ rfl rfl
      omega
    · rw [if_neg hfits] at hresult
      rw [← Prod.eta (Sink.write s piece.toUTF8), hresult, if_neg (by omega)]
      have hfull : n ≤ (before ++ piece.toUTF8).size := by rw [ByteArray.size_append]; omega
      rw [extract_append_of_le hfull]
      exact ⟨htaken, rfl⟩

theorem Limited.exists_attempt (h : Limited n fault Has) {steps : List (List String)} {k : Nat} {pieces : List String}
    (hk : steps[k]? = some pieces) {s : σ} {before : ByteArray} (hs : Has s (before.extract 0 n)) :
    ∃ s', (attempts steps s)[k]? =
        some (if before.size + (textOf steps (k + 1)).toUTF8.size ≤ n ∨ (String.join pieces).toUTF8.size = 0 then .ok ()
          else .error fault, s') ∧
      Has s' ((before ++ (textOf steps (k + 1)).toUTF8).extract 0 n) := by
  induction steps generalizing k s before with
  | nil => simp at hk
  | cons first rest ih =>
    obtain ⟨htaken, hresult⟩ := h.writeAll first hs
    rw [textOf_cons, toUTF8_append, ByteArray.size_append, ← ByteArray.append_assoc, ← Nat.add_assoc]
    cases k with
    | zero =>
      obtain rfl : first = pieces := by simpa using hk
      refine ⟨(Sink.writeAll first s).2, ?_, ?_⟩
      · rw [attempts, List.getElem?_cons_zero]
        exact congrArg some (Prod.ext (by simpa [textOf] using hresult) rfl)
      · simpa [textOf] using htaken
    | succ k =>
      rw [List.getElem?_cons_succ] at hk
      obtain ⟨s', hattempt, hs'⟩ := ih hk htaken
      rw [ByteArray.size_append] at hattempt
      exact ⟨s', hattempt, hs'⟩

/-- What comes of a step, whatever came of those before it: it fails if it writes something and the text up to its end
does not fit. -/
theorem Limited.attempt (h : Limited n fault Has) {steps : List (List String)} {s : σ} (hs : Has s .empty) {k : Nat}
    {result : Except ε Unit} {s' : σ} (hk : (attempts steps s)[k]? = some (result, s')) :
    ∃ pieces, steps[k]? = some pieces ∧ Has s' ((textOf steps (k + 1)).toUTF8.extract 0 n) ∧
      result = if (textOf steps (k + 1)).utf8ByteSize ≤ n ∨ String.join pieces = "" then .ok () else .error fault := by
  have hlt : k < steps.length := by
    rw [← length_attempts steps s]
    exact (List.getElem?_eq_some_iff.1 hk).1
  have hstart : Has s (ByteArray.empty.extract 0 n) := by rwa [extract_of_size_le (Nat.zero_le n)]
  obtain ⟨s'', hattempt, hs''⟩ := h.exists_attempt (List.getElem?_eq_getElem hlt) hstart
  rw [ByteArray.size_empty, Nat.zero_add, hk, Option.some.injEq, Prod.mk.injEq] at hattempt
  rw [ByteArray.empty_append] at hs''
  refine ⟨steps[k], List.getElem?_eq_getElem hlt, hattempt.2 ▸ hs'', hattempt.1.trans (if_congr ?_ rfl rfl)⟩
  exact or_congr Iff.rfl String.utf8ByteSize_eq_zero_iff

/-- Behind steps that all succeeded everything has fitted so far. -/
theorem Limited.fits (h : Limited n fault Has) {steps : List (List String)} {s : σ} (hs : Has s .empty) {k : Nat}
    (hk : ∀ j < k, ∃ s', (attempts steps s)[j]? = some (.ok (), s')) : (textOf steps k).utf8ByteSize ≤ n := by
  induction k with
  | zero => simp [textOf]
  | succ k ih =>
    obtain ⟨s', hs'⟩ := hk k (Nat.lt_succ_self k)
    obtain ⟨pieces, hpieces, -, hresult⟩ := h.attempt hs hs'
    by_cases hempty : String.join pieces = ""
    · -- A step that wrote nothing added nothing to what had fitted.
      rw [textOf_succ hpieces, hempty, String.append_empty]
      exact ih fun j hj => hk j (Nat.lt_succ_of_lt hj)
    · by_contra hfull
      rw [if_neg (not_or.2 ⟨hfull, hempty⟩)] at hresult
      cases hresult

end

/-- Whatever is taken after `k` steps comes behind what these write. -/
theorem exists_textOf_append (steps : List (List String)) (k : Nat) :
    ∃ rest, String.join steps.flatten = textOf steps k ++ rest := by
  refine ⟨String.join (steps.drop k).flatten, ?_⟩
  rw [textOf, ← String.join_append, ← List.flatten_append, List.take_append_drop]

end Sink

/-! ## The steps of a file -/

namespace Encoding

/-- What is written step by step: the start of a file, the records with their positions, the end. -/
def steps (e : Encoding) (rs : List Record) : List (List String) :=
  e.opening :: (rs.zipIdx.map (fun x => e.row x.2 x.1) ++ [e.closing])

theorem length_steps (e : Encoding) (rs : List Record) : (e.steps rs).length = rs.length + 2 := by simp [steps]

theorem join_steps (e : Encoding) (rs : List Record) : String.join (e.steps rs).flatten = e.text rs := by
  simp [steps, text, rows, List.flatMap]

theorem join_ne_empty_of_mem {pieces : List String} (piece : String) (hmem : piece ∈ pieces) (hne : piece ≠ "") :
    String.join pieces ≠ "" := by
  intro h
  have hnil : pieces.flatMap String.toList = [] := by rw [← String.toList_join, h, String.toList_empty]
  exact hne (String.toList_eq_nil_iff.1 (List.flatMap_eq_nil_iff.1 hnil piece hmem))

/-- Only the end of a table writes nothing. -/
theorem join_ne_empty {e : Encoding} {rs : List Record} {k : Nat} {pieces : List String}
    (hk : (e.steps rs)[k]? = some pieces) (h : e = json ∨ k ≤ rs.length) : String.join pieces ≠ "" := by
  cases k with
  | zero =>
    obtain rfl : e.opening = pieces := by simpa [steps] using hk
    cases e with
    | json => exact join_ne_empty_of_mem "[" (by simp [opening]) (by decide)
    | tsv => exact join_ne_empty_of_mem Tsv.header (by simp [opening]) (by decide)
  | succ k =>
    rw [steps, List.getElem?_cons_succ, List.getElem?_append, List.length_map, List.length_zipIdx] at hk
    split at hk
    · obtain ⟨x, -, rfl⟩ := List.mem_map.1 (List.mem_of_getElem? hk)
      cases e with
      | json => exact join_ne_empty_of_mem "\x7b" (by simp [row, Json.recordPieces]) (by decide)
      | tsv => exact join_ne_empty_of_mem "\n" (by simp [row, Tsv.recordPieces]) (by decide)
    · next hlast =>
      obtain rfl : pieces = e.closing := by simpa using List.mem_of_getElem? hk
      obtain rfl : e = json := h.resolve_right fun hle => hlast (Nat.lt_of_succ_le hle)
      exact join_ne_empty_of_mem "]" (by simp [closing]) (by decide)

end Encoding

/-! ## Main theorem -/

/-- A file of records is written step by step to a sink that takes `n` bytes. As long as no step has failed, and at every
step that writes something, a step succeeds if and only if the text up to its end fits. The sink has the first `n` bytes
of that text; at a step that fails these are the first `n` bytes of the whole file, and the fault is the sink's own. -/
theorem attempts_within {σ ε : Type} [Sink σ ε] {n : Nat} {fault : ε} {Has : σ → ByteArray → Prop}
    (h : Sink.Limited n fault Has) {s : σ} (hs : Has s .empty) (e : Encoding) (rs : List Record) :
    (Sink.attempts (e.steps rs) s).length = rs.length + 2 ∧
      ∀ (k : Nat) (result : Except ε Unit) (s' : σ), (Sink.attempts (e.steps rs) s)[k]? = some (result, s') →
        ((∀ j < k, ∃ s'', (Sink.attempts (e.steps rs) s)[j]? = some (.ok (), s'')) ∨ e = .json ∨ k ≤ rs.length →
          (result = .ok () ↔ (Sink.textOf (e.steps rs) (k + 1)).utf8ByteSize ≤ n)) ∧
        Has s' ((Sink.textOf (e.steps rs) (k + 1)).toUTF8.extract 0 n) ∧
        ∀ cause, result = .error cause →
          cause = fault ∧ n < (e.text rs).utf8ByteSize ∧ Has s' ((e.text rs).toUTF8.extract 0 n) := by
  refine ⟨by rw [Sink.length_attempts, Encoding.length_steps], fun k result s' hk => ?_⟩
  obtain ⟨pieces, hpieces, hs', hresult⟩ := h.attempt hs hk
  refine ⟨fun hcond => ?_, hs', ?_⟩
  · have hnothing : String.join pieces = "" → (Sink.textOf (e.steps rs) (k + 1)).utf8ByteSize ≤ n := by
      intro hempty
      rcases hcond with hok | hwrites
      · rw [Sink.textOf_succ hpieces, hempty, String.append_empty]
        exact h.fits hs hok
      · exact absurd hempty (Encoding.join_ne_empty hpieces hwrites)
    rw [hresult]
    split
    · next hfits => exact ⟨fun _ => hfits.elim id hnothing, fun _ => rfl⟩
    · next hfull => exact iff_of_false (by simp) fun hfits => hfull (.inl hfits)
  · rintro cause rfl
    split at hresult
    · cases hresult
    · next hfull =>
      obtain rfl : cause = fault := Except.error.inj hresult
      have hfull : n < (Sink.textOf (e.steps rs) (k + 1)).toUTF8.size := Nat.lt_of_not_le (not_or.1 hfull).1
      obtain ⟨rest, hrest⟩ := Sink.exists_textOf_append (e.steps rs) (k + 1)
      rw [← Encoding.join_steps, hrest]
      refine ⟨rfl, ?_, ?_⟩
      · rw [String.utf8ByteSize_append]
        exact Nat.lt_of_lt_of_le hfull (Nat.le_add_right _ _)
      · rwa [toUTF8_append, Sink.extract_append_of_le (Nat.le_of_lt hfull)]

/-- The bounded sink is limited to what it has room for. -/
theorem BoundedSink.limited (n : Nat) :
    Sink.Limited n SinkFault.full fun (s : BoundedSink) bytes => s.content = bytes ∧ s.room + bytes.size = n where
  takes := by
    rintro s taken bytes ⟨rfl, hroom⟩ hfits
    have hsize : bytes.size ≤ s.room := by omega
    refine ⟨(s.write bytes).2, Prod.ext (by simp [Sink.write, BoundedSink.write, hsize]) rfl, ?_, ?_⟩
    · exact congrArg (s.content ++ ·) (Sink.extract_of_size_le hsize)
    · simp only [BoundedSink.write, ByteArray.size_append]
      omega
  refuses := by
    rintro s taken bytes ⟨rfl, hroom⟩ hfull
    have hsize : ¬bytes.size ≤ s.room := by omega
    refine ⟨(s.write bytes).2, Prod.ext (by simp [Sink.write, BoundedSink.write, hsize]) rfl, ?_, ?_⟩
    · have hroom' : s.room + s.content.size - s.content.size = s.room := Nat.add_sub_cancel ..
      rw [ByteArray.extract_append, ← hroom, Sink.extract_of_size_le (Nat.le_add_left _ _), hroom', Nat.zero_sub]
      rfl
    · simp only [BoundedSink.write, ByteArray.size_append, ByteArray.size_extract]
      omega

/-- A sink is full in the middle of the first character of a record, and has a beginning of the file. -/
theorem attempts_accented :
    let file : List Record := [⟨"é", "x", [], "t", []⟩]
    ∃ s' : BoundedSink,
      (Sink.attempts (Encoding.json.steps file) (⟨13, .empty⟩ : BoundedSink))[1]? = some (.error .full, s') ∧
        s'.content = (Encoding.json.text file).toUTF8.extract 0 13 := by
  intro file
  obtain ⟨hlength, hsteps⟩ := attempts_within (BoundedSink.limited 13) (s := ⟨13, .empty⟩) ⟨rfl, rfl⟩ .json file
  have hlt : 1 < (Sink.attempts (Encoding.json.steps file) (⟨13, .empty⟩ : BoundedSink)).length := by
    rw [hlength]
    decide
  obtain ⟨⟨result, s'⟩, hsecond⟩ : ∃ x, (Sink.attempts (Encoding.json.steps file) (⟨13, .empty⟩ : BoundedSink))[1]? =
      some x := ⟨_, List.getElem?_eq_getElem hlt⟩
  obtain ⟨hfits, -, hfault⟩ := hsteps 1 result s' hsecond
  have hfull : ¬(Sink.textOf (Encoding.json.steps file) 2).utf8ByteSize ≤ 13 := by decide
  cases result with
  | ok => exact absurd ((hfits (.inr (.inl rfl))).1 rfl) hfull
  | error cause =>
    obtain ⟨rfl, -, hcontent, -⟩ := hfault cause rfl
    exact ⟨s', hsecond, hcontent⟩

end CallGraph
