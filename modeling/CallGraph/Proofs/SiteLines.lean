import CallGraph.Source.Locator
/-!
# The line of a call site

Which instruction decides the line of a call site. `siteLine_spec` goes through the cases: methods without source, call
sites that no instruction bears, an instruction at the very offset, and the first or the last that bears the call site.
The rule for ties is a matter of direction only, and instructions that do not bear the call site do not count.
-/

namespace CallGraph

/-- The instruction is a call or an allocation with the text of the call site. -/
def Instruction.Bears (i : Instruction) (s : CallSite) : Prop :=
  (i.kind = .invoke ∨ i.kind = .new) ∧ i.site = some s.site

instance (i : Instruction) (s : CallSite) : Decidable (i.Bears s) :=
  inferInstanceAs (Decidable ((i.kind = .invoke ∨ i.kind = .new) ∧ i.site = some s.site))

theorem Instruction.bears_eq (i : Instruction) (s : CallSite) :
    (i.isCallSite && i.site = some s.site) = decide (i.Bears s) := by
  cases hkind : i.kind <;> simp [isCallSite, Bears, hkind]

namespace Method

/-- The line of a call site that instruction `i`, at `index`, decides. -/
def lineAt (m : Method) (i : Instruction) (index : Nat) : Except Unresolved (Option UInt32) :=
  match i.offset with
  | none => .error (.missingOffset m.signature index)
  | some pc => .ok (m.line? pc)

/-! ## The instructions that bear a call site -/

/-- The instructions that bear a call site, with their indices. -/
def bearing (m : Method) (s : CallSite) : List (Instruction × Nat) :=
  m.instructions.zipIdx.filter fun x => x.1.Bears s

theorem instructionOf?_eq (m : Method) (s : CallSite) (rule : SiteMatch) :
    m.instructionOf? s rule =
      ((m.bearing s).find? fun x => x.1.offset = some s.pc).or
        (match rule with
        | .first => (m.bearing s).head?
        | .last => (m.bearing s).getLast?) := by
  have hbearing : (m.instructions.zipIdx.filter fun x => x.1.isCallSite && x.1.site = some s.site) = m.bearing s := by
    simp only [Instruction.bears_eq, bearing]
  simp only [instructionOf?, hbearing]
  cases (m.bearing s).find? fun x => x.1.offset = some s.pc <;> rfl

theorem mem_bearing {m : Method} {s : CallSite} {x : Instruction × Nat} (h : x ∈ m.bearing s) :
    m.instructions[x.2]? = some x.1 ∧ x.1.Bears s := by
  obtain ⟨hmem, hbears⟩ := List.mem_filter.1 h
  exact ⟨List.mem_zipIdx_iff_getElem?.1 hmem, by simpa using hbears⟩

theorem exists_mem_bearing {m : Method} {s : CallSite} {i : Instruction} (hmem : i ∈ m.instructions)
    (hbears : i.Bears s) : ∃ index, (i, index) ∈ m.bearing s := by
  obtain ⟨index, hindex⟩ := List.getElem?_of_mem hmem
  exact ⟨index, List.mem_filter.2 ⟨List.mem_zipIdx_iff_getElem?.2 hindex, by simpa using hbears⟩⟩

/-- The instruction that stands for a call site decides its line. -/
theorem siteLine_of_instruction {m : Method} {s : CallSite} {rule : SiteMatch} {x : Instruction × Nat}
    (hsource : m.synthetic = false) (h : m.instructionOf? s rule = some x) (hx : x ∈ m.bearing s) :
    m.siteLine s rule = m.lineAt x.1 x.2 := by
  have hoffset : m.offset? x.2 = x.1.offset := by simp [offset?, (mem_bearing hx).1]
  simp only [siteLine, hsource, h, hoffset, lineAt]
  rfl

/-! ## One case after the other -/

theorem siteLine_synthetic {m : Method} (h : m.synthetic = true) (s : CallSite) (rule : SiteMatch) :
    m.siteLine s rule = .ok none := by
  simp [siteLine, h]

theorem siteLine_of_none {m : Method} {s : CallSite} (hnone : ∀ i ∈ m.instructions, ¬i.Bears s) (rule : SiteMatch) :
    m.siteLine s rule = .ok none := by
  have hbearing : m.bearing s = [] := by
    rw [List.eq_nil_iff_forall_not_mem]
    intro x hx
    obtain ⟨hget, hbears⟩ := mem_bearing hx
    exact hnone x.1 (List.mem_of_getElem? hget) hbears
  have hinstruction : m.instructionOf? s rule = none := by
    rw [instructionOf?_eq, hbearing]
    cases rule <;> rfl
  simp [siteLine, hinstruction]

/-- An instruction at the offset of the call site decides, whatever else bears it. -/
theorem siteLine_of_exact {m : Method} {s : CallSite} {i : Instruction} (hsource : m.synthetic = false)
    (hmem : i ∈ m.instructions) (hbears : i.Bears s) (hoffset : i.offset = some s.pc) (rule : SiteMatch) :
    m.siteLine s rule = .ok (m.line? s.pc) := by
  obtain ⟨index, hindex⟩ := exists_mem_bearing hmem hbears
  obtain ⟨x, hx⟩ : ∃ x, (m.bearing s).find? (fun x => x.1.offset = some s.pc) = some x := by
    rw [← Option.isSome_iff_exists, List.find?_isSome]
    exact ⟨(i, index), hindex, by simpa using hoffset⟩
  have hpc : x.1.offset = some s.pc := by simpa using List.find?_some hx
  have hinstruction : m.instructionOf? s rule = some x := by rw [instructionOf?_eq, hx, Option.some_or]
  rw [siteLine_of_instruction hsource hinstruction (List.mem_of_find?_eq_some hx), lineAt, hpc]

section
variable {m : Method} {s : CallSite} {before after : List Instruction} {i : Instruction}

theorem bearing_split (hsplit : m.instructions = before ++ i :: after) (hbears : i.Bears s) :
    m.bearing s = (before.zipIdx.filter fun x => x.1.Bears s) ++
      (i, before.length) :: (after.zipIdx (before.length + 1)).filter fun x => x.1.Bears s := by
  rw [bearing, hsplit, List.zipIdx_append, List.zipIdx_cons, List.filter_append,
    List.filter_cons_of_pos (by simpa using hbears), Nat.zero_add]

theorem filter_zipIdx_eq_nil {l : List Instruction} (hnone : ∀ j ∈ l, ¬j.Bears s) (start : Nat) :
    (l.zipIdx start).filter (fun x => x.1.Bears s) = [] := by
  rw [List.filter_eq_nil_iff]
  intro x hx
  simpa using hnone x.1 (List.fst_mem_of_mem_zipIdx hx)

theorem find?_bearing_eq_none (hinexact : ∀ j ∈ m.instructions, j.Bears s → j.offset ≠ some s.pc) :
    (m.bearing s).find? (fun x => x.1.offset = some s.pc) = none := by
  rw [List.find?_eq_none]
  intro x hx
  obtain ⟨hget, hbears⟩ := mem_bearing hx
  simpa using hinexact x.1 (List.mem_of_getElem? hget) hbears

variable (hsource : m.synthetic = false) (hinexact : ∀ j ∈ m.instructions, j.Bears s → j.offset ≠ some s.pc)
  (hsplit : m.instructions = before ++ i :: after) (hbears : i.Bears s)
include hsource hinexact hsplit hbears

theorem siteLine_first (hbefore : ∀ j ∈ before, ¬j.Bears s) : m.siteLine s .first = m.lineAt i before.length := by
  have hbearing := bearing_split hsplit hbears
  rw [filter_zipIdx_eq_nil hbefore, List.nil_append] at hbearing
  have hinstruction : m.instructionOf? s .first = some (i, before.length) := by
    rw [instructionOf?_eq, find?_bearing_eq_none hinexact, hbearing]
    rfl
  exact siteLine_of_instruction hsource hinstruction (by simp [hbearing])

theorem siteLine_last (hafter : ∀ j ∈ after, ¬j.Bears s) : m.siteLine s .last = m.lineAt i before.length := by
  have hbearing := bearing_split hsplit hbears
  rw [filter_zipIdx_eq_nil hafter] at hbearing
  have hinstruction : m.instructionOf? s .last = some (i, before.length) := by
    rw [instructionOf?_eq, find?_bearing_eq_none hinexact, hbearing]
    simp
  exact siteLine_of_instruction hsource hinstruction (by simp [hbearing])

end

/-! ## The first and the last -/

theorem exists_first {s : CallSite} {l : List Instruction} (h : ∃ i ∈ l, i.Bears s) :
    ∃ before i after, l = before ++ i :: after ∧ i.Bears s ∧ ∀ j ∈ before, ¬j.Bears s := by
  obtain ⟨i, hmem, hbears⟩ := h
  obtain ⟨first, hfirst⟩ : ∃ first, l.find? (fun j => j.Bears s) = some first := by
    rw [← Option.isSome_iff_exists, List.find?_isSome]
    exact ⟨i, hmem, by simpa using hbears⟩
  obtain ⟨hbears, before, after, hsplit, hbefore⟩ := List.find?_eq_some_iff_append.1 hfirst
  exact ⟨before, first, after, hsplit, by simpa using hbears, fun j hj => by simpa using hbefore j hj⟩

theorem exists_last {s : CallSite} {l : List Instruction} (h : ∃ i ∈ l, i.Bears s) :
    ∃ before i after, l = before ++ i :: after ∧ i.Bears s ∧ ∀ j ∈ after, ¬j.Bears s := by
  obtain ⟨i, hmem, hbears⟩ := h
  obtain ⟨after, last, before, hsplit, hbears, hafter⟩ := exists_first ⟨i, List.mem_reverse.2 hmem, hbears⟩
  refine ⟨before.reverse, last, after.reverse, ?_, hbears, fun j hj => hafter j (List.mem_reverse.1 hj)⟩
  simpa using congrArg List.reverse hsplit

/-- The method with its instructions in the opposite order. -/
def backwards (m : Method) : Method := { m with instructions := m.instructions.reverse }

/-- A line that was looked for backwards in `length` instructions; the index of an instruction without offset is counted
from the other end. -/
def mirrored (length : Nat) : Except Unresolved (Option UInt32) → Except Unresolved (Option UInt32)
  | .error (.missingOffset method index) => .error (.missingOffset method (length - 1 - index))
  | result => result

/-- Two results that differ in the index of the instruction without offset at most. -/
inductive SameButIndex : Except Unresolved (Option UInt32) → Except Unresolved (Option UInt32) → Prop
  | same (result : Except Unresolved (Option UInt32)) : SameButIndex result result
  | index (method : Signature) (i j : Nat) :
      SameButIndex (.error (.missingOffset method i)) (.error (.missingOffset method j))

theorem lineAt_mirrored (m : Method) (i : Instruction) (length index : Nat) :
    mirrored length (m.lineAt i index) = m.lineAt i (length - 1 - index) := by
  unfold lineAt
  cases i.offset <;> rfl

theorem lineAt_sameButIndex {m m' : Method} (hsignature : m'.signature = m.signature)
    (htable : m'.lineTable = m.lineTable) (i : Instruction) (j k : Nat) :
    SameButIndex (m.lineAt i j) (m'.lineAt i k) := by
  unfold lineAt line?
  rw [hsignature, htable]
  cases i.offset with
  | none => exact .index m.signature j k
  | some pc => exact .same _

/-- The four ways in which the line of a call site is decided. -/
inductive Deciding (m : Method) (s : CallSite) : Prop
  | synthetic (h : m.synthetic = true)
  | none (h : ∀ i ∈ m.instructions, ¬i.Bears s)
  | exact (hsource : m.synthetic = false) (i : Instruction) (hmem : i ∈ m.instructions) (hbears : i.Bears s)
      (hoffset : i.offset = some s.pc)
  | rule (hsource : m.synthetic = false) (hsome : ∃ i ∈ m.instructions, i.Bears s)
      (hinexact : ∀ i ∈ m.instructions, i.Bears s → i.offset ≠ some s.pc)

theorem deciding (m : Method) (s : CallSite) : m.Deciding s := by
  cases hsource : m.synthetic with
  | true => exact .synthetic hsource
  | false =>
    by_cases hexact : ∃ i ∈ m.instructions, i.Bears s ∧ i.offset = some s.pc
    · obtain ⟨i, hmem, hbears, hoffset⟩ := hexact
      exact .exact hsource i hmem hbears hoffset
    · by_cases hsome : ∃ i ∈ m.instructions, i.Bears s
      · exact .rule hsource hsome fun i hmem hbears hoffset => hexact ⟨i, hmem, hbears, hoffset⟩
      · exact .none fun i hmem hbears => hsome ⟨i, hmem, hbears⟩

/-- The rule of the last instruction is that of the first, backwards. -/
theorem siteLine_backwards (m : Method) (s : CallSite) :
    m.siteLine s .last = mirrored m.instructions.length (m.backwards.siteLine s .first) := by
  have hmem (i : Instruction) : i ∈ m.backwards.instructions ↔ i ∈ m.instructions := List.mem_reverse
  rcases m.deciding s with hsource | hnone | ⟨hsource, i, hi, hbears, hoffset⟩ | ⟨hsource, hsome, hinexact⟩
  · rw [siteLine_synthetic hsource, siteLine_synthetic (m := m.backwards) hsource]
    rfl
  · rw [siteLine_of_none hnone, siteLine_of_none (m := m.backwards) fun i hi => hnone i ((hmem i).1 hi)]
    rfl
  · rw [siteLine_of_exact hsource hi hbears hoffset,
      siteLine_of_exact (m := m.backwards) hsource ((hmem i).2 hi) hbears hoffset]
    rfl
  · -- The last that bears the call site is the first one backwards.
    obtain ⟨before, i, after, hsplit, hbears, hafter⟩ := exists_last hsome
    have hsplit' : m.backwards.instructions = after.reverse ++ i :: before.reverse := by
      simp [backwards, hsplit]
    have hafter' : ∀ j ∈ after.reverse, ¬j.Bears s := by simpa using hafter
    have hindex : m.instructions.length - 1 - after.reverse.length = before.length := by
      simp only [hsplit, List.length_append, List.length_cons, List.length_reverse]
      omega
    rw [siteLine_last hsource hinexact hsplit hbears hafter,
      siteLine_first (m := m.backwards) hsource (fun j hj => hinexact j ((hmem j).1 hj)) hsplit' hbears hafter',
      lineAt_mirrored, hindex]
    rfl

theorem head?_filter_first {s : CallSite} {l before after : List Instruction} {i : Instruction}
    (hsplit : l = before ++ i :: after) (hbears : i.Bears s) (hbefore : ∀ j ∈ before, ¬j.Bears s) :
    (l.filter fun j => j.Bears s).head? = some i := by
  have hnil : before.filter (fun j => j.Bears s) = [] := by
    rw [List.filter_eq_nil_iff]
    simpa using hbefore
  rw [hsplit, List.filter_append, hnil, List.nil_append, List.filter_cons_of_pos (by simpa using hbears),
    List.head?_cons]

theorem SameButIndex.mirrored {result result' : Except Unresolved (Option UInt32)} (h : SameButIndex result result')
    (length length' : Nat) : SameButIndex (Method.mirrored length result) (Method.mirrored length' result') := by
  cases h with
  | index method i j => exact .index method _ _
  | same =>
    match result with
    | .error (.missingOffset method i) => exact .index method _ _
    | .error (.unknownMethod id) => exact .same _
    | .error (.unsupportedContext kind) => exact .same _
    | .ok line => exact .same _

section
variable {m m' : Method} {s : CallSite} (hsignature : m'.signature = m.signature)
  (hsynthetic : m'.synthetic = m.synthetic) (htable : m'.lineTable = m.lineTable)
  (hbearing : (m'.instructions.filter fun i => i.Bears s) = m.instructions.filter fun i => i.Bears s)
include hsignature hsynthetic htable hbearing

theorem siteLine_first_sameButIndex : SameButIndex (m.siteLine s .first) (m'.siteLine s .first) := by
  have hmem (i : Instruction) (hbears : i.Bears s) : i ∈ m'.instructions ↔ i ∈ m.instructions := by
    have hiff : i ∈ m'.instructions.filter (fun j => j.Bears s) ↔ i ∈ m.instructions.filter fun j => j.Bears s := by
      rw [hbearing]
    simpa [hbears] using hiff
  rcases m.deciding s with hsource | hnone | ⟨hsource, i, hi, hbears, hoffset⟩ | ⟨hsource, hsome, hinexact⟩
  · rw [siteLine_synthetic hsource, siteLine_synthetic (hsynthetic.trans hsource)]
    exact .same _
  · rw [siteLine_of_none hnone, siteLine_of_none fun i hi hbears => hnone i ((hmem i hbears).1 hi) hbears]
    exact .same _
  · rw [siteLine_of_exact hsource hi hbears hoffset,
      siteLine_of_exact (hsynthetic.trans hsource) ((hmem i hbears).2 hi) hbears hoffset, line?, line?, htable]
    exact .same _
  · have hsome' : ∃ i ∈ m'.instructions, i.Bears s := by
      obtain ⟨i, hi, hbears⟩ := hsome
      exact ⟨i, (hmem i hbears).2 hi, hbears⟩
    have hinexact' : ∀ i ∈ m'.instructions, i.Bears s → i.offset ≠ some s.pc := fun i hi hbears =>
      hinexact i ((hmem i hbears).1 hi) hbears
    obtain ⟨before, i, after, hsplit, hbears, hbefore⟩ := exists_first hsome
    obtain ⟨before', i', after', hsplit', hbears', hbefore'⟩ := exists_first hsome'
    have hi : i' = i := by
      have hhead := head?_filter_first hsplit hbears hbefore
      rw [← hbearing, head?_filter_first hsplit' hbears' hbefore'] at hhead
      exact Option.some.inj hhead
    rw [siteLine_first hsource hinexact hsplit hbears hbefore,
      siteLine_first (hsynthetic.trans hsource) hinexact' hsplit' hbears' hbefore', hi]
    exact lineAt_sameButIndex hsignature htable i _ _

/-- Instructions that do not bear the call site can shift the index in the error, and do nothing else. -/
theorem siteLine_sameButIndex (rule : SiteMatch) : SameButIndex (m.siteLine s rule) (m'.siteLine s rule) := by
  cases rule with
  | first => exact siteLine_first_sameButIndex hsignature hsynthetic htable hbearing
  | last =>
    have hbackwards : (m'.backwards.instructions.filter fun i => i.Bears s) =
        m.backwards.instructions.filter fun i => i.Bears s := by
      simp only [backwards, List.filter_reverse, hbearing]
    have hfirst : SameButIndex (m.backwards.siteLine s .first) (m'.backwards.siteLine s .first) :=
      siteLine_first_sameButIndex hsignature hsynthetic htable hbackwards
    rw [siteLine_backwards, siteLine_backwards]
    exact hfirst.mirrored _ _

end

/-! ## Main theorem -/

/-- A synthetic method and a call site that no instruction bears have no line. An instruction at the very offset of the
call site decides its line, under both rules. Without one the first or the last that bears the call site decides, by its
own offset; if it has none, the error gives its index among all instructions. -/
theorem siteLine_spec (m : Method) (s : CallSite) :
    (m.synthetic = true → ∀ rule, m.siteLine s rule = .ok none) ∧
      ((∀ i ∈ m.instructions, ¬i.Bears s) → ∀ rule, m.siteLine s rule = .ok none) ∧
      (m.synthetic = false → (∃ i ∈ m.instructions, i.Bears s ∧ i.offset = some s.pc) →
        ∀ rule, m.siteLine s rule = .ok (m.line? s.pc)) ∧
      (m.synthetic = false → (∃ i ∈ m.instructions, i.Bears s) →
        (∀ i ∈ m.instructions, i.Bears s → i.offset ≠ some s.pc) →
        (∃ before i after, m.instructions = before ++ i :: after ∧ i.Bears s ∧ (∀ j ∈ before, ¬j.Bears s) ∧
          m.siteLine s .first = m.lineAt i before.length) ∧
        ∃ before i after, m.instructions = before ++ i :: after ∧ i.Bears s ∧ (∀ j ∈ after, ¬j.Bears s) ∧
          m.siteLine s .last = m.lineAt i before.length) ∧
      m.siteLine s .last = mirrored m.instructions.length (m.backwards.siteLine s .first) ∧
      ∀ m' : Method, m'.signature = m.signature → m'.synthetic = m.synthetic → m'.lineTable = m.lineTable →
        (m'.instructions.filter fun i => i.Bears s) = (m.instructions.filter fun i => i.Bears s) →
        ∀ rule, SameButIndex (m.siteLine s rule) (m'.siteLine s rule) := by
  refine ⟨fun hsynthetic => siteLine_synthetic hsynthetic s, siteLine_of_none, ?_, ?_, m.siteLine_backwards s, ?_⟩
  · rintro hsource ⟨i, hmem, hbears, hoffset⟩
    exact siteLine_of_exact hsource hmem hbears hoffset
  · intro hsource hsome hinexact
    obtain ⟨before, i, after, hsplit, hbears, hbefore⟩ := exists_first hsome
    obtain ⟨before', i', after', hsplit', hbears', hafter'⟩ := exists_last hsome
    exact ⟨⟨before, i, after, hsplit, hbears, hbefore, siteLine_first hsource hinexact hsplit hbears hbefore⟩,
      before', i', after', hsplit', hbears', hafter', siteLine_last hsource hinexact hsplit' hbears' hafter'⟩
  · intro m' hsignature hsynthetic htable hbearing
    exact siteLine_sameButIndex hsignature hsynthetic htable hbearing

end Method

end CallGraph
