import CallGraph.Method
import Mathlib.Data.List.Induction
/-!
# Line tables

A line table can be stored in any order, and several entries can start at one offset. The line of an offset is that of the
entry that starts last at or before it, among equals the one stored last (`LineEntry.Covers`). So the order matters only
among entries that start together (`LineEntry.Reordered`), and the line can be read off the sorted table:
`Method.line_by_sorting`.
-/

namespace CallGraph

namespace LineEntry

variable {pc : UInt32} {table table' : List LineEntry} {e e' : LineEntry}

/-! ## The entry that covers an offset -/

/-- The entry starts at or before `pc`, no other that does starts later, and of those that start together it is stored
last. -/
structure Covers (pc : UInt32) (table : List LineEntry) (e : LineEntry) : Prop where
  reached : e.startPc ≤ pc
  greatest : ∀ x ∈ table, x.startPc ≤ pc → x.startPc ≤ e.startPc
  last : (table.filter (·.startPc = e.startPc)).getLast? = some e

theorem Covers.mem (h : Covers pc table e) : e ∈ table :=
  (List.mem_filter.1 (List.mem_of_getLast? h.last)).1

theorem Covers.unique (h : Covers pc table e) (h' : Covers pc table e') : e = e' := by
  have hstart : e.startPc = e'.startPc :=
    UInt32.le_antisymm (h'.greatest e h.mem h.reached) (h.greatest e' h'.mem h'.reached)
  have hlast := h.last
  rw [hstart, h'.last] at hlast
  exact (Option.some.inj hlast).symm

/-- An entry stored behind that starts too late, or earlier, changes nothing. -/
theorem Covers.concat (h : Covers pc table e) {x : LineEntry} (hx : x.startPc ≤ pc → x.startPc < e.startPc) :
    Covers pc (table ++ [x]) e where
  reached := h.reached
  greatest y hy hpc := by
    rcases List.mem_append.1 hy with hy | hy
    · exact h.greatest y hy hpc
    · obtain rfl := List.mem_singleton.1 hy
      exact UInt32.le_of_lt (hx hpc)
  last := by
    have hne : x.startPc ≠ e.startPc := fun heq => UInt32.lt_irrefl _ (heq ▸ hx (heq ▸ h.reached))
    rw [List.filter_append, List.filter_cons_of_neg (by simpa using hne), List.filter_nil, List.append_nil]
    exact h.last

/-- An entry stored behind that starts in time, and no earlier than the others that do, covers the offset. -/
theorem covers_concat_self {x : LineEntry} (hx : x.startPc ≤ pc)
    (hbest : ∀ y ∈ table, y.startPc ≤ pc → y.startPc ≤ x.startPc) : Covers pc (table ++ [x]) x where
  reached := hx
  greatest y hy hpc := by
    rcases List.mem_append.1 hy with hy | hy
    · exact hbest y hy hpc
    · rw [List.mem_singleton.1 hy]
      exact UInt32.le_refl _
  last := by simp

theorem covering?_concat (pc : UInt32) (table : List LineEntry) (x : LineEntry) :
    covering? pc (table ++ [x]) =
      if x.startPc ≤ pc && (covering? pc table).all (·.startPc ≤ x.startPc) then some x else covering? pc table := by
  rw [covering?, List.foldl_append]
  rfl

theorem covering?_eq_none_iff : covering? pc table = none ↔ ∀ x ∈ table, pc < x.startPc := by
  induction table using List.reverseRecOn with
  | nil => simp [covering?]
  | append_singleton table x ih =>
    rw [covering?_concat, List.forall_mem_append, List.forall_mem_singleton, ← ih]
    split
    · next hbetter =>
      have hreached : x.startPc ≤ pc := of_decide_eq_true (Bool.and_eq_true_iff.1 hbetter).1
      simp [hreached]
    · next hworse =>
      refine ⟨fun hnone => ⟨hnone, ?_⟩, And.left⟩
      simpa [hnone] using hworse

theorem covers_of_covering? (h : covering? pc table = some e) : Covers pc table e := by
  induction table using List.reverseRecOn generalizing e with
  | nil => cases h
  | append_singleton table x ih =>
    rw [covering?_concat] at h
    split at h
    · next hbetter =>
      obtain rfl := Option.some.inj h
      obtain ⟨hreached, hbest⟩ := Bool.and_eq_true_iff.1 hbetter
      refine covers_concat_self (of_decide_eq_true hreached) fun y hy hpc => ?_
      cases hfound : covering? pc table with
      | none => exact absurd hpc (UInt32.not_le.2 (covering?_eq_none_iff.1 hfound y hy))
      | some b =>
        have hb : b.startPc ≤ x.startPc := by simpa [hfound] using hbest
        exact UInt32.le_trans ((ih hfound).greatest y hy hpc) hb
    · next hworse => exact (ih h).concat (by simpa [h] using hworse)

theorem covering?_eq_some_iff : covering? pc table = some e ↔ Covers pc table e := by
  refine ⟨covers_of_covering?, fun h => ?_⟩
  cases hfound : covering? pc table with
  | some e' => rw [(covers_of_covering? hfound).unique h]
  | none => exact absurd h.reached (UInt32.not_le.2 (covering?_eq_none_iff.1 hfound e h.mem))

/-! ## The order of the table -/

/-- The same entries in another order, in which those that start together follow one another as before. -/
structure Reordered (table table' : List LineEntry) : Prop where
  perm : table'.Perm table
  together : ∀ start, table'.filter (·.startPc = start) = table.filter (·.startPc = start)

theorem Reordered.covers (h : Reordered table table') (he : Covers pc table e) : Covers pc table' e where
  reached := he.reached
  greatest x hx := he.greatest x (h.perm.mem_iff.1 hx)
  last := by rw [h.together, he.last]

theorem Reordered.symm (h : Reordered table table') : Reordered table' table :=
  ⟨h.perm.symm, fun start => (h.together start).symm⟩

theorem Reordered.covering? (h : Reordered table table') (pc : UInt32) :
    LineEntry.covering? pc table' = LineEntry.covering? pc table :=
  Option.ext fun _ => by
    rw [covering?_eq_some_iff, covering?_eq_some_iff]
    exact ⟨h.symm.covers, h.covers⟩

/-- Entries that start behind the offset do not count. -/
theorem covering?_filter (pc : UInt32) (table : List LineEntry) :
    covering? pc (table.filter (·.startPc ≤ pc)) = covering? pc table := by
  rw [covering?, covering?, List.foldl_filter]
  congr
  funext best x
  by_cases hreached : x.startPc ≤ pc <;> simp [hreached]

/-- The order of entries by their starts. -/
def startsBy (a b : LineEntry) : Bool := decide (a.startPc ≤ b.startPc)

theorem startsBy_trans (a b c : LineEntry) (hab : startsBy a b = true) (hbc : startsBy b c = true) : startsBy a c = true :=
  decide_eq_true (UInt32.le_trans (of_decide_eq_true hab) (of_decide_eq_true hbc))

theorem startsBy_total (a b : LineEntry) : (startsBy a b || startsBy b a) = true := by
  simpa [startsBy] using UInt32.le_total a.startPc b.startPc

/-- The table in the order of its entries' starts. -/
def byStart (table : List LineEntry) : List LineEntry := table.mergeSort startsBy

theorem byStart_pairwise (table : List LineEntry) : (byStart table).Pairwise (·.startPc ≤ ·.startPc) :=
  (List.pairwise_mergeSort startsBy_trans startsBy_total table).imp of_decide_eq_true

theorem byStart_reordered (table : List LineEntry) : Reordered table (byStart table) := by
  have hperm : (byStart table).Perm table := List.mergeSort_perm table startsBy
  refine ⟨hperm, fun start => ?_⟩
  -- Entries that start together are in order as they stand, so sorting leaves them so.
  have hordered : (table.filter (·.startPc = start)).Pairwise fun a b => startsBy a b = true := by
    refine List.pairwise_of_forall_mem_list fun a ha b hb => ?_
    have ha : a.startPc = start := by simpa using (List.mem_filter.1 ha).2
    have hb : b.startPc = start := by simpa using (List.mem_filter.1 hb).2
    simp [startsBy, ha, hb]
  have hsublist := List.sublist_mergeSort startsBy_trans startsBy_total hordered List.filter_sublist
  have htogether := hsublist.filter (·.startPc = start)
  simp only [List.filter_filter, Bool.and_self] at htogether
  exact (htogether.eq_of_length (hperm.filter _).length_eq.symm).symm

/-- In a sorted table the entry that covers an offset is the last that starts at or before it. -/
theorem covering?_of_pairwise (h : table.Pairwise (·.startPc ≤ ·.startPc)) (pc : UInt32) :
    covering? pc table = (table.filter (·.startPc ≤ pc)).getLast? := by
  have hreached : ∀ x ∈ table.filter (·.startPc ≤ pc), x.startPc ≤ pc := fun x hx => by
    simpa using (List.mem_filter.1 hx).2
  have hsorted := h.filter (·.startPc ≤ pc)
  rw [← covering?_filter]
  generalize table.filter (·.startPc ≤ pc) = reached at hsorted hreached
  rcases List.eq_nil_or_concat reached with rfl | ⟨front, x, rfl⟩
  · rfl
  · rw [List.concat_eq_append] at hsorted hreached ⊢
    have hbest : (covering? pc front).all (·.startPc ≤ x.startPc) = true := by
      rw [Option.all_eq_true]
      intro b hb
      have hle := (List.pairwise_append.1 hsorted).2.2 b (covers_of_covering? hb).mem x List.mem_cons_self
      exact decide_eq_true hle
    have hx : x.startPc ≤ pc := hreached x (by simp)
    rw [covering?_concat, List.getLast?_concat, if_pos (by simp [hx, hbest])]

end LineEntry

/-! ## Main theorem -/

open LineEntry in
/-- The line of an offset can be read off the sorted table, in which entries that start together follow one another as
before: it is that of the last entry that starts at or before the offset. There is none if all entries start behind the
offset. In the table as it is stored, the line is that of the entry that covers the offset. So the order of entries that
start apart does not matter, nor do entries that start behind the offset. -/
theorem Method.line_by_sorting (m : Method) (pc : UInt32) :
    Reordered m.lineTable (byStart m.lineTable) ∧ (byStart m.lineTable).Pairwise (·.startPc ≤ ·.startPc) ∧
      (∀ sorted, Reordered m.lineTable sorted → sorted.Pairwise (·.startPc ≤ ·.startPc) →
        m.line? pc = ((sorted.filter (·.startPc ≤ pc)).getLast?).map (·.line)) ∧
      (m.line? pc = none ↔ ∀ e ∈ m.lineTable, pc < e.startPc) ∧
      (∀ line, m.line? pc = some line ↔ ∃ e, Covers pc m.lineTable e ∧ e.line = line) ∧
      (∀ m' : Method, Reordered m.lineTable m'.lineTable → m'.line? pc = m.line? pc) ∧
      ∀ m' : Method, m'.lineTable.filter (·.startPc ≤ pc) = m.lineTable.filter (·.startPc ≤ pc) →
        m'.line? pc = m.line? pc := by
  refine ⟨byStart_reordered _, byStart_pairwise _, fun sorted hreordered hsorted => ?_, ?_, fun line => ?_, ?_, ?_⟩
  · rw [line?, ← hreordered.covering? pc, covering?_of_pairwise hsorted]
  · rw [line?, Option.map_eq_none_iff, covering?_eq_none_iff]
  · simp only [line?, Option.map_eq_some_iff, covering?_eq_some_iff]
  · intro m' hreordered
    rw [line?, line?, hreordered.covering?]
  · intro m' hfilter
    rw [line?, line?, ← covering?_filter, hfilter, covering?_filter]

/-- Of the two entries that start last, the one stored last counts. -/
example : LineEntry.covering? 5 [⟨8, 12⟩, ⟨4, 13⟩, ⟨0, 10⟩, ⟨4, 11⟩] = some ⟨4, 11⟩ := by decide

end CallGraph
