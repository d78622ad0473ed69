import CallGraph.Proofs.Chunks
import CallGraph.Proofs.Walk
/-!
# Writing while walking

Each record is written as soon as a walk has come to it, so the walk reads files that the writing has changed already.
`drain_eq_ok` takes the two apart: a walk that finds the files as they were left by the records before, and the writing of
all its records. `Stands.amid` says how little these files differ from those at the start. What is written depends on
what the records look like, so that walks alike leave the same behind: `drain_simulated`.
-/

namespace CallGraph

/-- `t` is as `files` but for new directories, and for the files that the paths lead to. -/
def FileTree.Amid (files : FileTree) (paths : List String) (t : FileTree) : Prop :=
  ∀ l, (∀ p ∈ paths, t.writable p ≠ .ok l) →
    t.get? l = files.get? l ∨ files.get? l = none ∧ t.get? l = some .directory

namespace Chunks

variable {cs cs' : Chunks} {t t' t₁ : FileTree} {w w' : Walk} {rs : List Record} {r r' : Record}

theorem drain_of_none (h : w.next t = (none, w')) : cs.drain t w = (.ok (cs, w'), t) := by
  rw [drain]
  split
  · next h' =>
    rw [h] at h'
    simp only [Prod.mk.injEq, true_and] at h'
    rw [h']
  · next h' =>
    rw [h] at h'
    simp at h'

theorem drain_of_some (h : w.next t = (some r, w')) :
    cs.drain t w =
      match cs.add t r with
      | (.error failure, t) => (.error failure, t)
      | (.ok cs, t) => cs.drain t w' := by
  rw [drain]
  split
  · next h' =>
    rw [h] at h'
    simp at h'
  · next h' =>
    rw [h] at h'
    simp only [Prod.mk.injEq, Option.some.injEq] at h'
    obtain ⟨rfl, rfl⟩ := h'
    rfl

/-- The records that were written are those of a walk that met the files as the records before had left them. -/
theorem drain_eq_ok (h : cs.drain t w = (.ok (cs', w'), t')) :
    ∃ files : Nat → FileTree, (w.drain files).2 = w' ∧ cs.addAll t (w.drain files).1 = (.ok cs', t') ∧
      ∀ k, ∃ j cs'', cs.addAll t ((w.drain files).1.take j) = (.ok cs'', files k) := by
  generalize hr : w.route = es
  induction es generalizing cs t w with
  | nil =>
    obtain ⟨hnext, -⟩ := Walk.next_of_route_nil t hr
    rw [drain_of_none hnext] at h
    obtain ⟨⟨rfl, rfl⟩, rfl⟩ : (cs = cs' ∧ w.advance = w') ∧ t = t' := by simpa using h
    have hdrain : (w.drain fun _ => t) = ([], w.advance) := Walk.drain_of_none hnext
    exact ⟨fun _ => t, by rw [hdrain], by rw [hdrain]; rfl, fun _ => ⟨0, cs, rfl⟩⟩
  | cons e rest ih =>
    obtain ⟨r, w₁, hnext, -, hroute, -⟩ := Walk.next_edge t hr
    rw [drain_of_some hnext] at h
    cases hadd : cs.add t r with
    | mk result t₂ =>
      cases result with
      | error failure => simp [hadd] at h
      | ok cs₁ =>
        simp only [hadd] at h
        obtain ⟨later, hend, hall, hmet⟩ := ih h hroute
        let files (k : Nat) : FileTree := if k = 0 then t else later (k - 1)
        have hdrain : w.drain files = (r :: (w₁.drain later).1, (w₁.drain later).2) := Walk.drain_of_some hnext
        refine ⟨files, by rw [hdrain, hend], by rw [hdrain, addAll, hadd]; exact hall, fun k => ?_⟩
        rw [hdrain]
        cases k with
        | zero => exact ⟨0, cs, rfl⟩
        | succ k =>
          -- What was met later stands one record behind what was met from `w₁` on.
          obtain ⟨j, cs₂, hj⟩ := hmet k
          refine ⟨j + 1, cs₂, ?_⟩
          rw [List.take_succ_cons, addAll, hadd]
          exact hj

/-- Where all chunks can be opened, a walk is written to its end. -/
theorem drain_ok (h : cs.Stands t₁ t rs)
    (hready : cs.plan.Ready t₁ (chunkCount cs.plan.size (rs.length + w.route.length))) :
    ∃ cs' w' t' rs', cs.drain t w = (.ok (cs', w'), t') ∧ cs'.plan = cs.plan ∧ cs'.Stands t₁ t' rs' ∧
      rs'.length = rs.length + w.route.length := by
  generalize hr : w.route = es at hready
  induction es generalizing cs t w rs with
  | nil =>
    obtain ⟨hnext, -⟩ := Walk.next_of_route_nil t hr
    exact ⟨cs, w.advance, t, rs, drain_of_none hnext, rfl, h, rfl⟩
  | cons e rest ih =>
    obtain ⟨r, w₁, hnext, -, hroute, -⟩ := Walk.next_edge t hr
    rw [List.length_cons] at hready ⊢
    obtain ⟨cs₁, t₂, hadd⟩ := add_ok h r (hready.mono (chunkCount_mono _ (by omega)))
    obtain ⟨hplan, hstands⟩ := add_stands h hadd
    have hmore : (rs ++ [r]).length + rest.length = rs.length + (rest.length + 1) := by
      rw [List.length_append, List.length_singleton]
      omega
    obtain ⟨cs', w', t', rs', hdrain, hplan', hstands', hlength⟩ := ih hstands hroute (by rw [hplan, hmore]; exact hready)
    refine ⟨cs', w', t', rs', ?_, hplan'.trans hplan, hstands', hlength.trans hmore⟩
    rw [drain_of_some hnext, hadd]
    exact hdrain

/-- While records are written, nothing is changed but directories made and the chunks' files. -/
theorem Stands.amid {files : FileTree} {total : Nat} (hfiles : files.Furnished t₁) (h : cs.Stands t₁ t rs)
    (hle : rs.length ≤ total) :
    files.Amid ((List.range (chunkCount cs.plan.size total)).map (chunkPath cs.plan.base)) t := by
  intro l hl
  cases h with
  | fresh plan => exact hfiles.there l
  | @writing plan chunks written rs c _ hwriting hfull hne hroom =>
    have hcount := chunkCount_of_slices plan.size_pos hfull hroom fun h => absurd h hne
    have hmono := chunkCount_mono plan.size hle
    have hnot : l ∉ written ++ [c.location] := by
      intro hmem
      obtain ⟨k, hk, hplace⟩ := List.getElem_of_mem hmem
      have hlt : k < chunkCount plan.size total := by
        rw [List.length_append, List.length_singleton, ← hwriting.length] at hk
        omega
      have hwritable := hwriting.filed.places k l (by rw [List.getElem?_eq_getElem hk, hplace])
      exact hl _ (List.mem_map.2 ⟨k, List.mem_range.2 hlt, rfl⟩) hwritable
    rw [hwriting.filed.wrote.elsewhere l hnot]
    exact hfiles.there l

/-! ## Walks alike -/

theorem addTo_congr (h : cs.plan.encoding.view r = cs.plan.encoding.view r') (t : FileTree) (c : OpenChunk) :
    cs.addTo t c r = cs.addTo t c r' := by
  rw [addTo, addTo, Encoding.row_congr h]

theorem addToNew_congr (h : cs.plan.encoding.view r = cs.plan.encoding.view r') (t : FileTree) :
    cs.addToNew t r = cs.addToNew t r' := by
  unfold addToNew
  split
  · rfl
  · exact addTo_congr h _ _

theorem add_congr (h : cs.plan.encoding.view r = cs.plan.encoding.view r') (t : FileTree) :
    cs.add t r = cs.add t r' := by
  unfold add
  split
  · exact addToNew_congr h t
  · split
    · exact addTo_congr h t _
    · split
      · rfl
      · refine addToNew_congr ?_ _
        exact h

theorem addTo_plan {c : OpenChunk} (h : cs.addTo t c r = (.ok cs', t')) : cs'.plan = cs.plan := by
  unfold addTo at h
  split at h
  · simp at h
  · obtain rfl := Except.ok.inj (Prod.mk.inj h).1
    rfl

theorem addToNew_plan (h : cs.addToNew t r = (.ok cs', t')) : cs'.plan = cs.plan := by
  unfold addToNew at h
  split at h
  · simp at h
  · exact addTo_plan h

theorem add_plan (h : cs.add t r = (.ok cs', t')) : cs'.plan = cs.plan := by
  unfold add at h
  split at h
  · exact addToNew_plan h
  · split at h
    · exact addTo_plan h
    · split at h
      · simp at h
      · have hplan := addToNew_plan h
        exact hplan

/-- Walks that go on making records that look alike are written alike. -/
theorem drain_simulated {R : Walk → Walk → Prop} {S : Record → Record → Prop} {e : Encoding}
    (hstep : ∀ w w' t, R w w' → Option.Rel S (w.next t).1 (w'.next t).1 ∧ R (w.next t).2 (w'.next t).2)
    (hview : ∀ r r', S r r' → e.view r = e.view r') {w w' : Walk} (h : R w w') (he : cs.plan.encoding = e)
    (t : FileTree) :
    (cs.drain t w').1.map (·.1) = (cs.drain t w).1.map (·.1) ∧ (cs.drain t w').2 = (cs.drain t w).2 := by
  induction hn : w.edges using Nat.strongRecOn generalizing cs t w w' with
  | _ n ih =>
    obtain ⟨hrecord, hnext⟩ := hstep w w' t h
    rcases hu : w.next t with ⟨found, u⟩
    rcases hu' : w'.next t with ⟨found', u'⟩
    rw [hu, hu'] at hrecord hnext
    cases hrecord with
    | none =>
      rw [drain_of_none hu, drain_of_none hu']
      exact ⟨rfl, rfl⟩
    | some hsame =>
      rw [drain_of_some hu, drain_of_some hu', ← add_congr (he ▸ hview _ _ hsame)]
      rcases hadd : cs.add t _ with ⟨_ | cs', t'⟩
      · exact ⟨rfl, rfl⟩
      · exact ih _ (hn ▸ Walk.edges_next hu) hnext ((congrArg ChunkPlan.encoding (add_plan hadd)).trans he) t' rfl

end Chunks

end CallGraph
