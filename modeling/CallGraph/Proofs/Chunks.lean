import CallGraph.Output.Chunks
import CallGraph.Proofs.ChunkPaths
import CallGraph.Proofs.Rows
import CallGraph.Proofs.Sink
import CallGraph.Proofs.Slices
import Mathlib.Data.List.Nodup
/-!
# What a series of chunks holds

While records are written, the chunks that are finished hold full slices of them and the open one holds the rest:
`Chunks.Stands`. `add_stands` and `close_finished` say how a record and the end change this, whatever the records; where
no two chunks are the same file, the finished files have the text of their slices.
-/

namespace CallGraph

/-- The summary of chunks with these records. -/
def Summary.ofChunks (base : String) (chunks : List (List Record)) : Summary where
  files := (List.range chunks.length).map (chunkPath base)
  chunkRecords := chunks.map List.length
  records := chunks.flatten.length

theorem Summary.ofChunks_concat (base : String) (chunks : List (List Record)) (rs : List Record) :
    Summary.ofChunks base (chunks ++ [rs]) =
      { files := (Summary.ofChunks base chunks).files ++ [chunkPath base chunks.length]
        chunkRecords := (Summary.ofChunks base chunks).chunkRecords ++ [rs.length]
        records := (Summary.ofChunks base chunks).records + rs.length } := by
  simp [Summary.ofChunks, List.range_succ]

/-! ## Finished chunks -/

/-- The chunks with the records `chunks` are finished; they lie at the first of the places `written`, and nothing was
written elsewhere since `t₁`. Each has the text of its records, unless a later one went to the same place. -/
structure Filed (plan : ChunkPlan) (t₁ : FileTree) (chunks : List (List Record)) (written : List Location)
    (t : FileTree) : Prop where
  places : ∀ (k : Nat) l, written[k]? = some l → t.writable (chunkPath plan.base k) = .ok l
  content : ∀ (k : Nat) rs l, chunks[k]? = some rs → written[k]? = some l →
    (∀ j : Nat, k < j → written[j]? ≠ some l) → t.get? l = some (.file (plan.encoding.text rs).toUTF8)
  wrote : t₁.Wrote (· ∈ written) t

namespace Filed

variable {plan : ChunkPlan} {t₁ t t' : FileTree} {chunks : List (List Record)} {written : List Location} {l : Location}

theorem nil (plan : ChunkPlan) (t : FileTree) : Filed plan t [] [] t := ⟨by simp, by simp, .refl t⟩

/-- The last file is written: chunks that no later one replaces are other files. -/
theorem write (h : Filed plan t₁ chunks (written ++ [l]) t) (hlen : chunks.length = written.length)
    (hw : t.Wrote (· = l) t') : Filed plan t₁ chunks (written ++ [l]) t' where
  places k l' hk := hw.writable (h.places k l' hk)
  content k rs l' hk hl' hlast := by
    have hlt : k < written.length := hlen ▸ (List.getElem?_eq_some_iff.1 hk).1
    have hne : l' ≠ l := by
      rintro rfl
      exact hlast written.length hlt (by simp)
    rw [hw.elsewhere l' hne]
    exact h.content k rs l' hk hl' hlast
  wrote := h.wrote.trans (hw.mono fun k hk => by simp [hk])

/-- The next chunk has a place, whatever is there still. -/
theorem next (h : Filed plan t₁ chunks written t) (hlen : chunks.length = written.length)
    (hl : t.writable (chunkPath plan.base chunks.length) = .ok l) : Filed plan t₁ chunks (written ++ [l]) t := by
  refine ⟨fun k l' hk => ?_, fun k rs l' hk hl' hlast => ?_, h.wrote.mono fun k hk => by simp [hk]⟩
  · rcases Nat.lt_trichotomy k written.length with hlt | rfl | hgt
    · rw [List.getElem?_append_left hlt] at hk
      exact h.places k l' hk
    · obtain rfl : l = l' := by simpa using hk
      exact hlen ▸ hl
    · rw [List.getElem?_eq_none (by simp; omega)] at hk
      simp at hk
  · have hlt : k < written.length := hlen ▸ (List.getElem?_eq_some_iff.1 hk).1
    rw [List.getElem?_append_left hlt] at hl'
    refine h.content k rs l' hk hl' fun j hj hsame => hlast j hj ?_
    rw [List.getElem?_append_left (List.getElem?_eq_some_iff.1 hsame).1, hsame]

theorem create (h : Filed plan t₁ chunks written t) (hlen : chunks.length = written.length)
    (hc : t.create (chunkPath plan.base chunks.length) = .ok (l, t')) :
    Filed plan t₁ chunks (written ++ [l]) t' := by
  obtain ⟨hwritable, hwrote, -⟩ := FileTree.create_eq_ok hc
  exact (h.next hlen hwritable).write hlen hwrote

theorem finish {rs : List Record} (h : Filed plan t₁ chunks (written ++ [l]) t) (hlen : chunks.length = written.length)
    (hl : t.get? l = some (.file (plan.encoding.text rs).toUTF8)) :
    Filed plan t₁ (chunks ++ [rs]) (written ++ [l]) t where
  places := h.places
  content k rs' l' hk hl' hlast := by
    rcases Nat.lt_trichotomy k chunks.length with hlt | rfl | hgt
    · rw [List.getElem?_append_left hlt] at hk
      exact h.content k rs' l' hk hl' hlast
    · obtain rfl : rs = rs' := by simpa using hk
      obtain rfl : l = l' := by simpa [hlen] using hl'
      exact hl
    · rw [List.getElem?_eq_none (by simp; omega)] at hk
      simp at hk
  wrote := h.wrote

end Filed

/-! ## The open chunk -/

/-- Behind the finished chunks one is open; it has the opening and the rows of `rs`. -/
structure Writing (plan : ChunkPlan) (t₁ : FileTree) (chunks : List (List Record)) (written : List Location)
    (rs : List Record) (c : OpenChunk) (t : FileTree) : Prop where
  filed : Filed plan t₁ chunks (written ++ [c.location]) t
  length : chunks.length = written.length
  index : c.index = chunks.length
  path : c.path = chunkPath plan.base chunks.length
  count : c.count = rs.length
  holds : (⟨t, c.location, c.pending⟩ : OpenFile).Holds
    (String.join (plan.encoding.opening ++ plan.encoding.rows rs)).toUTF8

theorem OpenChunk.put_eq_ok {c c' : OpenChunk} {t t' : FileTree} {pieces : List String}
    (h : c.put t pieces = (.ok c', t')) :
    c' = { c with pending := c'.pending } ∧
      OpenFile.Took ⟨t, c.location, c.pending⟩ ⟨t', c.location, c'.pending⟩ (String.join pieces).toUTF8 := by
  unfold put at h
  split at h
  · simp at h
  · next f hf =>
    have htook := OpenFile.writeAll_took hf
    obtain ⟨rfl, rfl⟩ : { c with pending := f.pending } = c' ∧ f.tree = t' := by simpa using h
    refine ⟨rfl, ?_⟩
    have hlocation : f.location = c.location := htook.location
    exact hlocation ▸ htook

section
variable {plan : ChunkPlan} {t₁ t t' : FileTree} {chunks : List (List Record)} {written : List Location}
  {rs : List Record} {c : OpenChunk}

theorem openChunk_writing (h : Filed plan t₁ chunks written t) (hlen : chunks.length = written.length)
    (ho : plan.openChunk t chunks.length = (.ok c, t')) : Writing plan t₁ chunks written [] c t' := by
  unfold ChunkPlan.openChunk at ho
  dsimp only at ho
  split at ho
  · simp at ho
  · next l t₂ hcreate =>
    obtain ⟨hc, htook⟩ := OpenChunk.put_eq_ok ho
    have hempty : (⟨t₂, l, .empty⟩ : OpenFile).Holds .empty := by
      rcases (FileTree.create_eq_ok hcreate).2.2 with hfile | hfull
      · exact .inl ⟨.empty, hfile, by simp⟩
      · exact .inr ⟨hfull, rfl⟩
    have hfiled := (h.create hlen hcreate).write hlen htook.wrote
    rw [hc]
    exact ⟨hfiled, hlen, rfl, rfl, rfl, by simpa [Encoding.rows] using htook.holds _ hempty⟩

theorem Writing.row {cs cs' : Chunks} {r : Record} (h : Writing cs.plan t₁ chunks written rs c t)
    (ha : cs.addTo t c r = (.ok cs', t')) :
    ∃ c', cs' = { cs with current := some c' } ∧ Writing cs.plan t₁ chunks written (rs ++ [r]) c' t' := by
  unfold Chunks.addTo at ha
  split at ha
  · simp at ha
  · next c₁ t₂ hput =>
    obtain ⟨rfl, rfl⟩ : { cs with current := some { c₁ with count := c₁.count + 1 } } = cs' ∧ t₂ = t' := by
      simpa using ha
    obtain ⟨hc, htook⟩ := OpenChunk.put_eq_ok hput
    refine ⟨_, rfl, ?_⟩
    have hfiled := h.filed.write h.length htook.wrote
    have hholds := htook.holds _ h.holds
    rw [h.count, ← toUTF8_append, ← String.join_append, List.append_assoc, ← Encoding.rows_concat] at hholds
    rw [hc]
    exact ⟨hfiled, h.length, h.index, h.path, by simp [h.count], hholds⟩

/-- A chunk that can be finished was no full device. -/
theorem Writing.finish (h : Writing plan t₁ chunks written rs c t) (hf : plan.finish t c = (.ok (), t')) :
    Filed plan t₁ (chunks ++ [rs]) (written ++ [c.location]) t' := by
  unfold ChunkPlan.finish at hf
  split at hf
  · simp at hf
  · next c₁ t₂ hput =>
    obtain ⟨hc, htook⟩ := OpenChunk.put_eq_ok hput
    unfold OpenChunk.flush at hf
    split at hf
    · simp at hf
    · next f hflush =>
      obtain rfl : f.tree = t' := by simpa using hf
      have hlocation : c₁.location = c.location := by rw [hc]
      rw [hlocation] at hflush
      obtain ⟨htook', hempty⟩ := OpenFile.flush_took hflush
      have hall := htook.trans htook'
      have hholds := hall.holds _ h.holds
      rw [ByteArray.append_empty, ← toUTF8_append, ← String.join_append, OpenFile.Holds, hempty,
        hall.location] at hholds
      refine (h.filed.write h.length hall.wrote).finish h.length ?_
      -- A full device would have taken no byte, and a file of records has some.
      rcases hholds with ⟨content, hfile, hcontent⟩ | ⟨-, hfull⟩
      · rw [hfile, ← ByteArray.append_empty (b := content), hcontent]
        rfl
      · exact absurd hfull.symm (plan.encoding.text_ne_empty rs)

end

/-! ## A series of chunks -/

/-- `cs` has taken the records `rs` since the files were as in `t₁`: none yet, or the finished chunks are full and the open
one has the rest, at least one record. -/
inductive Chunks.Stands (t₁ : FileTree) : Chunks → FileTree → List Record → Prop
  | fresh (plan : ChunkPlan) : Stands t₁ { plan } t₁ []
  | writing {plan : ChunkPlan} {chunks : List (List Record)} {written : List Location} {rs : List Record} {c : OpenChunk}
      {t : FileTree} : Writing plan t₁ chunks written rs c t → (∀ full ∈ chunks, full.length = plan.size) → rs ≠ [] →
      rs.length ≤ plan.size → Stands t₁ ⟨plan, .ofChunks plan.base chunks, some c⟩ t (chunks.flatten ++ rs)

namespace Chunks

variable {t₁ t t' : FileTree} {cs cs' : Chunks} {rs : List Record} {r : Record} {summary : Summary}

theorem Stands.addToNew {plan : ChunkPlan} {chunks : List (List Record)} {written : List Location}
    (h : Filed plan t₁ chunks written t) (hlen : chunks.length = written.length)
    (hfull : ∀ full ∈ chunks, full.length = plan.size)
    (ha : Chunks.addToNew ⟨plan, .ofChunks plan.base chunks, none⟩ t r = (.ok cs', t')) :
    cs'.plan = plan ∧ Stands t₁ cs' t' (chunks.flatten ++ [r]) := by
  unfold Chunks.addToNew at ha
  split at ha
  · simp at ha
  · next c t₂ ho =>
    have hindex : (Summary.ofChunks plan.base chunks).files.length = chunks.length := by simp [Summary.ofChunks]
    rw [hindex] at ho
    obtain ⟨c', rfl, hwriting⟩ := (openChunk_writing h hlen ho).row ha
    exact ⟨rfl, .writing hwriting hfull (by simp) plan.size_pos⟩

theorem full_concat {size : Nat} {chunks : List (List Record)} (hfull : ∀ full ∈ chunks, full.length = size)
    (hle : rs.length ≤ size) (hroom : ¬rs.length < size) : ∀ full ∈ chunks ++ [rs], full.length = size := by
  intro full hm
  rcases List.mem_append.1 hm with hm | hm
  · exact hfull full hm
  · rw [List.mem_singleton.1 hm]
    omega

theorem summaryWith_eq {plan : ChunkPlan} {chunks : List (List Record)} {written : List Location} {c : OpenChunk}
    (h : Writing plan t₁ chunks written rs c t) (current : Option OpenChunk) :
    summaryWith ⟨plan, .ofChunks plan.base chunks, current⟩ c = .ofChunks plan.base (chunks ++ [rs]) := by
  rw [Summary.ofChunks_concat, summaryWith, h.path, h.count]

/-- Another record: one chunk is filled after the other. -/
theorem add_stands (h : cs.Stands t₁ t rs) (ha : cs.add t r = (.ok cs', t')) :
    cs'.plan = cs.plan ∧ cs'.Stands t₁ t' (rs ++ [r]) := by
  cases h with
  | fresh plan =>
    -- The first record opens the first chunk.
    exact Stands.addToNew (.nil plan _) rfl (by simp) ha
  | @writing plan chunks written rs c _ hwriting hfull hne hle =>
    unfold add at ha
    dsimp only at ha
    split at ha
    · next hroom =>
      -- The open chunk has room.
      obtain ⟨c', rfl, hwriting'⟩ := hwriting.row ha
      rw [hwriting.count] at hroom
      rw [List.append_assoc]
      exact ⟨rfl, .writing hwriting' hfull (by simp) (by simpa using Nat.succ_le_of_lt hroom)⟩
    · next hroom =>
      -- The open chunk is full, so it becomes one of the finished ones.
      rw [hwriting.count] at hroom
      split at ha
      · simp at ha
      · next t₂ hfinish =>
        have hfiled := hwriting.finish hfinish
        have hlen : (chunks ++ [rs]).length = (written ++ [c.location]).length := by simp [hwriting.length]
        rw [summaryWith_eq hwriting] at ha
        simpa using Stands.addToNew hfiled hlen (full_concat hfull hle hroom) ha

theorem addAll_stands (rest : List Record) (h : cs.Stands t₁ t rs) (ha : cs.addAll t rest = (.ok cs', t')) :
    cs'.plan = cs.plan ∧ cs'.Stands t₁ t' (rs ++ rest) := by
  induction rest generalizing cs t rs with
  | nil =>
    obtain ⟨rfl, rfl⟩ : cs = cs' ∧ t = t' := by simpa [addAll] using ha
    exact ⟨rfl, by simpa using h⟩
  | cons r rest ih =>
    unfold addAll at ha
    split at ha
    · simp at ha
    · next cs₂ t₂ hadd =>
      obtain ⟨hplan, hstands⟩ := add_stands h hadd
      obtain ⟨hplan', hstands'⟩ := ih hstands ha
      exact ⟨hplan'.trans hplan, by simpa using hstands'⟩

theorem closeWith_filed {plan : ChunkPlan} {chunks : List (List Record)} {written : List Location} {c : OpenChunk}
    {current : Option OpenChunk} (h : Writing plan t₁ chunks written rs c t)
    (hc : closeWith ⟨plan, .ofChunks plan.base chunks, current⟩ t c = (.ok summary, t')) :
    Filed plan t₁ (chunks ++ [rs]) (written ++ [c.location]) t' ∧
      summary = .ofChunks plan.base (chunks ++ [rs]) := by
  unfold closeWith at hc
  split at hc
  · simp at hc
  · next t₂ hfinish =>
    obtain ⟨rfl, rfl⟩ : summaryWith ⟨plan, .ofChunks plan.base chunks, current⟩ c = summary ∧ t₂ = t' := by
      simpa using hc
    exact ⟨h.finish hfinish, summaryWith_eq h current⟩

/-- At the end the chunks are the slices of the records. -/
theorem close_filed (h : cs.Stands t₁ t rs) (hc : cs.close t = (.ok summary, t')) :
    ∃ written, written.length = (slices cs.plan.size rs).length ∧
      Filed cs.plan t₁ (slices cs.plan.size rs) written t' ∧
      summary = .ofChunks cs.plan.base (slices cs.plan.size rs) := by
  cases h with
  | fresh plan =>
    -- Without records there is one chunk all the same.
    unfold close at hc
    dsimp only at hc
    split at hc
    · simp at hc
    · next c t₂ ho =>
      have hwriting := openChunk_writing (.nil plan _) rfl ho
      rw [slices_of_length_le plan.size_pos (Nat.zero_le _)]
      exact ⟨_, rfl, closeWith_filed hwriting hc⟩
  | @writing plan chunks written rs c _ hwriting hfull hne hle =>
    rw [slices_eq plan.size_pos hfull hle fun h => absurd h hne]
    exact ⟨_, by simp [hwriting.length], closeWith_filed hwriting hc⟩

end Chunks

/-! ## Nothing is refused -/

/-- The first `count` chunks can be opened, and none of them is a full device. -/
def ChunkPlan.Ready (plan : ChunkPlan) (t : FileTree) (count : Nat) : Prop :=
  ∀ k < count, ∃ l, t.writable (chunkPath plan.base k) = .ok l ∧ t.get? l ≠ some .full

section
variable {plan : ChunkPlan} {t₁ t : FileTree} {chunks : List (List Record)} {written : List Location}
  {rs : List Record} {c : OpenChunk} {count : Nat}

theorem ChunkPlan.Ready.mono {count' : Nat} (h : plan.Ready t count) (hle : count' ≤ count) : plan.Ready t count' :=
  fun k hk => h k (by omega)

theorem FileTree.Wrote.ne_full {places : Location → Prop} {l : Location} (h : t₁.Wrote places t)
    (hl : t₁.get? l ≠ some .full) : t.get? l ≠ some .full := by
  rcases h.there l with hs | ⟨-, content, hfile⟩
  · rwa [hs]
  · simp [hfile]

theorem OpenChunk.put_ok (hf : (⟨t, c.location, c.pending⟩ : OpenFile).IsRegular) (pieces : List String) :
    ∃ c' t', c.put t pieces = (.ok c', t') ∧ (⟨t', c'.location, c'.pending⟩ : OpenFile).IsRegular := by
  obtain ⟨f, hwrite, hregular⟩ := OpenFile.writeAll_isRegular pieces hf
  have hlocation : f.location = c.location := (OpenFile.writeAll_took hwrite).location
  refine ⟨{ c with pending := f.pending }, f.tree, by simp only [put, hwrite], ?_⟩
  rw [← hlocation]
  exact hregular

theorem OpenChunk.flush_ok (hf : (⟨t, c.location, c.pending⟩ : OpenFile).IsRegular) : ∃ t', c.flush t = (.ok (), t') := by
  obtain ⟨f, hflush, -⟩ := OpenFile.flush_isRegular hf
  exact ⟨f.tree, by simp only [flush, hflush]⟩

theorem Writing.isRegular (h : Writing plan t₁ chunks written rs c t) (hready : plan.Ready t₁ (chunks.length + 1)) :
    (⟨t, c.location, c.pending⟩ : OpenFile).IsRegular := by
  obtain ⟨l, hl, hne⟩ := hready chunks.length (Nat.lt_succ_self _)
  have hwritable : t.writable (chunkPath plan.base chunks.length) = .ok c.location :=
    h.filed.places _ _ (by simp [h.length])
  obtain rfl : l = c.location := by simpa using (h.filed.wrote.writable hl).symm.trans hwritable
  rcases h.holds with ⟨content, hfile, -⟩ | ⟨hfull, -⟩
  · exact ⟨content, hfile⟩
  · exact absurd hfull (h.filed.wrote.ne_full hne)

theorem Writing.addTo_ok (h : Writing plan t₁ chunks written rs c t) (hready : plan.Ready t₁ (chunks.length + 1))
    (done : Summary) (current : Option OpenChunk) (r : Record) :
    ∃ cs' t', Chunks.addTo ⟨plan, done, current⟩ t c r = (.ok cs', t') := by
  obtain ⟨c', t', hput, -⟩ := OpenChunk.put_ok (h.isRegular hready) (plan.encoding.row c.count r)
  exact ⟨_, t', by rw [Chunks.addTo, hput]⟩

theorem Writing.finish_ok (h : Writing plan t₁ chunks written rs c t) (hready : plan.Ready t₁ (chunks.length + 1)) :
    ∃ t', plan.finish t c = (.ok (), t') := by
  obtain ⟨c', t₂, hput, hregular⟩ := OpenChunk.put_ok (h.isRegular hready) plan.encoding.closing
  obtain ⟨t', hflush⟩ := OpenChunk.flush_ok hregular
  exact ⟨t', by simp only [ChunkPlan.finish, hput, hflush]⟩

theorem Filed.openChunk_ok (h : Filed plan t₁ chunks written t) (hready : plan.Ready t₁ (chunks.length + 1)) :
    ∃ c t', plan.openChunk t chunks.length = (.ok c, t') := by
  obtain ⟨l, hl, hne⟩ := hready chunks.length (Nat.lt_succ_self _)
  have hwritable := h.wrote.writable hl
  have hcreate : t.create (chunkPath plan.base chunks.length) = .ok (l, t.put l (.file .empty)) := by
    rw [FileTree.create, hwritable]
    simp only [h.wrote.ne_full hne, if_false]
  have hregular : (⟨t.put l (.file .empty), l, .empty⟩ : OpenFile).IsRegular :=
    ⟨.empty, t.get?_put_self _ (FileTree.get?_of_writable hwritable).2⟩
  obtain ⟨c, t', hput, -⟩ := OpenChunk.put_ok (c := ⟨chunks.length, chunkPath plan.base chunks.length, l, .empty, 0⟩)
    hregular plan.encoding.opening
  exact ⟨c, t', by simp only [ChunkPlan.openChunk, hcreate, hput]⟩

theorem Filed.addToNew_ok (h : Filed plan t₁ chunks written t) (hlen : chunks.length = written.length)
    (hready : plan.Ready t₁ (chunks.length + 1)) (r : Record) :
    ∃ cs' t', Chunks.addToNew ⟨plan, .ofChunks plan.base chunks, none⟩ t r = (.ok cs', t') := by
  obtain ⟨c, t₂, ho⟩ := h.openChunk_ok hready
  have hwriting := openChunk_writing h hlen ho
  have hindex : (Summary.ofChunks plan.base chunks).files.length = chunks.length := by simp [Summary.ofChunks]
  rw [Chunks.addToNew, hindex, ho]
  exact hwriting.addTo_ok hready _ _ r

end

namespace Chunks

variable {t₁ t : FileTree} {cs : Chunks} {rs : List Record}

theorem add_ok (h : cs.Stands t₁ t rs) (r : Record)
    (hready : cs.plan.Ready t₁ (chunkCount cs.plan.size (rs.length + 1))) :
    ∃ cs' t', cs.add t r = (.ok cs', t') := by
  cases h with
  | fresh plan =>
    have hcount : chunkCount plan.size 1 = 1 := chunkCount_of_le plan.size_pos plan.size_pos
    have hready' : plan.Ready t₁ 1 := by
      rw [← hcount]
      exact hready
    exact (Filed.nil plan _).addToNew_ok rfl hready' r
  | @writing plan chunks written rs c _ hwriting hfull hne hle =>
    dsimp only at hready
    have hcount := chunkCount_of_slices plan.size_pos hfull hle fun h => absurd h hne
    have hready' : plan.Ready t₁ (chunks.length + 1) := by
      rw [← hcount]
      exact hready.mono (chunkCount_mono _ (Nat.le_succ _))
    unfold add
    dsimp only
    split
    · exact hwriting.addTo_ok hready' _ _ r
    · next hroom =>
      rw [hwriting.count] at hroom
      obtain ⟨t₂, hfinish⟩ := hwriting.finish_ok hready'
      have hlen : (chunks ++ [rs]).length = (written ++ [c.location]).length := by simp [hwriting.length]
      have hone : [r].length ≤ plan.size := plan.size_pos
      have hcount' := chunkCount_of_slices plan.size_pos (full_concat hfull hle hroom) hone (by simp)
      rw [List.flatten_append, List.flatten_singleton, List.length_append, List.length_singleton] at hcount'
      rw [hcount'] at hready
      simp only [hfinish, summaryWith_eq hwriting]
      exact (hwriting.finish hfinish).addToNew_ok hlen hready r

theorem addAll_ok (rest : List Record) (h : cs.Stands t₁ t rs)
    (hready : cs.plan.Ready t₁ (chunkCount cs.plan.size (rs ++ rest).length)) :
    ∃ cs' t', cs.addAll t rest = (.ok cs', t') := by
  induction rest generalizing cs t rs with
  | nil => exact ⟨cs, t, rfl⟩
  | cons r rest ih =>
    obtain ⟨cs₂, t₂, hadd⟩ := add_ok h r (hready.mono (chunkCount_mono _ (by simp)))
    obtain ⟨hplan, hstands⟩ := add_stands h hadd
    rw [addAll, hadd]
    exact ih hstands (by simpa [hplan] using hready)

theorem closeWith_ok {plan : ChunkPlan} {chunks : List (List Record)} {written : List Location} {c : OpenChunk}
    (h : Writing plan t₁ chunks written rs c t) (hready : plan.Ready t₁ (chunks.length + 1)) (done : Summary)
    (current : Option OpenChunk) : ∃ summary t', closeWith ⟨plan, done, current⟩ t c = (.ok summary, t') := by
  obtain ⟨t', hfinish⟩ := h.finish_ok hready
  refine ⟨summaryWith ⟨plan, done, current⟩ c, t', ?_⟩
  rw [closeWith, hfinish]

theorem close_ok (h : cs.Stands t₁ t rs) (hready : cs.plan.Ready t₁ (chunkCount cs.plan.size rs.length)) :
    ∃ summary t', cs.close t = (.ok summary, t') := by
  cases h with
  | fresh plan =>
    have hcount : chunkCount plan.size 0 = 1 := chunkCount_of_le plan.size_pos (Nat.zero_le _)
    have hready' : plan.Ready t₁ 1 := by
      rw [← hcount]
      exact hready
    obtain ⟨c, t₂, ho⟩ := (Filed.nil plan _).openChunk_ok hready'
    obtain ⟨summary, t', hclose⟩ := closeWith_ok (openChunk_writing (.nil plan _) rfl ho) hready' {} none
    unfold close
    dsimp only
    rw [show plan.openChunk t₁ ([] : List String).length = _ from ho]
    exact ⟨summary, t', hclose⟩
  | @writing plan chunks written rs c _ hwriting hfull hne hle =>
    have hcount := chunkCount_of_slices plan.size_pos hfull hle fun h => absurd h hne
    rw [hcount] at hready
    exact closeWith_ok hwriting hready _ _

end Chunks

/-! ## Main theorem -/

theorem length_slices {α : Type} (size : Nat) (xs : List α) :
    (slices size xs).length = chunkCount size xs.length := by
  rw [slices, List.length_map, List.length_range]

theorem getElem?_slices {α : Type} {size : Nat} {xs : List α} {k : Nat} (hk : k < chunkCount size xs.length) :
    (slices size xs)[k]? = some (slice size xs k) := by
  rw [slices, List.getElem?_map, List.getElem?_range hk, Option.map_some]

/-- Chunks that are opened where no links stand are different files. -/
theorem Filed.nodup {plan : ChunkPlan} {t₁ t : FileTree} {chunks : List (List Record)} {written : List Location}
    (h : Filed plan t₁ chunks written t) (hready : plan.Ready t₁ written.length)
    (hlinks : ∀ k < written.length, ¬t₁.EndsInLink (chunkPath plan.base k)) : written.Nodup := by
  have hplace (k : Nat) (hk : k < written.length) : t₁.writable (chunkPath plan.base k) = .ok written[k] := by
    obtain ⟨l, hl, -⟩ := hready k hk
    have hl' := h.places k _ (List.getElem?_eq_getElem hk)
    obtain rfl : l = written[k] := by simpa using (h.wrote.writable hl).symm.trans hl'
    exact hl
  rw [List.Nodup, List.pairwise_iff_getElem]
  intro i j hi hj hij heq
  have hzero : 0 < written.length := by omega
  have hsame := place_injective (hplace 0 hzero) (heq ▸ hplace i hi) (hplace j hj) (hlinks i hi) (hlinks j hj)
  omega

/-- Where no two chunks are one file, each can be read. -/
theorem Filed.read {plan : ChunkPlan} {t₁ t : FileTree} {chunks : List (List Record)} {written : List Location}
    (h : Filed plan t₁ chunks written t) (hlen : written.length = chunks.length) (hnodup : written.Nodup) {k : Nat}
    {rs : List Record} (hk : chunks[k]? = some rs) :
    t.read (chunkPath plan.base k) = .ok (plan.encoding.text rs).toUTF8 := by
  have hlt : k < written.length := hlen ▸ (List.getElem?_eq_some_iff.1 hk).1
  have hplace := List.getElem?_eq_getElem hlt
  refine FileTree.read_of_writable (h.places k _ hplace) (h.content k _ _ hk hplace fun j hj hsame => ?_)
  have hjk := (List.getElem?_inj hlt hnodup).1 (hplace.trans hsame.symm)
  omega

/-- Where the directory of the output can be made, and the chunks can be opened and are no links, all records are
written: the files in the summary, in order, are all the chunks there are to be; each has the text of its slice, whatever
it had before, and nothing else is changed but that directories are made. All slices but the last are full, and none is
empty unless there are no records. -/
theorem writeAll_slices (plan : ChunkPlan) (rs : List Record) {t t₁ : FileTree}
    (hparent : t.makeParent plan.base = (.ok (), t₁))
    (hready : plan.Ready t₁ (chunkCount plan.size rs.length))
    (hlinks : ∀ k < chunkCount plan.size rs.length, ¬t₁.EndsInLink (chunkPath plan.base k)) :
    ∃ summary t', plan.writeAll t rs = (.ok summary, t') ∧
      summary.files = (List.range (chunkCount plan.size rs.length)).map (chunkPath plan.base) ∧
      summary.files.Nodup ∧
      summary.chunkRecords = (slices plan.size rs).map List.length ∧
      summary.records = rs.length ∧
      (∀ k < chunkCount plan.size rs.length,
        t'.read (chunkPath plan.base k) = .ok (plan.encoding.text (slice plan.size rs k)).toUTF8) ∧
      (∀ k, k + 1 < chunkCount plan.size rs.length → (slice plan.size rs k).length = plan.size) ∧
      (rs ≠ [] → ∀ k < chunkCount plan.size rs.length, slice plan.size rs k ≠ []) ∧
      ∀ l, (∀ k < chunkCount plan.size rs.length, t₁.writable (chunkPath plan.base k) ≠ .ok l) →
        t'.get? l = t.get? l ∨ t.get? l = none ∧ t'.get? l = some .directory := by
  have hstart : Chunks.Stands t₁ { plan } t₁ [] := .fresh plan
  obtain ⟨cs, t₂, hadd⟩ := Chunks.addAll_ok rs hstart hready
  obtain ⟨hplan, hstands⟩ := Chunks.addAll_stands rs hstart hadd
  rw [List.nil_append] at hstands
  have hplan : cs.plan = plan := hplan
  obtain ⟨summary, t', hclose⟩ := Chunks.close_ok hstands (hplan ▸ hready)
  obtain ⟨written, hlen, hfiled, hsummary⟩ := Chunks.close_filed hstands hclose
  rw [hplan] at hlen hfiled hsummary
  rw [length_slices] at hlen
  have hnodup := hfiled.nodup (hlen ▸ hready) (hlen ▸ hlinks)
  have hfiles : summary.files = (List.range (chunkCount plan.size rs.length)).map (chunkPath plan.base) := by
    rw [hsummary, Summary.ofChunks, length_slices]
  refine ⟨summary, t', ?_, hfiles, ?_, ?_, ?_, ?_, fun k => length_slice_of_succ_lt plan.size_pos,
    fun hne k hk => slice_ne_nil plan.size_pos hk hne, ?_⟩
  · simp only [ChunkPlan.writeAll, Chunks.start, hparent, hadd, hclose]
  · rw [hfiles]
    exact List.nodup_range.map fun i j h => chunkPath_injective plan.base h
  · rw [hsummary, Summary.ofChunks]
  · rw [hsummary, Summary.ofChunks, flatten_slices plan.size_pos]
  · intro k hk
    exact hfiled.read (by rw [hlen, length_slices]) hnodup (getElem?_slices hk)
  · intro l hl
    -- The places written to are where the chunks would have been opened at the start.
    have hnot : l ∉ written := by
      intro hmem
      obtain ⟨k, hk, rfl⟩ := List.getElem_of_mem hmem
      obtain ⟨l', hl', -⟩ := hready k (hlen ▸ hk)
      have hplace := hfiled.places k _ (List.getElem?_eq_getElem hk)
      obtain rfl : l' = written[k] := by simpa using (hfiled.wrote.writable hl').symm.trans hplace
      exact hl k (hlen ▸ hk) hl'
    have hfurnished := FileTree.makeParent_furnished t plan.base
    rw [hparent] at hfurnished
    rw [hfiled.wrote.elsewhere l hnot]
    exact hfurnished.there l

/-- Two records, one to a file. -/
theorem writeAll_pair :
    ∃ summary t', ChunkPlan.writeAll ⟨"/o", .tsv, 1, by decide⟩ ⟨[], []⟩ [default, default] = (.ok summary, t') ∧
      summary.files = ["/o", "/o0"] ∧ t'.read "/o0" = .ok (Encoding.tsv.text [default]).toUTF8 := by
  have hroot : FileTree.AtRoot "/o" "o" := by decide
  have hparent := hroot.makeParent ⟨[], []⟩
  have hcount : chunkCount 1 2 = 2 := by decide
  have hempty (l : Location) (hl : l ≠ []) : FileTree.get? ⟨[], []⟩ l = none := by simp [FileTree.get?, hl]
  have hready : ChunkPlan.Ready ⟨"/o", .tsv, 1, by decide⟩ ⟨[], []⟩ (chunkCount 1 2) := by
    have hpaths : FileTree.AtRoot (chunkPath "/o" 0) "o" ∧ FileTree.AtRoot (chunkPath "/o" 1) "o0" := by decide
    intro k hk
    obtain rfl | rfl : k = 0 ∨ k = 1 := by omega
    · exact ⟨["o"], hpaths.1.writable (.inl (hempty _ (by simp))), by simp [hempty]⟩
    · exact ⟨["o0"], hpaths.2.writable (.inl (hempty _ (by simp))), by simp [hempty]⟩
  have hlinks : ∀ k < chunkCount 1 2, ¬FileTree.EndsInLink ⟨[], []⟩ (chunkPath "/o" k) := by
    rintro k - ⟨dirs, last, d, target, -, -, hget⟩
    simp [hempty] at hget
  obtain ⟨summary, t', hrun, hfiles, -, -, -, hread, -⟩ :=
    writeAll_slices ⟨"/o", .tsv, 1, by decide⟩ [default, default] hparent hready hlinks
  exact ⟨summary, t', hrun, hfiles, hread 1 (by decide)⟩

end CallGraph
