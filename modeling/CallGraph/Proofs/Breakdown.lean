import CallGraph.Proofs.Chunks
import CallGraph.Proofs.Disk
/-!
# Where writing breaks off

The first operation that fails ends the writing of chunks, and its chunk is the one that the failure names. What a failed
operation can have spoiled is the file of that chunk, `Confined`; so the chunks before it are finished and those behind it
were not begun, `Broken`.
-/

namespace CallGraph

namespace OnDisk

variable {ε α β : Type} {path : String} {blame : FileFault → ε} {places : Location → Prop}

/-- `x` is about the file at `path`: it writes at `places` only, and fails with the one fault it meets. -/
structure Confined (path : String) (blame : FileFault → ε) (places : Location → Prop) (x : OnDisk ε α) : Prop where
  ok : ∀ d a d', x d = (.ok a, d') → d'.faults = d.faults ∧ d.tree.Wrote places d'.tree
  error : ∀ d e d', x d = (.error e, d') →
    ∃ fault, e = blame fault ∧ d'.faults = d.faults ++ [(path, fault)] ∧ d.tree.Wrote places d'.tree

theorem Confined.pure (a : α) : Confined path blame places (Pure.pure a) where
  ok d b d' h := by
    obtain ⟨-, rfl⟩ := Prod.mk.inj h
    exact ⟨rfl, .refl _⟩
  error d e d' h := by simp [Pure.pure] at h

theorem Confined.bind {x : OnDisk ε α} {f : α → OnDisk ε β} (hx : Confined path blame places x)
    (hf : ∀ d a d', x d = (.ok a, d') → Confined path blame places (f a)) : Confined path blame places (x >>= f) where
  ok d b d' h := by
    obtain ⟨a, d₁, hxd, hfd⟩ := bind_eq_ok h
    obtain ⟨hfaults, hwrote⟩ := hx.ok d a d₁ hxd
    obtain ⟨hfaults', hwrote'⟩ := (hf d a d₁ hxd).ok d₁ b d' hfd
    exact ⟨hfaults'.trans hfaults, hwrote.trans hwrote'⟩
  error d e d' h := by
    rcases bind_eq_error h with hxd | ⟨a, d₁, hxd, hfd⟩
    · exact hx.error d e d' hxd
    · obtain ⟨hfaults, hwrote⟩ := hx.ok d a d₁ hxd
      obtain ⟨fault, he, hfaults', hwrote'⟩ := (hf d a d₁ hxd).error d₁ e d' hfd
      exact ⟨fault, he, by rw [hfaults', hfaults], hwrote.trans hwrote'⟩

theorem blaming_eq_ok {x : OnDisk FileFault α} {d d' : Disk} {a : α} (h : x.blaming blame d = (.ok a, d')) :
    x d = (.ok a, d') := by
  unfold OnDisk.blaming at h
  split at h
  · simp at h
  · next b d₁ hx =>
    obtain ⟨hb, rfl⟩ := Prod.mk.inj h
    obtain rfl := Except.ok.inj hb
    exact hx

theorem blaming_eq_error {x : OnDisk FileFault α} {d d' : Disk} {e : ε} (h : x.blaming blame d = (.error e, d')) :
    ∃ fault, e = blame fault ∧ x d = (.error fault, d') := by
  unfold OnDisk.blaming at h
  split at h
  · next fault d₁ hx =>
    obtain ⟨he, rfl⟩ := Prod.mk.inj h
    exact ⟨fault, (Except.error.inj he).symm, hx⟩
  · simp at h

theorem Confined.blaming {x : OnDisk FileFault α} (h : Confined path id places x) (blame : FileFault → ε) :
    Confined path blame places (x.blaming blame) where
  ok d a d' hd := h.ok d a d' (blaming_eq_ok hd)
  error d e d' hd := by
    obtain ⟨fault, rfl, hx⟩ := blaming_eq_error hd
    obtain ⟨fault', rfl, hfaults, hwrote⟩ := h.error d fault d' hx
    exact ⟨_, rfl, hfaults, hwrote⟩

end OnDisk

namespace Disk

open OnDisk

/-! ## One chunk -/

theorem spoil_wrote (t : FileTree) (l : Location) (left : Option ByteArray) : t.Wrote (· = l) (spoil t l left) := by
  unfold spoil
  split
  · next hnone =>
    have hroot : l ≠ [] := fun hl => by simp [hl, FileTree.get?] at hnone
    exact .put hroot (.inl hnone) _
  · next content hfile =>
    have hroot : l ≠ [] := fun hl => by simp [hl, FileTree.get?] at hfile
    exact .put hroot (.inr ⟨_, hfile⟩) _
  · exact .refl t

theorem append_confined (path : String) (l : Location) (bytes : ByteArray) :
    Confined path id (· = l) (append path l bytes) where
  ok d a d' h := by
    unfold append perform at h
    split at h
    · simp at h
    · cases happ : d.tree.append l bytes with
      | error fault => simp [happ, Except.map] at h
      | ok t =>
        obtain rfl : (⟨t, d.ahead.tail, d.faults⟩ : Disk) = d' := by simpa [happ, Except.map] using h
        exact ⟨rfl, FileTree.append_wrote happ⟩
  error d e d' h := by
    unfold append perform at h
    split at h
    · next m hm =>
      obtain ⟨he, rfl⟩ := Prod.mk.inj h
      exact ⟨m.fault, (Except.error.inj he).symm, rfl, spoil_wrote _ _ _⟩
    · cases happ : d.tree.append l bytes with
      | error fault =>
        obtain ⟨rfl, rfl⟩ : fault = e ∧ (⟨d.tree, d.ahead.tail, d.faults ++ [(path, fault)]⟩ : Disk) = d' := by
          simpa [happ, Except.map] using h
        exact ⟨fault, rfl, rfl, .refl _⟩
      | ok t => simp [happ, Except.map] at h

/-- A chunk that was written to is the same but for what is pending. -/
theorem after_eq_ok {c c' : OpenChunk} {x : Except FileFault Unit × OpenFile} {t : FileTree}
    (h : after c x = (.ok c', t)) : c' = { c with pending := c'.pending } := by
  rcases x with ⟨_ | ⟨⟨⟩⟩, f⟩
  · simp [after, Except.map] at h
  · obtain rfl : { c with pending := f.pending } = c' := by simpa [after, Except.map] using (Prod.mk.inj h).1
    rfl

theorem flush_confined (c : OpenChunk) : Confined c.path id (· = c.location) (flush c) :=
  (append_confined _ _ _).bind fun _ _ _ _ => .pure _

theorem gather_confined (c : OpenChunk) (bytes : ByteArray) : Confined c.path id (· = c.location) (gather c bytes) := by
  unfold gather
  split
  · exact (append_confined _ _ _).bind fun _ _ _ _ => .pure _
  · exact .pure _

theorem write_confined (c : OpenChunk) (bytes : ByteArray) : Confined c.path id (· = c.location) (write c bytes) := by
  unfold write
  split
  · exact gather_confined c bytes
  · refine (flush_confined c).bind fun d c' d' hflush => ?_
    have hc := after_eq_ok ((flush_matches c).ok d c' d' hflush).1
    have hgather := gather_confined c' bytes
    rw [hc] at hgather ⊢
    exact hgather

theorem writePieces_confined (c : OpenChunk) (pieces : List String) :
    Confined c.path id (· = c.location) (writePieces c pieces) := by
  induction pieces generalizing c with
  | nil => exact .pure c
  | cons piece rest ih =>
    refine (write_confined c piece.toUTF8).bind fun d c' d' hwrite => ?_
    have hc := after_eq_ok ((write_matches c piece.toUTF8).ok d c' d' hwrite).1
    have hrest := ih c'
    rw [hc] at hrest ⊢
    exact hrest

theorem put_confined (c : OpenChunk) (pieces : List String) :
    Confined c.path c.failure (· = c.location) (put c pieces) := (writePieces_confined c pieces).blaming c.failure

theorem finish_confined (plan : ChunkPlan) (c : OpenChunk) :
    Confined c.path c.failure (· = c.location) (finish plan c) := by
  refine (put_confined c _).bind fun d c' d' hput => ?_
  have hc := (OpenChunk.put_eq_ok ((put_matches c _).ok d c' d' hput).1).1
  have hflush := (flush_confined c').blaming c'.failure
  rw [hc] at hflush ⊢
  exact hflush.bind fun _ _ _ _ => .pure _

theorem addTo_confined (cs : Chunks) (c : OpenChunk) (r : Record) :
    Confined c.path c.failure (· = c.location) (addTo cs c r) :=
  (put_confined c _).bind fun _ _ _ _ => .pure _

theorem create_eq_error {path : String} {d d' : Disk} {fault : FileFault} (h : create path d = (.error fault, d')) :
    d'.faults = d.faults ++ [(path, fault)] ∧
      (d'.tree = d.tree ∨ ∃ l, d.tree.writable path = .ok l ∧ d.tree.Wrote (· = l) d'.tree) := by
  unfold create perform at h
  split at h
  · next m hm =>
    obtain ⟨he, rfl⟩ := Prod.mk.inj h
    obtain rfl := Except.error.inj he
    refine ⟨rfl, ?_⟩
    cases hl : d.tree.writable path with
    | error fault => exact .inl (by simp [hl, Except.toOption])
    | ok l => exact .inr ⟨l, rfl, by simpa [hl, Except.toOption] using spoil_wrote d.tree l m.left⟩
  · cases hcreate : d.tree.create path with
    | error fault' =>
      obtain ⟨rfl, rfl⟩ : fault' = fault ∧ (⟨d.tree, d.ahead.tail, d.faults ++ [(path, fault')]⟩ : Disk) = d' := by
        simpa [hcreate] using h
      exact ⟨rfl, .inl rfl⟩
    | ok x => simp [hcreate] at h

/-- Opening a chunk fails at its path, and spoils what is there if it is a file. -/
theorem openChunk_eq_error {plan : ChunkPlan} {index : Nat} {d d' : Disk} {e : Failure}
    (h : openChunk plan index d = (.error e, d')) :
    ∃ fault, e = .chunk index (chunkPath plan.base index) fault ∧
      d'.faults = d.faults ++ [(chunkPath plan.base index, fault)] ∧
      (d'.tree = d.tree ∨
        ∃ l, d.tree.writable (chunkPath plan.base index) = .ok l ∧ d.tree.Wrote (· = l) d'.tree) := by
  unfold openChunk at h
  rcases bind_eq_error h with hcreate | ⟨l, d₁, hcreate, hput⟩
  · obtain ⟨fault, rfl, hfails⟩ := blaming_eq_error hcreate
    obtain ⟨hfaults, htree⟩ := create_eq_error hfails
    exact ⟨fault, rfl, hfaults, htree⟩
  · obtain ⟨hplain, hfaults⟩ := (perform_matches _ _ _).ok d l d₁ (blaming_eq_ok hcreate)
    have hcreated : d.tree.create (chunkPath plan.base index) = .ok (l, d₁.tree) := by
      cases hc : d.tree.create (chunkPath plan.base index) with
      | error fault => simp [hc] at hplain
      | ok x => simpa [hc, Prod.ext_iff] using hplain
    obtain ⟨hwritable, hwrote, -⟩ := FileTree.create_eq_ok hcreated
    obtain ⟨fault, rfl, hfaults', hwrote'⟩ := (put_confined _ _).error d₁ e d' hput
    exact ⟨fault, rfl, by rw [hfaults', hfaults], .inr ⟨l, hwritable, hwrote.trans hwrote'⟩⟩

end Disk

/-! ## A series of chunks -/

/-- Writing broke off behind the finished chunks `chunks`, of the records `all`, with a fault at the next one. -/
structure Broken (plan : ChunkPlan) (t₁ : FileTree) (all : List Record) (chunks : List (List Record))
    (faults : List (String × FileFault)) (failure : Failure) (d : Disk) : Prop where
  full : ∀ full ∈ chunks, full.length = plan.size
  rest : ∃ rest, all = chunks.flatten ++ rest ∧ (rest = [] → chunks = [])
  fault : ∃ fault, failure = .chunk chunks.length (chunkPath plan.base chunks.length) fault ∧
    d.faults = faults ++ [(chunkPath plan.base chunks.length, fault)]
  filed : ∃ written, chunks.length ≤ written.length ∧ written.length ≤ chunks.length + 1 ∧
    Filed plan t₁ chunks written d.tree

namespace Disk

open OnDisk

variable {plan : ChunkPlan} {t₁ : FileTree} {chunks : List (List Record)} {written : List Location}
  {rs : List Record} {c : OpenChunk} {d d' : Disk} {e : Failure}

/-- A fault in the open chunk. -/
theorem broken_of_confined (rest : List Record) {α : Type} {x : OnDisk Failure α}
    (h : Writing plan t₁ chunks written rs c d.tree)
    (hfull : ∀ full ∈ chunks, full.length = plan.size) (hrest : rest = [] → chunks = [])
    (hx : Confined c.path c.failure (· = c.location) x) (he : x d = (.error e, d')) :
    Broken plan t₁ (chunks.flatten ++ rest) chunks d.faults e d' := by
  obtain ⟨fault, rfl, hfaults, hwrote⟩ := hx.error d e d' he
  refine ⟨hfull, ⟨rest, rfl, hrest⟩, ⟨fault, ?_, h.path ▸ hfaults⟩, _, ?_, ?_, h.filed.write h.length hwrote⟩
  · rw [OpenChunk.failure, h.index, h.path]
  · simp [h.length]
  · simp [h.length]

/-- A fault when the next chunk is opened. -/
theorem openChunk_broken (rest : List Record) (h : Filed plan t₁ chunks written d.tree)
    (hlen : chunks.length = written.length) (hfull : ∀ full ∈ chunks, full.length = plan.size)
    (hrest : rest = [] → chunks = []) (he : openChunk plan chunks.length d = (.error e, d')) :
    Broken plan t₁ (chunks.flatten ++ rest) chunks d.faults e d' := by
  obtain ⟨fault, rfl, hfaults, htree⟩ := openChunk_eq_error he
  refine ⟨hfull, ⟨rest, rfl, hrest⟩, ⟨fault, rfl, hfaults⟩, ?_⟩
  rcases htree with hsame | ⟨l, hl, hwrote⟩
  · exact ⟨written, by omega, by omega, hsame ▸ h⟩
  · exact ⟨written ++ [l], by simp [hlen], by simp [hlen], (h.next hlen hl).write hlen hwrote⟩

theorem addToNew_broken (rest : List Record) {r : Record} (h : Filed plan t₁ chunks written d.tree)
    (hlen : chunks.length = written.length) (hfull : ∀ full ∈ chunks, full.length = plan.size) (hrest : rest ≠ [])
    (he : addToNew ⟨plan, .ofChunks plan.base chunks, none⟩ r d = (.error e, d')) :
    Broken plan t₁ (chunks.flatten ++ rest) chunks d.faults e d' := by
  have hindex : (Summary.ofChunks plan.base chunks).files.length = chunks.length := by simp [Summary.ofChunks]
  have hrest : rest = [] → chunks = [] := fun hnil => absurd hnil hrest
  unfold addToNew at he
  rw [hindex] at he
  rcases bind_eq_error he with hopen | ⟨c, d₁, hopen, hadd⟩
  · exact openChunk_broken rest h hlen hfull hrest hopen
  · obtain ⟨hplain, hfaults⟩ := (openChunk_matches plan chunks.length).ok d c d₁ hopen
    have hwriting := openChunk_writing h hlen hplain
    exact hfaults ▸ broken_of_confined rest hwriting hfull hrest (addTo_confined _ c r) hadd

theorem add_broken {cs : Chunks} {r : Record} (h : cs.Stands t₁ d.tree rs) (he : add cs r d = (.error e, d'))
    (more : List Record) : ∃ chunks, Broken cs.plan t₁ (rs ++ r :: more) chunks d.faults e d' := by
  cases h with
  | fresh plan => exact ⟨[], addToNew_broken _ (.nil plan _) rfl (by simp) (by simp) he⟩
  | @writing plan chunks written rs c _ hwriting hfull hne hle =>
    rw [List.append_assoc]
    unfold add at he
    dsimp only at he
    split at he
    · exact ⟨chunks, broken_of_confined _ hwriting hfull (by simp) (addTo_confined _ c r) he⟩
    · next hroom =>
      rcases bind_eq_error he with hfinish | ⟨⟨⟩, d₁, hfinish, hnew⟩
      · exact ⟨chunks, broken_of_confined _ hwriting hfull (by simp) (finish_confined plan c) hfinish⟩
      · -- The open chunk was full, and is one of the finished ones now.
        obtain ⟨hplain, hfaults⟩ := (finish_matches plan c).ok d () d₁ hfinish
        have hfiled := hwriting.finish hplain
        have hlen : (chunks ++ [rs]).length = (written ++ [c.location]).length := by simp [hwriting.length]
        rw [hwriting.count] at hroom
        rw [Chunks.summaryWith_eq hwriting] at hnew
        have hbroken := addToNew_broken (r :: more) hfiled hlen (Chunks.full_concat hfull hle hroom) (by simp) hnew
        rw [hfaults] at hbroken
        exact ⟨chunks ++ [rs], by simpa using hbroken⟩

theorem addAll_broken {cs : Chunks} (records : List Record) (h : cs.Stands t₁ d.tree rs)
    (he : addAll cs records d = (.error e, d')) :
    ∃ chunks, Broken cs.plan t₁ (rs ++ records) chunks d.faults e d' := by
  induction records generalizing cs rs d with
  | nil => simp [addAll, Pure.pure] at he
  | cons r records ih =>
    rcases bind_eq_error he with hadd | ⟨cs', d₁, hadd, hrest⟩
    · exact add_broken h hadd records
    · obtain ⟨hplain, hfaults⟩ := (add_matches cs r).ok d cs' d₁ hadd
      obtain ⟨hplan, hstands⟩ := Chunks.add_stands h hplain
      obtain ⟨chunks, hbroken⟩ := ih hstands hrest
      rw [hplan, hfaults, List.append_assoc] at hbroken
      exact ⟨chunks, hbroken⟩

theorem closeWith_broken (cs : Chunks) (h : Writing cs.plan t₁ chunks written rs c d.tree)
    (hfull : ∀ full ∈ chunks, full.length = cs.plan.size) (hrest : rs = [] → chunks = [])
    (he : closeWith cs c d = (.error e, d')) : Broken cs.plan t₁ (chunks.flatten ++ rs) chunks d.faults e d' := by
  rcases bind_eq_error he with hfinish | ⟨⟨⟩, d₁, -, hdone⟩
  · exact broken_of_confined rs h hfull hrest (finish_confined cs.plan c) hfinish
  · simp [Pure.pure] at hdone

theorem close_broken {cs : Chunks} (h : cs.Stands t₁ d.tree rs) (he : close cs d = (.error e, d')) :
    ∃ chunks, Broken cs.plan t₁ rs chunks d.faults e d' := by
  cases h with
  | fresh plan =>
    rcases bind_eq_error he with hopen | ⟨c, d₁, hopen, hclose⟩
    · exact ⟨[], openChunk_broken [] (.nil plan _) rfl (by simp) (by simp) hopen⟩
    · obtain ⟨hplain, hfaults⟩ := (openChunk_matches plan 0).ok d c d₁ hopen
      have hwriting := openChunk_writing (.nil plan _) rfl hplain
      exact ⟨[], hfaults ▸ closeWith_broken { plan } hwriting (by simp) (by simp) hclose⟩
  | @writing plan chunks written rs c _ hwriting hfull hne hle =>
    exact ⟨chunks, closeWith_broken _ hwriting hfull (fun hnil => absurd hnil hne) he⟩

theorem writeAll_broken {d₁ : Disk} (hparent : makeParent plan.base d = (.ok (), d₁))
    (he : writeAll plan rs d = (.error e, d')) : ∃ chunks, Broken plan d₁.tree rs chunks d₁.faults e d' := by
  have hfresh : Chunks.Stands d₁.tree { plan } d₁.tree [] := .fresh plan
  rw [writeAll_of_parent rs hparent] at he
  rcases bind_eq_error he with hadd | ⟨cs, d₂, hadd, hclose⟩
  · exact addAll_broken rs hfresh hadd
  · obtain ⟨hplain, hfaults⟩ := (addAll_matches { plan } rs).ok d₁ cs d₂ hadd
    obtain ⟨hplan, hstands⟩ := Chunks.addAll_stands rs hfresh hplain
    obtain ⟨chunks, hbroken⟩ := close_broken hstands hclose
    rw [hplan, hfaults] at hbroken
    exact ⟨chunks, hbroken⟩

end Disk

/-! ## Main theorem -/

/-- Between `before` and `after`, records were written up to the one fault that was met, at chunk `k`: the chunks before it
are full, each has the text of its slice unless one of the next chunks is the same file, and nothing has changed where no
path of these chunks leads. -/
structure StoppedAt (plan : ChunkPlan) (rs : List Record) (before after : Disk) (k : Nat) (fault : FileFault) : Prop where
  faults : after.faults = before.faults ++ [(chunkPath plan.base k, fault)]
  lt : k < chunkCount plan.size rs.length
  full : ∀ j < k, (slice plan.size rs j).length = plan.size
  complete : ∀ j < k,
    (∀ i l, j < i → i ≤ k → after.tree.writable (chunkPath plan.base i) = .ok l →
      after.tree.writable (chunkPath plan.base j) ≠ .ok l) →
    after.tree.read (chunkPath plan.base j) = .ok (plan.encoding.text (slice plan.size rs j)).toUTF8
  elsewhere : ∀ l, (∀ i ≤ k, after.tree.writable (chunkPath plan.base i) ≠ .ok l) →
    after.tree.get? l = before.tree.get? l

theorem Broken.stoppedAt {plan : ChunkPlan} {rs : List Record} {chunks : List (List Record)} {failure : Failure}
    {before after : Disk} (h : Broken plan before.tree rs chunks before.faults failure after) :
    ∃ fault, failure = .chunk chunks.length (chunkPath plan.base chunks.length) fault ∧
      StoppedAt plan rs before after chunks.length fault := by
  obtain ⟨rest, hrest, hempty⟩ := h.rest
  obtain ⟨fault, hfailure, hfaults⟩ := h.fault
  obtain ⟨written, hle, hle', hfiled⟩ := h.filed
  have hslices : slices plan.size rs = chunks ++ slices plan.size rest := by
    rw [hrest, slices_flatten_append plan.size_pos h.full hempty]
  have hlt : chunks.length < chunkCount plan.size rs.length := by
    have hlen := congrArg List.length hslices
    have hone : 0 < chunkCount plan.size rest.length := by
      unfold chunkCount
      omega
    rw [List.length_append, length_slices, length_slices] at hlen
    omega
  have hslice {j : Nat} (hj : j < chunks.length) : chunks[j]? = some (slice plan.size rs j) := by
    rw [← getElem?_slices (Nat.lt_trans hj hlt), hslices, List.getElem?_append_left hj]
  refine ⟨fault, hfailure, hfaults, hlt, ?_, ?_, ?_⟩
  · intro j hj
    exact h.full _ (List.mem_of_getElem? (hslice hj))
  · intro j hj hlast
    have hplace := List.getElem?_eq_getElem (l := written) (Nat.lt_of_lt_of_le hj hle)
    have hwritable := hfiled.places j _ hplace
    refine FileTree.read_of_writable hwritable (hfiled.content j _ _ (hslice hj) hplace fun i hi hsame => ?_)
    have hlen := (List.getElem?_eq_some_iff.1 hsame).1
    exact hlast i _ hi (by omega) (hfiled.places i _ hsame) hwritable
  · intro l hl
    refine hfiled.wrote.elsewhere l fun hmem => ?_
    obtain ⟨i, hi, rfl⟩ := List.getElem_of_mem hmem
    exact hl i (by omega) (hfiled.places i _ (List.getElem?_eq_getElem hi))

/-- Whatever goes wrong while records are written to a disk: where the parent cannot be made, nothing but directories is
new and no chunk is touched; behind that either nothing fails, or the first fault is the only one, the failure names its
chunk, and `StoppedAt` says what there is. With no mishaps ahead the disk is a file tree that records are written to. -/
theorem writeAll_stopsAt (plan : ChunkPlan) (rs : List Record) (t : FileTree) (ahead : List (Option Mishap)) :
    ((Disk.writeAll plan rs { tree := t }).1 = (plan.writeAll t rs).1 ∧
      (Disk.writeAll plan rs { tree := t }).2.tree = (plan.writeAll t rs).2) ∧
    match Disk.makeParent plan.base { tree := t, ahead } with
    | (.error fault, d₁) => Disk.writeAll plan rs { tree := t, ahead } = (.error (.files fault), d₁) ∧
      (∀ l, d₁.tree.get? l = t.get? l ∨ t.get? l = none ∧ d₁.tree.get? l = some .directory) ∧
      ∀ k l, t.writable (chunkPath plan.base k) = .ok l → d₁.tree.get? l = t.get? l
    | (.ok (), d₁) => ∃ result d', Disk.writeAll plan rs { tree := t, ahead } = (result, d') ∧
      ((∃ summary, result = .ok summary ∧ d'.faults = d₁.faults) ∨
        ∃ k fault, result = .error (.chunk k (chunkPath plan.base k) fault) ∧ StoppedAt plan rs d₁ d' k fault) := by
  refine ⟨Disk.writeAll_calm plan rs t, ?_⟩
  have hmade := Disk.makeParent_madeAlong plan.base { tree := t, ahead }
  split
  · next fault d₁ hparent =>
    rw [hparent] at hmade
    refine ⟨Disk.writeAll_of_error rs hparent, hmade.furnished.there, fun k l hl => ?_⟩
    cases hnames : Path.parent? plan.base with
    | none => simp [Disk.makeParent, hnames, pure] at hparent
    | some names =>
      rw [hnames] at hmade
      rw [FileTree.eq_of_writable hmade hnames hl]
  · next d₁ hparent =>
    rcases hrun : Disk.writeAll plan rs { tree := t, ahead } with ⟨failure | summary, d'⟩
    · refine ⟨_, d', rfl, .inr ?_⟩
      obtain ⟨chunks, hbroken⟩ := Disk.writeAll_broken hparent hrun
      obtain ⟨fault, hfailure, hstopped⟩ := hbroken.stoppedAt
      exact ⟨chunks.length, fault, congrArg Except.error hfailure, hstopped⟩
    · refine ⟨_, d', rfl, .inl ⟨summary, rfl, ?_⟩⟩
      rw [Disk.writeAll_of_parent rs hparent] at hrun
      obtain ⟨cs, d₂, hadd, hclose⟩ := OnDisk.bind_eq_ok hrun
      obtain ⟨-, hfaults⟩ := (Disk.addAll_matches { plan } rs).ok d₁ cs d₂ hadd
      obtain ⟨-, hfaults'⟩ := (Disk.close_matches cs).ok d₂ summary d' hclose
      exact hfaults'.trans hfaults

/-! ## A chunk that another one replaces -/

theorem Chunks.Stands.exists_writing {t₁ t : FileTree} {cs : Chunks} {all : List Record} (h : cs.Stands t₁ t all)
    (hne : all ≠ []) : ∃ chunks written rs c, cs = ⟨cs.plan, .ofChunks cs.plan.base chunks, some c⟩ ∧
      Writing cs.plan t₁ chunks written rs c t ∧ slices cs.plan.size all = chunks ++ [rs] := by
  cases h with
  | fresh plan => exact absurd rfl hne
  | @writing plan chunks written rs c _ hwriting hfull hrs hle =>
    exact ⟨chunks, written, rs, c, rfl, hwriting, slices_eq plan.size_pos hfull hle fun h => absurd h hrs⟩

/-- The path of the second chunk is a link to the first, and the third is a directory. -/
def brokenTree : FileTree := ⟨[(["o0"], .link "o"), (["o1"], .directory)], []⟩

theorem brokenTree_writable : brokenTree.writable "/o" = .ok ["o"] ∧ brokenTree.writable "/o0" = .ok ["o"] := by
  have hroots : FileTree.AtRoot "/o" "o" ∧ FileTree.AtRoot "/o0" "o0" := by decide
  have hnone : brokenTree.get? ["o"] = none := by decide
  have hlink : brokenTree.get? ["o0"] = some (.link "o") := by decide
  exact ⟨hroots.1.writable (.inl hnone), hroots.2.writable_link hlink (by decide) hnone⟩

/-- A record that has nothing but its caller. -/
def callerOnly (caller : String) : Record := { (default : Record) with caller }

def brokenPlan : ChunkPlan := ⟨"/o", .json, 1, by decide⟩

theorem brokenPlan_paths :
    chunkPath brokenPlan.base 0 = "/o" ∧ chunkPath brokenPlan.base 1 = "/o0" ∧ chunkPath brokenPlan.base 2 = "/o1" := by
  decide

theorem brokenPlan_ready : brokenPlan.Ready brokenTree 2 := by
  have hnone : brokenTree.get? ["o"] = none := by decide
  intro k hk
  obtain rfl | rfl : k = 0 ∨ k = 1 := by omega
  · exact ⟨["o"], brokenPlan_paths.1 ▸ brokenTree_writable.1, by simp [hnone]⟩
  · exact ⟨["o"], brokenPlan_paths.2.1 ▸ brokenTree_writable.2, by simp [hnone]⟩

/-- The third record ends the second chunk, and comes to a directory. -/
theorem add_brokenTree {written : List Location} {c : OpenChunk} {t : FileTree}
    (h : Writing brokenPlan brokenTree [[callerOnly "a"]] written [callerOnly "b"] c t) (r : Record) :
    ∃ t', Chunks.add ⟨brokenPlan, .ofChunks brokenPlan.base [[callerOnly "a"]], some c⟩ t r =
        (.error (.chunk 2 "/o1" .isDirectory), t') ∧
      Filed brokenPlan brokenTree [[callerOnly "a"], [callerOnly "b"]] (written ++ [c.location]) t' := by
  obtain ⟨t', hfinish⟩ := h.finish_ok brokenPlan_ready
  have hfiled := h.finish hfinish
  refine ⟨t', ?_, hfiled⟩
  have hroot : FileTree.AtRoot "/o1" "o1" := by decide
  have hdirectory : t'.get? ["o1"] = some .directory := hfiled.wrote.get?_eq (by decide) (by simp)
  have hcreate : t'.create "/o1" = .error .isDirectory := by
    rw [FileTree.create, hroot.writable_directory hdirectory]
  have hopen : brokenPlan.openChunk t' 2 = (.error (.chunk 2 "/o1" .isDirectory), t') := by
    simp only [ChunkPlan.openChunk, brokenPlan_paths, hcreate]
  have hroom : ¬c.count < brokenPlan.size := by
    rw [h.count]
    decide
  rw [Chunks.add]
  simp only [hroom, if_false, hfinish, Chunks.summaryWith_eq h, Chunks.addToNew]
  rw [show brokenPlan.openChunk t' (Summary.ofChunks brokenPlan.base ([[callerOnly "a"]] ++ [[callerOnly "b"]])).files.length =
    (.error (.chunk 2 "/o1" .isDirectory), t') from hopen]

/-- Where the second chunk is the first file as well, a fault at the third leaves nothing of the first. -/
theorem writeAll_replaces :
    ∃ t', brokenPlan.writeAll brokenTree [callerOnly "a", callerOnly "b", callerOnly "c"] =
        (.error (.chunk 2 "/o1" .isDirectory), t') ∧
      t'.read (chunkPath brokenPlan.base 0) ≠
        .ok (Encoding.json.text (slice 1 [callerOnly "a", callerOnly "b", callerOnly "c"] 0)).toUTF8 := by
  have hroot : FileTree.AtRoot brokenPlan.base "o" := by decide
  have hparent := hroot.makeParent brokenTree
  -- Two records are written; they are a finished chunk and an open one.
  have hfresh : Chunks.Stands brokenTree { plan := brokenPlan } brokenTree [] := .fresh brokenPlan
  obtain ⟨cs₁, t₁, ha⟩ := Chunks.add_ok hfresh (callerOnly "a") (brokenPlan_ready.mono (by decide))
  obtain ⟨hplan₁, hstands₁⟩ := Chunks.add_stands hfresh ha
  obtain ⟨cs₂, t₂, hb⟩ := Chunks.add_ok hstands₁ (callerOnly "b") (hplan₁ ▸ brokenPlan_ready.mono (by decide))
  obtain ⟨hplan₂, hstands₂⟩ := Chunks.add_stands hstands₁ hb
  obtain ⟨chunks, written, rs, c, hcs, hwriting, hslices⟩ := hstands₂.exists_writing (by simp)
  have hplan : cs₂.plan = brokenPlan := hplan₂.trans hplan₁
  rw [hplan] at hcs hwriting hslices
  have htwo : slices 1 [callerOnly "a", callerOnly "b"] = [[callerOnly "a"], [callerOnly "b"]] := by decide
  have happend : [[callerOnly "a"]] ++ [[callerOnly "b"]] = chunks ++ [rs] := htwo.symm.trans hslices
  obtain ⟨rfl, hrs⟩ := List.append_inj' happend rfl
  obtain rfl : [callerOnly "b"] = rs := by simpa using hrs
  obtain ⟨t', hc, hfiled⟩ := add_brokenTree hwriting (callerOnly "c")
  rw [← hcs] at hc
  refine ⟨t', ?_, ?_⟩
  · simp only [ChunkPlan.writeAll, Chunks.start, hparent, Chunks.addAll, ha, hb, hc]
  · -- Both chunks lie at the one place, which has the text of the second.
    obtain ⟨l₀, rfl⟩ := List.length_eq_one_iff.1 hwriting.length.symm
    have hplace : t'.writable "/o0" = .ok c.location := brokenPlan_paths.2.1 ▸ hfiled.places 1 c.location rfl
    have hlocation : ["o"] = c.location :=
      Except.ok.inj ((hfiled.wrote.writable brokenTree_writable.2).symm.trans hplace)
    have hcontent := hfiled.content 1 [callerOnly "b"] c.location rfl rfl fun j hj => by
      rw [List.getElem?_eq_none (Nat.succ_le_of_lt hj)]
      simp
    rw [← hlocation] at hcontent
    rw [brokenPlan_paths.1, FileTree.read_of_writable (hfiled.wrote.writable brokenTree_writable.1) hcontent]
    intro hsame
    have hdecode := Encoding.json.decode_text [callerOnly "b"]
    rw [show (Encoding.json.text [callerOnly "b"]).toUTF8 = _ from Except.ok.inj hsame, Encoding.json.decode_text] at hdecode
    exact absurd hdecode (by decide)

end CallGraph
