import CallGraph.Output.Sink
import CallGraph.Proofs.Files
import CallGraph.Proofs.Text
/-!
# Open files

What was written to an open file is on the disk but for what is pending: `Holds`. Every write that is not refused keeps
this up, and touches no other place; none is refused at a regular file.
-/

namespace CallGraph

namespace OpenFile

/-- The file has taken `written`. A full device takes nothing, so all of it is pending there. -/
def Holds (f : OpenFile) (written : ByteArray) : Prop :=
  (∃ content, f.tree.get? f.location = some (.file content) ∧ content ++ f.pending = written) ∨
    f.tree.get? f.location = some .full ∧ f.pending = written

def IsRegular (f : OpenFile) : Prop := ∃ content, f.tree.get? f.location = some (.file content)

/-- `f'` is `f` once it has taken `bytes` as well. -/
structure Took (f f' : OpenFile) (bytes : ByteArray) : Prop where
  location : f'.location = f.location
  wrote : FileTree.Wrote (· = f.location) f.tree f'.tree
  holds : ∀ written, f.Holds written → f'.Holds (written ++ bytes)

theorem Took.trans {f₁ f₂ f₃ : OpenFile} {bytes bytes' : ByteArray} (h : Took f₁ f₂ bytes) (h' : Took f₂ f₃ bytes') :
    Took f₁ f₃ (bytes ++ bytes') where
  location := h'.location.trans h.location
  wrote := h.wrote.trans (h.location ▸ h'.wrote)
  holds written hw := by
    rw [← ByteArray.append_assoc]
    exact h'.holds _ (h.holds _ hw)

/-- Bytes go straight to the disk; where others are pending they would overtake them. -/
theorem append_took {f f' : OpenFile} {bytes : ByteArray} (hp : f.pending = .empty)
    (h : f.append bytes = (.ok (), f')) : Took f f' bytes := by
  unfold append at h
  split at h
  · simp at h
  · next tree ht =>
    obtain rfl : { f with tree } = f' := by simpa using h
    refine ⟨rfl, FileTree.append_wrote ht, ?_⟩
    rintro written (⟨content, hc, rfl⟩ | ⟨hfull, rfl⟩)
    · obtain ⟨happ, hget⟩ := FileTree.append_file bytes hc
      obtain rfl := by simpa using happ.symm.trans ht
      exact .inl ⟨_, hget, by simp [hp]⟩
    · obtain ⟨rfl, rfl⟩ := FileTree.append_full hfull ht
      exact .inr ⟨hfull, by simp⟩

theorem flush_took {f f' : OpenFile} (h : f.flush = (.ok (), f')) : Took f f' .empty ∧ f'.pending = .empty := by
  unfold flush append at h
  cases ht : f.tree.append f.location f.pending with
  | error fault => simp [ht] at h
  | ok tree =>
    obtain rfl : { f with tree, pending := .empty } = f' := by simpa [ht] using h
    refine ⟨⟨rfl, FileTree.append_wrote ht, ?_⟩, rfl⟩
    rintro written (⟨content, hc, rfl⟩ | ⟨hfull, rfl⟩)
    · obtain ⟨happ, hget⟩ := FileTree.append_file f.pending hc
      obtain rfl := by simpa using happ.symm.trans ht
      exact .inl ⟨_, hget, by simp⟩
    · obtain ⟨hempty, rfl⟩ := FileTree.append_full hfull ht
      exact .inr ⟨hfull, by simp [hempty]⟩

theorem gather_took {f f' : OpenFile} {bytes : ByteArray} (hp : bytes.size ≥ blockSize → f.pending = .empty)
    (h : f.gather bytes = (.ok (), f')) : Took f f' bytes := by
  unfold gather at h
  split at h
  · next hsize => exact append_took (hp hsize) h
  · obtain rfl : { f with pending := f.pending ++ bytes } = f' := by simpa using h
    refine ⟨rfl, .refl _, ?_⟩
    rintro written (⟨content, hc, rfl⟩ | ⟨hfull, rfl⟩)
    · exact .inl ⟨content, hc, by simp [ByteArray.append_assoc]⟩
    · exact .inr ⟨hfull, rfl⟩

theorem write_took {f f' : OpenFile} {bytes : ByteArray} (h : f.write bytes = (.ok (), f')) : Took f f' bytes := by
  unfold write at h
  split at h
  · next hroom =>
    -- A whole block fits beside nothing, so nothing that is pending can be overtaken.
    refine gather_took (fun hsize => ?_) h
    have hzero : f.pending.size = 0 := by omega
    exact ByteArray.size_eq_zero_iff.1 hzero
  · split at h
    · simp at h
    · next f₁ hf₁ =>
      obtain ⟨hflush, hempty⟩ := flush_took hf₁
      simpa using hflush.trans (gather_took (fun _ => hempty) h)

theorem writeAll_took {pieces : List String} {f f' : OpenFile} (h : Sink.writeAll pieces f = (.ok (), f')) :
    Took f f' (String.join pieces).toUTF8 := by
  induction pieces generalizing f with
  | nil =>
    obtain rfl : f = f' := by simpa [Sink.writeAll] using h
    exact ⟨rfl, .refl _, fun written hw => by simpa using hw⟩
  | cons piece rest ih =>
    unfold Sink.writeAll at h
    split at h
    · simp at h
    · next f₁ hf₁ =>
      have hrest := (write_took hf₁).trans (ih h)
      rwa [← toUTF8_append, ← String.join_cons] at hrest

/-! ## Nothing is refused at a regular file -/

theorem append_isRegular {f : OpenFile} (hf : f.IsRegular) (bytes : ByteArray) :
    ∃ f', f.append bytes = (.ok (), f') ∧ f'.IsRegular := by
  obtain ⟨content, hc⟩ := hf
  obtain ⟨happ, hget⟩ := FileTree.append_file bytes hc
  refine ⟨{ f with tree := f.tree.put f.location (.file (content ++ bytes)) }, ?_, _, hget⟩
  rw [append, happ]

theorem flush_isRegular {f : OpenFile} (hf : f.IsRegular) : ∃ f', f.flush = (.ok (), f') ∧ f'.IsRegular := by
  obtain ⟨f₁, happ, hf₁⟩ := append_isRegular hf f.pending
  exact ⟨{ f₁ with pending := .empty }, by rw [flush, happ], hf₁⟩

theorem gather_isRegular {f : OpenFile} (hf : f.IsRegular) (bytes : ByteArray) :
    ∃ f', f.gather bytes = (.ok (), f') ∧ f'.IsRegular := by
  unfold gather
  split
  · exact append_isRegular hf bytes
  · exact ⟨_, rfl, hf⟩

theorem write_isRegular {f : OpenFile} (hf : f.IsRegular) (bytes : ByteArray) :
    ∃ f', f.write bytes = (.ok (), f') ∧ f'.IsRegular := by
  unfold write
  split
  · exact gather_isRegular hf bytes
  · obtain ⟨f₁, hflush, hf₁⟩ := flush_isRegular hf
    rw [hflush]
    exact gather_isRegular hf₁ bytes

theorem writeAll_isRegular (pieces : List String) {f : OpenFile} (hf : f.IsRegular) :
    ∃ f', Sink.writeAll pieces f = (.ok (), f') ∧ f'.IsRegular := by
  induction pieces generalizing f with
  | nil => exact ⟨f, rfl, hf⟩
  | cons piece rest ih =>
    obtain ⟨f₁, hwrite, hf₁⟩ := write_isRegular hf piece.toUTF8
    obtain ⟨f', hrest, hf'⟩ := ih hf₁
    refine ⟨f', ?_, hf'⟩
    rw [Sink.writeAll, show Sink.write f piece.toUTF8 = _ from hwrite]
    exact hrest

end OpenFile

end CallGraph
