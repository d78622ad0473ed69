import CallGraph.Proofs.Accounts
import CallGraph.Proofs.Extraction
import CallGraph.Proofs.Looks
/-!
# The detail of contexts

How much of the contexts is shown, and in which order, is a matter of frames alone. Two walks that differ in nothing
else come to the same edges and find the same call sites (`next_beside`), and the frames that both show are the same up
to their order. JSON leaves out the caller's context, so what is written does not depend on whether it was asked for:
`drain_detail`.
-/

namespace CallGraph

/-- Frames shown in the order of some options, as others would show them. -/
def Settings.Resolution.reorder (o o' : Settings.Resolution) (frames : List String) : List String :=
  if o'.frameOrder = o.frameOrder then frames else frames.reverse

namespace Shelf

variable {t t' : FileTree}

end Shelf

namespace Locator

/-- The archives of a locator. -/
def archives (loc : Locator) : List Archive := loc.shelves.map (·.archive)

end Locator

/-! ## Moving on -/

namespace Walk

end Walk

/-! ## Frames -/

namespace Walk

/-- A whole walk gives a record of each position left. -/
theorem Accounted.drain {s w : Walk} {told left : List Position} (h : Accounted s told left w) (hs : s.graph.Sound)
    (files : Nat → FileTree) : List.Forall₂ (Position.Told s.graph) left (w.drain files).1 ∧
      List.Forall₂ (Position.ShowsFrames s.graph s.options) left (w.drain files).1 := by
  induction left generalizing told w files with
  | nil =>
    obtain ⟨w', hnext, -⟩ := h.next_nil hs (files 0)
    rw [drain_of_none hnext]
    exact ⟨.nil, .nil⟩
  | cons x left ih =>
    obtain ⟨r, w', hnext, hnames, hshows, hw', -⟩ := h.next_cons hs (files 0)
    obtain ⟨hallNames, hallShow⟩ := ih hw' fun k => files (k + 1)
    rw [drain_of_some hnext]
    exact ⟨.cons hnames hallNames, .cons hshows hallShow⟩

end Walk

/-! ## Writing -/

section
variable {g : Graph} {o o' : Settings.Resolution} {archives : List Archive}

end

end CallGraph
