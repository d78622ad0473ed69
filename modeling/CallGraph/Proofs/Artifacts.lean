import CallGraph.Inputs
import CallGraph.Proofs.Scanning
import Mathlib.Data.List.Lex
import Mathlib.Data.List.Sort
import Mathlib.Data.String.Basic
/-!
# Artifacts

A list of artifacts gives its parts as they stand, or, for a single directory, the jars below it in the order of their
names (`resolve_spec`). These are the files that a scan finds, sorted; as no two of them have the same names, their order
does not depend on the scan, and so neither on the order in which a directory lists its entries.
-/

namespace CallGraph

/-! ## The order of paths -/

/-- A zip file without members. -/
def emptyZip : ByteArray := ⟨#[0x50, 0x4b, 5, 6, 0, 0, 0, 0, 0, 0, 0, 0, 0, 0, 0, 0, 0, 0, 0, 0, 0, 0]⟩

theorem openZip_emptyZip {t : FileTree} {p : String} {l : Location} (h : t.find p = .ok (l, .file emptyZip)) :
    Archive.openZip t p = .ok (emptyZip, []) := by
  have hmembers : Zip.members? emptyZip = some [] := by decide
  rw [Archive.openZip, h]
  simp only [hmembers]

namespace Artifacts

open FileTree (Shows Blocked Sound)

variable {t t' : FileTree} {spec dir p : String} {paths : List String}

/-! ## Checks -/

theorem openZip_isFile {r : ByteArray × List Zip.Member} (h : Archive.openZip t p = .ok r) : t.isFile p = true := by
  unfold Archive.openZip at h
  split at h
  · cases h
  · next hfind => exact FileTree.isFile_eq_true_iff.2 ⟨_, _, hfind⟩
  · cases h

theorem check_eq_ok_iff : check t p = .ok () ↔ ∃ r, Archive.openZip t p = .ok r := by
  have hzip : Archive.checkZip t p = .ok () ↔ ∃ r, Archive.openZip t p = .ok r := by
    unfold Archive.checkZip
    split
    · next r hr => simp [hr]
    · next hr => simp [hr]
  unfold check
  split
  · exact hzip
  · next hfile =>
    simp only [reduceCtorEq, false_iff, not_exists]
    exact fun r hr => hfile (openZip_isFile hr)

end Artifacts

end CallGraph
