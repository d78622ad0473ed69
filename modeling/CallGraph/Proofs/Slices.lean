import Mathlib.Data.List.Basic
/-!
# Slices

How a list of records falls into chunks: slices of one size, the last of which may be shorter, and no records at all make
one empty slice. `slices_eq` recognizes them by their lengths.
-/

namespace CallGraph

/-- The number of chunks of `size` for `total` records. -/
def chunkCount (size total : Nat) : Nat := max 1 ((total + size - 1) / size)

def slice {α : Type} (size : Nat) (xs : List α) (k : Nat) : List α := (xs.drop (k * size)).take size

def slices {α : Type} (size : Nat) (xs : List α) : List (List α) :=
  (List.range (chunkCount size xs.length)).map (slice size xs)

section
variable {α : Type} {size : Nat}

theorem chunkCount_of_le (hsize : 0 < size) {total : Nat} (h : total ≤ size) : chunkCount size total = 1 := by
  have hdiv : (total + size - 1) / size ≤ 1 := by
    rw [← Nat.lt_succ_iff, Nat.div_lt_iff_lt_mul hsize]
    omega
  unfold chunkCount
  omega

theorem chunkCount_add (hsize : 0 < size) {total : Nat} (h : 0 < total) :
    chunkCount size (size + total) = chunkCount size total + 1 := by
  have hpos : 0 < (total + size - 1) / size := Nat.div_pos (by omega) hsize
  have hadd : (size + total + size - 1) / size = (total + size - 1) / size + 1 := by
    rw [show size + total + size - 1 = total + size - 1 + size by omega, Nat.add_div_right _ hsize]
  unfold chunkCount
  omega

theorem chunkCount_mono (size : Nat) {total total' : Nat} (h : total ≤ total') :
    chunkCount size total ≤ chunkCount size total' := by
  have hdiv : (total + size - 1) / size ≤ (total' + size - 1) / size := Nat.div_le_div_right (by omega)
  unfold chunkCount
  omega

theorem slices_of_length_le (hsize : 0 < size) {xs : List α} (h : xs.length ≤ size) : slices size xs = [xs] := by
  rw [slices, chunkCount_of_le hsize h]
  simp [slice, List.take_of_length_le h]

theorem slices_append (hsize : 0 < size) {xs ys : List α} (hxs : xs.length = size) (hys : ys ≠ []) :
    slices size (xs ++ ys) = xs :: slices size ys := by
  have hpos : 0 < ys.length := List.length_pos_iff.2 hys
  rw [slices, slices, List.length_append, hxs, chunkCount_add hsize hpos, List.range_succ_eq_map, List.map_cons,
    List.map_map]
  congr 1
  · simp [slice, ← hxs]
  · apply List.map_congr_left
    intro k _
    have hdrop : (xs ++ ys).drop ((k + 1) * size) = ys.drop (k * size) := by
      rw [Nat.add_mul, Nat.one_mul, Nat.add_comm, ← List.drop_drop, List.drop_left' hxs]
    rw [Function.comp_apply, slice, slice, hdrop]

/-- Full slices are the first ones, whatever is left. -/
theorem slices_flatten_append (hsize : 0 < size) {full : List (List α)} {rest : List α}
    (hfull : ∀ xs ∈ full, xs.length = size) (hempty : rest = [] → full = []) :
    slices size (full.flatten ++ rest) = full ++ slices size rest := by
  induction full with
  | nil => rfl
  | cons xs full ih =>
    have hne : rest ≠ [] := fun h => by simpa using hempty h
    rw [List.flatten_cons, List.append_assoc, slices_append hsize (hfull xs List.mem_cons_self) (by simp [hne]),
      ih (fun ys hys => hfull ys (List.mem_cons_of_mem _ hys)) (fun h => absurd h hne), List.cons_append]

/-- Full slices and a last one are the slices of all their records, if the last one is not left over empty. -/
theorem slices_eq (hsize : 0 < size) {full : List (List α)} {last : List α} (hfull : ∀ xs ∈ full, xs.length = size)
    (hlast : last.length ≤ size) (hempty : last = [] → full = []) :
    slices size (full.flatten ++ last) = full ++ [last] := by
  rw [slices_flatten_append hsize hfull hempty, slices_of_length_le hsize hlast]

theorem chunkCount_of_slices (hsize : 0 < size) {full : List (List α)} {last : List α}
    (hfull : ∀ xs ∈ full, xs.length = size) (hlast : last.length ≤ size) (hempty : last = [] → full = []) :
    chunkCount size (full.flatten ++ last).length = full.length + 1 := by
  have hlen := congrArg List.length (slices_eq hsize hfull hlast hempty)
  have hright : (full ++ [last]).length = full.length + 1 := by simp
  rwa [hright, slices, List.length_map, List.length_range] at hlen

theorem flatten_slices (hsize : 0 < size) (xs : List α) : (slices size xs).flatten = xs := by
  induction hn : xs.length using Nat.strongRecOn generalizing xs with
  | _ n ih =>
    by_cases hle : xs.length ≤ size
    · rw [slices_of_length_le hsize hle, List.flatten_singleton]
    · have htake : (xs.take size).length = size := List.length_take_of_le (by omega)
      have hdrop : (xs.drop size).length = n - size := by rw [List.length_drop, hn]
      have hne : xs.drop size ≠ [] := by
        rw [← List.length_pos_iff, hdrop]
        omega
      have hsplit := slices_append hsize htake hne
      rw [List.take_append_drop] at hsplit
      rw [hsplit, List.flatten_cons, ih (n - size) (by omega) _ hdrop, List.take_append_drop]

theorem length_slice (xs : List α) (k : Nat) : (slice size xs k).length = min size (xs.length - k * size) := by
  rw [slice, List.length_take, List.length_drop]

/-- Every slice but the last is full. -/
theorem length_slice_of_succ_lt (hsize : 0 < size) {xs : List α} {k : Nat} (hk : k + 1 < chunkCount size xs.length) :
    (slice size xs k).length = size := by
  have hlt : k + 1 + 1 ≤ (xs.length + size - 1) / size := by
    unfold chunkCount at hk
    omega
  rw [Nat.le_div_iff_mul_le hsize, Nat.add_mul, Nat.add_mul, Nat.one_mul] at hlt
  rw [length_slice]
  omega

/-- No slice is empty, unless there is nothing to slice. -/
theorem slice_ne_nil (hsize : 0 < size) {xs : List α} {k : Nat} (hk : k < chunkCount size xs.length) (hne : xs ≠ []) :
    slice size xs k ≠ [] := by
  have hpos : 0 < xs.length := List.length_pos_iff.2 hne
  rw [← List.length_pos_iff, length_slice]
  cases k with
  | zero => omega
  | succ k =>
    have hlt : k + 1 + 1 ≤ (xs.length + size - 1) / size := by
      unfold chunkCount at hk
      omega
    rw [Nat.le_div_iff_mul_le hsize, Nat.add_mul (k + 1), Nat.one_mul] at hlt
    omega

end

end CallGraph
