import CallGraph.Output.Chunks
import CallGraph.Proofs.Files
import Mathlib.Data.List.Basic
import Std.Data.String.ToNat
/-!
# Where chunks lie

The paths of the chunks of one output differ in their last name only. So they are different paths, and where no link
stands at the end of any of them they are different files: `place_injective`.
-/

namespace CallGraph

/-! ## Chunk paths -/

/-- What the path of a chunk has behind that of the first. -/
def chunkSuffix (k : Nat) : String := if k = 0 then "" else toString (k - 1)

theorem chunkPath_eq (base : String) (k : Nat) : chunkPath base k = base ++ chunkSuffix k := by
  unfold chunkPath chunkSuffix
  split <;> simp

theorem chunkSuffix_succ (k : Nat) : chunkSuffix (k + 1) = k.repr := rfl

theorem chunkSuffix_injective {i j : Nat} (h : chunkSuffix i = chunkSuffix j) : i = j := by
  cases i with
  | zero =>
    cases j with
    | zero => rfl
    | succ j =>
      rw [chunkSuffix_succ] at h
      exact absurd h.symm Nat.repr_ne_empty
  | succ i =>
    cases j with
    | zero =>
      rw [chunkSuffix_succ] at h
      exact absurd h Nat.repr_ne_empty
    | succ j =>
      rw [chunkSuffix_succ, chunkSuffix_succ] at h
      rw [Nat.repr_injective h]

theorem chunkPath_injective (base : String) {i j : Nat} (h : chunkPath base i = chunkPath base j) : i = j := by
  rw [chunkPath_eq, chunkPath_eq, String.append_right_inj] at h
  exact chunkSuffix_injective h

theorem slash_notMem_chunkSuffix (k : Nat) : '/' ∉ (chunkSuffix k).toList := by
  cases k with
  | zero => simp [chunkSuffix]
  | succ k =>
    rw [chunkSuffix_succ, Nat.toList_repr]
    intro h
    have hdigit := Nat.isDigit_of_mem_toDigits (by decide) (by decide) h
    exact absurd hdigit (by decide)

/-- The stretches between slashes, when more without a slash comes behind them: only the last one grows. -/
theorem exists_splitOn_append (xs : List Char) :
    ∃ before last, (∀ ys, '/' ∉ ys → (xs ++ ys).splitOn '/' = before ++ [last ++ ys]) ∧
      (last = [] → xs = [] ∨ xs.getLast? = some '/') := by
  induction xs with
  | nil => exact ⟨[], [], fun ys hys => by simpa using List.splitOn_eq_singleton hys, fun _ => .inl rfl⟩
  | cons x xs ih =>
    obtain ⟨before, last, hsplit, hlast⟩ := ih
    -- A slash begins a stretch of its own; any other character joins the first stretch, which may be the last.
    by_cases hx : x = '/'
    · subst hx
      refine ⟨[] :: before, last, fun ys hys => ?_, fun h => .inr ?_⟩
      · rw [List.cons_append, List.splitOn_cons_eq_if_modifyHead, if_pos (by simp), hsplit ys hys, List.cons_append]
      · rcases hlast h with rfl | h
        · rfl
        · rw [List.getLast?_cons, h, Option.getD_some]
    · cases before with
      | nil =>
        refine ⟨[], x :: last, fun ys hys => ?_, by simp⟩
        rw [List.cons_append, List.splitOn_cons_eq_if_modifyHead, if_neg (by simpa using hx), hsplit ys hys]
        rfl
      | cons b before =>
        refine ⟨(x :: b) :: before, last, fun ys hys => ?_, fun h => .inr ?_⟩
        · rw [List.cons_append, List.splitOn_cons_eq_if_modifyHead, if_neg (by simpa using hx), hsplit ys hys]
          rfl
        · rcases hlast h with rfl | h'
          · have := hsplit [] (by simp)
            simp at this
          · rw [List.getLast?_cons, h', Option.getD_some]

/-- The paths of all chunks have the same names but for the last. -/
theorem names_chunkPath {base : String} (hne : base ≠ "") (hslash : Path.endsWithSlash base = false) :
    ∃ dirs last, ∀ k, Path.names (chunkPath base k) = dirs ++ [last ++ chunkSuffix k] := by
  obtain ⟨before, last, hsplit, hlast⟩ := exists_splitOn_append base.toList
  have hlast : last ≠ [] := by
    intro h
    rcases hlast h with hnil | hend
    · exact hne (by simpa using hnil)
    · simp [Path.endsWithSlash, hend] at hslash
  refine ⟨(before.filter (!·.isEmpty)).map String.ofList, String.ofList last, fun k => ?_⟩
  rw [Path.names, chunkPath_eq, String.toList_append, hsplit _ (slash_notMem_chunkSuffix k)]
  simp [List.filter_append, hlast]

/-! ## Lookups of the last name -/

/-- The place at the end of a lookup. -/
def Reached.location : Reached → Location
  | entry l | free l => l

namespace FileTree

variable {t : FileTree}

/-- Whatever the last name of a path is, it is looked up in the same directory. -/
theorem follow_concat {links : Nat} {place : Location} {names : List String} {last : String} {r : Reached}
    (h : t.follow links place (names ++ [last]) = .ok r) :
    ∃ links' d, t.follow links place names = .ok (.entry d) ∧
      ∀ m, t.follow links place (names ++ [m]) = t.follow links' d [m] := by
  -- The links that are left over depend on the way to the directory, not on the name looked up in it.
  induction links, place, names using follow.induct t with
  | case1 links place => exact ⟨links, place, by rw [follow], fun m => rfl⟩
  | case2 links place rest ih =>
    rw [List.cons_append, follow, if_pos rfl] at h
    obtain ⟨links', d, hd, hm⟩ := ih h
    refine ⟨links', d, by rw [follow, if_pos rfl, hd], fun m => ?_⟩
    rw [List.cons_append, follow, if_pos rfl, hm]
  | case3 links place rest hne ih =>
    rw [List.cons_append, follow, if_neg hne, if_pos rfl] at h
    obtain ⟨links', d, hd, hm⟩ := ih h
    refine ⟨links', d, by rw [follow, if_neg hne, if_pos rfl, hd], fun m => ?_⟩
    rw [List.cons_append, follow, if_neg hne, if_pos rfl, hm]
  | case4 links place n rest hdot hup hsize =>
    rw [List.cons_append, follow, if_neg hdot, if_neg hup, if_pos hsize] at h
    simp at h
  | case7 links place n rest hdot hup hsize hget ih =>
    rw [List.cons_append, follow_name _ _ _ _ hdot hup hsize] at h
    simp only [hget] at h
    obtain ⟨links', d, hd, hm⟩ := ih h
    refine ⟨links', d, ?_, fun m => ?_⟩
    · rw [follow_name _ _ _ _ hdot hup hsize]
      simp only [hget, hd]
    · rw [List.cons_append, follow_name _ _ _ _ hdot hup hsize]
      simp only [hget, hm]
  | case10 place n rest hdot hup hsize target hget links hempty ih =>
    rw [List.cons_append, follow_name _ _ _ _ hdot hup hsize] at h
    simp only [hget, hempty, ← List.append_assoc] at h
    obtain ⟨links', d, hd, hm⟩ := ih h
    refine ⟨links', d, ?_, fun m => ?_⟩
    · rw [follow_name _ _ _ _ hdot hup hsize]
      simp only [hget, hempty]
      exact hd
    · rw [List.cons_append, follow_name _ _ _ _ hdot hup hsize]
      simp only [hget, hempty, ← List.append_assoc]
      exact hm m
  | case5 links place n rest hdot hup hsize hget hrest
  | case6 links place n rest hdot hup hsize hget hrest
  | case8 place n rest hdot hup hsize target hget
  | case9 place n rest hdot hup hsize target hget links hempty =>
    -- A lookup fails there, so it does not come to the last name.
    rw [List.cons_append, follow_name _ _ _ _ hdot hup hsize] at h
    simp_all
  | case11 links place n rest hdot hup hsize e hdir hlink hget hrest
  | case12 links place n rest hdot hup hsize e hdir hlink hget hrest =>
    rw [List.cons_append, follow_name _ _ _ _ hdot hup hsize] at h
    cases e <;> simp_all

/-- Where one name leads, unless it is that of a link. -/
theorem follow_single {links : Nat} {d : Location} {m : String} {r : Reached} (h : t.follow links d [m] = .ok r)
    (hlink : ∀ target, t.get? (d ++ [m]) ≠ some (.link target)) :
    m = "." ∧ r.location = d ∨ m = ".." ∧ r.location = d.dropLast ∨ r.location = d ++ [m] := by
  by_cases hdot : m = "."
  · rw [follow, if_pos hdot, follow] at h
    obtain rfl : .entry d = r := by simpa using h
    exact .inl ⟨hdot, rfl⟩
  · by_cases hup : m = ".."
    · rw [follow, if_neg hdot, if_pos hup, follow] at h
      obtain rfl : .entry d.dropLast = r := by simpa using h
      exact .inr (.inl ⟨hup, rfl⟩)
    · refine .inr (.inr ?_)
      by_cases hsize : m.utf8ByteSize > 255
      · rw [follow, if_neg hdot, if_neg hup, if_pos hsize] at h
        simp at h
      · rw [follow_name _ _ _ _ hdot hup hsize] at h
        cases hget : t.get? (d ++ [m]) with
        | none =>
          obtain rfl : .free (d ++ [m]) = r := by simpa [hget] using h
          rfl
        | some e =>
          cases e with
          | link target => exact absurd hget (hlink target)
          | directory =>
            obtain rfl : .entry (d ++ [m]) = r := by simpa [hget, follow] using h
            rfl
          | file content =>
            obtain rfl : .entry (d ++ [m]) = r := by simpa [hget] using h
            rfl
          | full =>
            obtain rfl : .entry (d ++ [m]) = r := by simpa [hget] using h
            rfl

/-- A symbolic link stands at the end of a path. -/
def EndsInLink (t : FileTree) (p : String) : Prop :=
  ∃ dirs last d target, Path.names p = dirs ++ [last] ∧ t.reach p dirs = .ok (.entry d) ∧
    t.get? (d ++ [last]) = some (.link target)

theorem follow_of_writable {p : String} {l : Location} (h : t.writable p = .ok l) :
    ∃ r, pathFault? p = none ∧ t.follow linkLimit (t.origin p) (Path.names p) = .ok r ∧ r.location = l := by
  have hreach : ∃ r, t.reach p (Path.names p) = .ok r ∧ r.location = l := by
    rcases (writable_eq_ok_iff.1 h).2 with hf | ⟨he, -⟩
    · exact ⟨_, hf, rfl⟩
    · exact ⟨_, he, rfl⟩
  obtain ⟨r, hr, hl⟩ := hreach
  unfold reach at hr
  split at hr
  · simp at hr
  · next hfault => exact ⟨r, hfault, hr, hl⟩

end FileTree

/-! ## Different files -/

theorem origin_chunkPath (t : FileTree) {base : String} (hne : base ≠ "") (k : Nat) :
    t.origin (chunkPath base k) = t.origin base := by
  have hlist : base.toList ≠ [] := by simpa using hne
  obtain ⟨c, cs, hc⟩ := List.exists_cons_of_ne_nil hlist
  simp [FileTree.origin, Path.isAbsolute, chunkPath_eq, hc]

section
variable {t : FileTree} {base : String} {l₀ : Location}

/-- All chunks lie in one directory, each at its own name; where no links are, that is where they are opened. -/
theorem exists_directory (h₀ : t.writable (chunkPath base 0) = .ok l₀) :
    ∃ d last, ∀ k l, t.writable (chunkPath base k) = .ok l → ¬t.EndsInLink (chunkPath base k) →
      last ++ chunkSuffix k = "." ∧ l = d ∨ last ++ chunkSuffix k = ".." ∧ l = d.dropLast ∨
        l = d ++ [last ++ chunkSuffix k] := by
  have hbase : chunkPath base 0 = base := rfl
  have hslash := (FileTree.writable_eq_ok_iff.1 h₀).1
  obtain ⟨r₀, hfault, hr₀, -⟩ := FileTree.follow_of_writable h₀
  rw [hbase] at hslash hfault hr₀
  have hne : base ≠ "" := by
    rintro rfl
    simp [FileTree.pathFault?] at hfault
  obtain ⟨dirs, last, hnames⟩ := names_chunkPath hne hslash
  have hname₀ := hnames 0
  rw [hbase] at hname₀
  rw [hname₀] at hr₀
  obtain ⟨links, d, hd, hm⟩ := FileTree.follow_concat hr₀
  refine ⟨d, last, fun k l hl hlink => ?_⟩
  obtain ⟨r, hfault, hr, rfl⟩ := FileTree.follow_of_writable hl
  rw [origin_chunkPath t hne, hnames, hm] at hr
  refine FileTree.follow_single hr fun target hget => hlink ?_
  refine ⟨dirs, _, d, target, hnames k, ?_, hget⟩
  rw [FileTree.reach, hfault, origin_chunkPath t hne]
  exact hd

/-- Without links no two chunks are one file. -/
theorem place_injective {l : Location} {i j : Nat} (h₀ : t.writable (chunkPath base 0) = .ok l₀)
    (hi : t.writable (chunkPath base i) = .ok l) (hj : t.writable (chunkPath base j) = .ok l)
    (hlinki : ¬t.EndsInLink (chunkPath base i)) (hlinkj : ¬t.EndsInLink (chunkPath base j)) : i = j := by
  obtain ⟨d, last, hplace⟩ := exists_directory h₀
  have hroot : l ≠ [] := (FileTree.get?_of_writable hi).2
  have hsame (h : last ++ chunkSuffix i = last ++ chunkSuffix j) : i = j :=
    chunkSuffix_injective (String.append_right_inj last |>.1 h)
  -- The place is the directory itself, the one above it, or one below it; these three are different.
  have hup : d = d.dropLast → d = [] := by
    intro h
    have hlen := congrArg List.length h
    rw [List.length_dropLast] at hlen
    rw [← List.length_eq_zero_iff]
    omega
  have hbelow (m : String) : d.dropLast ≠ d ++ [m] := by
    intro h
    have hlen := congrArg List.length h
    rw [List.length_dropLast, List.length_append, List.length_singleton] at hlen
    omega
  have hself (m : String) : d ≠ d ++ [m] := by simp
  rcases hplace i l hi hlinki with ⟨hmi, hli⟩ | ⟨hmi, hli⟩ | hli <;>
    rcases hplace j l hj hlinkj with ⟨hmj, hlj⟩ | ⟨hmj, hlj⟩ | hlj
  · exact hsame (hmi.trans hmj.symm)
  · exact absurd (hli.trans (hup (hli.symm.trans hlj))) hroot
  · exact absurd (hli.symm.trans hlj) (hself _)
  · exact absurd (hlj.trans (hup (hlj.symm.trans hli))) hroot
  · exact hsame (hmi.trans hmj.symm)
  · exact absurd (hli.symm.trans hlj) (hbelow _)
  · exact absurd (hlj.symm.trans hli) (hself _)
  · exact absurd (hlj.symm.trans hli) (hbelow _)
  · exact hsame (by simpa using hli.symm.trans hlj)

end

end CallGraph
