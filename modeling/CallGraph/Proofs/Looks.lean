import CallGraph.Proofs.Holdings
/-!
# Looking at archives

To search archives is to look at them, for their entries or for the lines of an entry. Here the looks are a parameter of
the search: `Shelf.searchBy`. With a library that writes them down it comes to what `Shelf.search` does, and takes the
looks that are needed and that are not remembered: `Meets.run`. Then these are remembered as well, `Meets.recalled`, and
what they show is what the archives have at the time, `Meets.shown`.
-/

namespace CallGraph

/-- A look at an archive, which is given by its position: for its entries, or for the lines of one of them. -/
inductive Look
  | entries (archive : Nat)
  | lines (archive : Nat) (entry : String)
  deriving DecidableEq

def Look.archive : Look → Nat
  | entries i | lines i _ => i

/-- What a look shows, if there is such an archive. -/
def Look.shown (hs : List Holding) : Look → Option (List String ⊕ Option (Array String))
  | .entries i => hs[i]?.map fun h => .inl h.entries
  | .lines i entry => hs[i]?.map fun h => .inr (h.lines entry)

/-- A way to look at archives. -/
structure Library (m : Type → Type) where
  entries : Nat → Archive → m (List String)
  lines : Nat → Archive → String → m (Option (Array String))

/-- Looks at the archives as they are in `t`, and writes it down. -/
def Library.logged (t : FileTree) : Library (StateM (List Look)) where
  entries i a log := ((a.holding t).entries, log ++ [.entries i])
  lines i a entry log := ((a.holding t).lines entry, log ++ [.lines i entry])

namespace Shelf

variable {m : Type → Type} [Monad m] (library : Library m)

/-- The entries of the archive in position `i`, from a library if they are not remembered. -/
def entriesBy (i : Nat) (s : Shelf) : m (List String) :=
  match s.listing with
  | some names => pure names
  | none => library.entries i s.archive

/-- The lines of an entry, from a library if they are not remembered. -/
def linesBy (i : Nat) (s : Shelf) (entry : String) : m (Option (Array String)) :=
  match s.texts[entry]? with
  | some lines => pure lines
  | none => library.lines i s.archive entry

/-- Searches shelves as `Shelf.search` does, by the looks of a library. The first shelf is in position `i`. -/
def searchBy (candidate : String) (line : UInt32) (i : Nat) : List Shelf → m (Option String × List Shelf)
  | [] => pure (none, [])
  | s :: rest => do
    let names ← s.entriesBy library i
    let s := { s with listing := some names }
    match Archive.findEntry? names candidate with
    | none =>
      let (text, rest) ← searchBy candidate line (i + 1) rest
      pure (text, s :: rest)
    | some entry =>
      let lines ← s.linesBy library i entry
      let s := { s with texts := s.texts.insert entry lines }
      let text := lines.bind fun lines => if line = 0 then none else lines[line.toNat - 1]?
      pure (text, s :: rest)

end Shelf

/-- The looks it takes to search holdings, of which the first is in position `i`: at the entries of each, up to the first
that has the file, and there at the lines. -/
def looksFor (candidate : String) (i : Nat) : List Holding → List Look
  | [] => []
  | h :: rest =>
    .entries i :: match Archive.findEntry? h.entries candidate with
      | none => looksFor candidate (i + 1) rest
      | some entry => [.lines i entry]

/-! ## Positions -/

theorem le_archive_of_mem_looksFor {candidate : String} {i : Nat} {hs : List Holding} {x : Look}
    (hx : x ∈ looksFor candidate i hs) : i ≤ x.archive := by
  induction hs generalizing i with
  | nil => simp [looksFor] at hx
  | cons h rest ih =>
    rw [looksFor, List.mem_cons] at hx
    rcases hx with rfl | hx
    · exact Nat.le_refl i
    · split at hx
      · exact Nat.le_of_succ_le (ih hx)
      · rw [List.mem_singleton.1 hx]
        exact Nat.le_refl i

namespace Shelf

/-- Whether a shelf in position `i` remembers what a look shows. -/
def recalls (i : Nat) (s : Shelf) : Look → Bool
  | .entries j => decide (j = i) && s.listing.isSome
  | .lines j entry => decide (j = i) && s.texts[entry]?.isSome

/-- Whether some shelf does, the first being in position `i`. -/
def recalled (x : Look) (i : Nat) : List Shelf → Bool
  | [] => false
  | s :: rest => s.recalls i x || recalled x (i + 1) rest

theorem recalls_entries (i : Nat) (s : Shelf) : s.recalls i (.entries i) = s.listing.isSome := by
  simp only [recalls, decide_true, Bool.true_and]

theorem recalls_lines (i : Nat) (s : Shelf) (entry : String) :
    s.recalls i (.lines i entry) = s.texts[entry]?.isSome := by
  simp only [recalls, decide_true, Bool.true_and]

theorem recalls_of_ne {i : Nat} {x : Look} (h : x.archive ≠ i) (s : Shelf) : s.recalls i x = false := by
  cases x <;> simp_all [recalls, Look.archive]

theorem recalled_cons (x : Look) (i : Nat) (s : Shelf) (rest : List Shelf) :
    recalled x i (s :: rest) = (s.recalls i x || recalled x (i + 1) rest) := rfl

theorem recalled_of_lt {i : Nat} {x : Look} (h : x.archive < i) (shelves : List Shelf) :
    recalled x i shelves = false := by
  induction shelves generalizing i with
  | nil => rfl
  | cons s rest ih => rw [recalled_cons, recalls_of_ne (by omega), ih (by omega), Bool.or_false]

/-- Only the first shelf has to do with looks at the first archive. -/
theorem recalled_first {i : Nat} {x : Look} (h : x.archive = i) (s : Shelf) (rest : List Shelf) :
    recalled x i (s :: rest) = s.recalls i x := by
  rw [recalled_cons, recalled_of_lt (by omega), Bool.or_false]

theorem recalled_later {i : Nat} {x : Look} (h : i < x.archive) (s : Shelf) (rest : List Shelf) :
    recalled x i (s :: rest) = recalled x (i + 1) rest := by
  rw [recalled_cons, recalls_of_ne (by omega), Bool.false_or]

/-! ## A search and its looks -/

variable {t : FileTree} {candidate : String} {shelves : List Shelf} {hs : List Holding}

theorem looksFor_pass {h : Holding} (i : Nat) (find : Archive.findEntry? h.entries candidate = none) :
    looksFor candidate i (h :: hs) = [.entries i] ++ looksFor candidate (i + 1) hs := by
  rw [looksFor, find]
  rfl

theorem looksFor_found {h : Holding} {entry : String} (i : Nat)
    (find : Archive.findEntry? h.entries candidate = some entry) :
    looksFor candidate i (h :: hs) = [.entries i] ++ [.lines i entry] := by
  rw [looksFor, find]
  rfl

/-- Of the looks at the first archive, the first shelf remembers all that is remembered. -/
theorem filter_looks_first {i : Nat} {looks : List Look} (h : ∀ x ∈ looks, x.archive = i) (s : Shelf)
    (rest : List Shelf) :
    (looks.filter fun x => !recalled x i (s :: rest)) = looks.filter fun x => !s.recalls i x :=
  List.filter_congr fun x hx => by rw [recalled_first (h x hx)]

/-- Of those at the later ones it remembers nothing. -/
theorem filter_looks_later (i : Nat) (s : Shelf) (rest : List Shelf) (hs : List Holding) :
    ((looksFor candidate (i + 1) hs).filter fun x => !recalled x i (s :: rest)) =
      (looksFor candidate (i + 1) hs).filter fun x => !recalled x (i + 1) rest :=
  List.filter_congr fun x hx => by rw [recalled_later (le_archive_of_mem_looksFor hx)]

theorem entriesBy_logged (t : FileTree) (i : Nat) (s : Shelf) (log : List Look) :
    (s.entriesBy (.logged t) i).run log = (s.entries t, log ++ [Look.entries i].filter fun x => !s.recalls i x) := by
  unfold entriesBy entries
  cases hl : s.listing with
  | some names =>
    simp only [List.filter_cons, List.filter_nil, recalls_entries, hl, Option.isSome_some, Bool.not_true,
      Bool.false_eq_true, if_false, List.append_nil]
    rfl
  | none =>
    simp only [List.filter_cons, List.filter_nil, recalls_entries, hl, Option.isSome_none, Bool.not_false, if_true]
    rfl

theorem linesBy_logged (t : FileTree) (i : Nat) (s : Shelf) (entry : String) (log : List Look) :
    (s.linesBy (.logged t) i entry).run log =
      (s.linesOf t entry, log ++ [Look.lines i entry].filter fun x => !s.recalls i x) := by
  unfold linesBy linesOf
  cases hl : s.texts[entry]? with
  | some lines =>
    simp only [List.filter_cons, List.filter_nil, recalls_lines, hl, Option.isSome_some, Bool.not_true,
      Bool.false_eq_true, if_false, List.append_nil]
    rfl
  | none =>
    simp only [List.filter_cons, List.filter_nil, recalls_lines, hl, Option.isSome_none, Bool.not_false, if_true]
    rfl

theorem run_bind_of {σ α β : Type} {x : StateM σ α} {s s' : σ} {a : α} (h : x.run s = (a, s')) (f : α → StateM σ β) :
    (x >>= f).run s = (f a).run s' := by
  rw [StateT.run_bind, h]
  rfl

/-- With the looks written down, a search is the search it was. The looks it takes are those that it needs and that are
not remembered. -/
theorem Meets.run (h : Meets t candidate shelves hs) (line : UInt32) (i : Nat) (log : List Look) :
    (searchBy (.logged t) candidate line i shelves).run log =
      (search t candidate line shelves, log ++ (looksFor candidate i hs).filter fun x => !recalled x i shelves) := by
  -- On both sides the looks at the first archive come first; what is left is the search of the rest.
  induction h generalizing i log with
  | nil =>
    rw [looksFor, List.filter_nil, List.append_nil]
    rfl
  | @pass s rest h hs agrees entries find later ih =>
    have hfirst : ∀ x ∈ [Look.entries i], x.archive = i := by simp [Look.archive]
    rw [search_cons, looksFor_pass i find, List.filter_append, filter_looks_first hfirst, filter_looks_later,
      ← List.append_assoc, searchBy, run_bind_of (entriesBy_logged t i s log)]
    simp only [entries, find]
    rw [run_bind_of (ih (i + 1) _), rememberEntries, entries]
    rfl
  | @found s rest h hs entry agrees entries find lines later =>
    have hfirst : ∀ x ∈ [Look.entries i], x.archive = i := by simp [Look.archive]
    have hsecond : ∀ x ∈ [Look.lines i entry], x.archive = i := by simp [Look.archive]
    rw [search_cons, looksFor_found i find, List.filter_append, filter_looks_first hfirst, filter_looks_first hsecond,
      ← List.append_assoc, searchBy, run_bind_of (entriesBy_logged t i s log)]
    simp only [entries, find]
    rw [run_bind_of (linesBy_logged t i _ entry _), rememberEntries, entries]
    rfl

/-! ## What is remembered of a search -/

theorem recalls_rememberEntries (t : FileTree) (i : Nat) (s : Shelf) (x : Look) :
    (s.rememberEntries t).recalls i x = (s.recalls i x || decide (x = .entries i)) := by
  cases x with
  | entries j => by_cases hj : j = i <;> simp [recalls, rememberEntries, hj]
  | lines j entry => simp [recalls, rememberEntries]

theorem recalls_rememberLines (t : FileTree) (i : Nat) (s : Shelf) (entry : String) (x : Look) :
    (s.rememberLines t entry).recalls i x = (s.recalls i x || decide (x = .lines i entry)) := by
  cases x with
  | entries j => simp [recalls, rememberLines]
  | lines j entry' =>
    by_cases hj : j = i
    · simp [recalls, rememberLines, hj, Std.HashMap.contains_insert, Bool.or_comm, eq_comm, beq_eq_decide]
    · simp [recalls, hj]

/-- What is remembered after a search is what was before and what the search needed. -/
theorem Meets.recalled (h : Meets t candidate shelves hs) (line : UInt32) (i : Nat) (x : Look) :
    Shelf.recalled x i (search t candidate line shelves).2 =
      (Shelf.recalled x i shelves || decide (x ∈ looksFor candidate i hs)) := by
  induction h generalizing i with
  | nil => simp [search, looksFor, Shelf.recalled]
  | @pass s rest h hs agrees entries find later ih =>
    rw [search_cons, looksFor_pass i find, entries, find]
    simp only [recalled_cons, recalls_rememberEntries, ih, List.mem_append, List.mem_singleton, Bool.decide_or]
    ac_rfl
  | @found s rest h hs entry agrees entries find lines later =>
    rw [search_cons, looksFor_found i find, entries, find]
    simp only [recalled_cons, recalls_rememberLines, recalls_rememberEntries, List.mem_append, List.mem_singleton,
      Bool.decide_or]
    ac_rfl

/-- Entries that were not remembered are those that the archive has now. -/
theorem entries_of_new {i : Nat} {s : Shelf} (t : FileTree) (h : s.recalls i (.entries i) = false) :
    s.entries t = (s.archive.holding t).entries := by
  rw [recalls_entries, Option.isSome_eq_false_iff, Option.isNone_iff_eq_none] at h
  rw [Shelf.entries, h]
  rfl

theorem linesOf_of_new {i : Nat} {s : Shelf} {entry : String} (t : FileTree) (h : s.recalls i (.lines i entry) = false) :
    s.linesOf t entry = (s.archive.holding t).lines entry := by
  rw [recalls_lines, Option.isSome_eq_false_iff, Option.isNone_iff_eq_none] at h
  rw [Shelf.linesOf, h]
  rfl

theorem getElem?_length_append {α : Type} (before : List α) (x : α) (rest : List α) :
    (before ++ x :: rest)[before.length]? = some x := by
  rw [List.getElem?_append_right (Nat.le_refl _), Nat.sub_self]
  rfl

/-- A look that a search needs and that is not remembered shows of the holdings what the archives have now. Other
archives may stand before those that are searched. -/
theorem Meets.shown (h : Meets t candidate shelves hs) {before before' : List Holding}
    (hlength : before'.length = before.length) {x : Look} (hx : x ∈ looksFor candidate before.length hs)
    (hnew : Shelf.recalled x before.length shelves = false) :
    x.shown (before ++ hs) = x.shown (before' ++ shelves.map fun s => s.archive.holding t) := by
  -- Going on to the next shelf, its predecessor is one more archive that stands before.
  induction h generalizing before before' with
  | nil => simp [looksFor] at hx
  | @pass s rest h hs agrees entries find later ih =>
    rw [looksFor_pass _ find, List.mem_append, List.mem_singleton] at hx
    rw [recalled_cons, Bool.or_eq_false_iff] at hnew
    rcases hx with rfl | hx
    · have hentries : h.entries = (s.archive.holding t).entries := entries ▸ entries_of_new t hnew.1
      rw [Look.shown, Look.shown, getElem?_length_append, ← hlength, List.map_cons, getElem?_length_append]
      simp only [Option.map_some, hentries]
    · have hmore : (before ++ [h]).length = before.length + 1 := by simp
      have hmore' : (before' ++ [s.archive.holding t]).length = (before ++ [h]).length := by simp [hlength]
      rw [← hmore] at hx hnew
      rw [List.append_cons before, List.map_cons, List.append_cons before']
      exact ih hmore' hx hnew.2
  | @found s rest h hs entry agrees entries find lines later =>
    rw [looksFor_found _ find, List.mem_append, List.mem_singleton, List.mem_singleton] at hx
    rw [recalled_first (by rcases hx with rfl | rfl <;> rfl)] at hnew
    rcases hx with rfl | rfl
    · have hentries : h.entries = (s.archive.holding t).entries := entries ▸ entries_of_new t hnew
      rw [Look.shown, Look.shown, getElem?_length_append, ← hlength, List.map_cons, getElem?_length_append]
      simp only [Option.map_some, hentries]
    · have hlines : h.lines entry = (s.archive.holding t).lines entry := lines ▸ linesOf_of_new t hnew
      rw [Look.shown, Look.shown, getElem?_length_append, ← hlength, List.map_cons, getElem?_length_append]
      simp only [Option.map_some, hlines]

end Shelf

end CallGraph
