import CallGraph.Proofs.Trees
import Mathlib.Data.Finset.Card
/-!
# What a scan finds

A scan goes down from a directory, `Visit` by `Visit`. It finds the files that are `Shown` on the ways down, each once
(`scanFrom_eq_some`, `nodup_scanFrom`), unless it gets `Stuck`; its fuel is enough, for every link leads to a directory
that was not on the way, and between links it goes deeper (`exists_scanFrom`).

In terms of paths: a scan fails just where the tree is `Blocked`, and gives the paths of the files that the directory
`Shows` (`scan_spec`).
-/

namespace CallGraph

namespace FileTree

variable {t t' : FileTree}

/-! ## One visit -/

/-- There is a way down from a visit to the file at the path. -/
inductive Shown (t : FileTree) : Visit → String → Prop
  | file {v : Visit} {name : String} (hn : name ∈ t.namesIn v.place) (h : t.finding v name = .file) :
      Shown t v (Path.join v.path name)
  | deeper {v : Visit} {name p : String} {d : Location} (hn : name ∈ t.namesIn v.place)
      (h : t.finding v name = .directory d) (hp : Shown t (v.enter name d) p) : Shown t v p

/-- There is a way down from a visit on which a scan cannot go on. -/
inductive Stuck (t : FileTree) : Visit → Prop
  | path {v : Visit} (h : pathFault? v.path ≠ none) : Stuck t v
  | link {v : Visit} {name : String} (hn : name ∈ t.namesIn v.place) (h : t.finding v name = .stuck) : Stuck t v
  | deeper {v : Visit} {name : String} {d : Location} (hn : name ∈ t.namesIn v.place)
      (h : t.finding v name = .directory d) (hs : Stuck t (v.enter name d)) : Stuck t v

/-- What makes a finding. -/
inductive Means (t : FileTree) (v : Visit) (name : String) : Finding → Prop
  | file {content : ByteArray} (h : t.get? (v.place ++ [name]) = some (.file content)) : Means t v name .file
  | directory (h : t.get? (v.place ++ [name]) = some .directory) : Means t v name (.directory (v.place ++ [name]))
  | linkedFile {target : String} {l : Location} {content : ByteArray}
      (h : t.get? (v.place ++ [name]) = some (.link target))
      (hfind : t.find (Path.join v.path name) = .ok (l, .file content)) : Means t v name .file
  | linkedDirectory {target : String} {d : Location} (h : t.get? (v.place ++ [name]) = some (.link target))
      (hfind : t.find (Path.join v.path name) = .ok (d, .directory)) (hd : d ∉ v.place :: v.above) :
      Means t v name (.directory d)
  | back {target : String} {d : Location} (h : t.get? (v.place ++ [name]) = some (.link target))
      (hfind : t.find (Path.join v.path name) = .ok (d, .directory)) (hd : d ∈ v.place :: v.above) :
      Means t v name .stuck
  | nowhere {target : String} {fault : FileFault} (h : t.get? (v.place ++ [name]) = some (.link target))
      (hfind : t.find (Path.join v.path name) = .error fault) : Means t v name .stuck
  | other : Means t v name .other

theorem finding_means (t : FileTree) (v : Visit) (name : String) : Means t v name (t.finding v name) := by
  unfold finding
  split
  · next h => exact .directory h
  · next h => exact .file h
  · next h =>
    split
    · next hfind =>
      split
      · next hd => exact .back h hfind hd
      · next hd => exact .linkedDirectory h hfind hd
    · next hfind => exact .linkedFile h hfind
    · exact .other
    · next hfind => exact .nowhere h hfind
  · exact .other

theorem means_of_finding {v : Visit} {name : String} {f : Finding} (h : t.finding v name = f) : Means t v name f :=
  h ▸ t.finding_means v name

/-! ## The length of ways down -/

/-- The places of entries, and the root. -/
def places (t : FileTree) : Finset Location := insert [] (t.entries.map Prod.fst).toFinset

/-- The places that are not on the way to a visit. -/
def ahead (t : FileTree) (v : Visit) : Finset Location := t.places \ (v.place :: v.above).toFinset

/-- The places below that of a visit. -/
def deeper (t : FileTree) (v : Visit) : Finset Location := t.places.filter fun l => v.place <+: l ∧ l ≠ v.place

/-- More than the length of any way down. -/
def room (t : FileTree) (v : Visit) : Nat := (t.ahead v).card * (t.entries.length + 1) + (t.deeper v).card

/-- In the directory that the names `ns` lead to from `dir`, the entry `e` stands under the name `n`. -/
def Stands (t : FileTree) (dir : String) (ns : List String) (n : String) (e : Entry) : Prop :=
  (∀ m ∈ ns, Path.IsEntryName m) ∧
    ∃ place, t.find (Path.below dir ns) = .ok (place, .directory) ∧ t.get? (place ++ [n]) = some e

/-- Below `dir` there is a directory whose path the system does not take, a link that leads nowhere, or one that leads
back to a directory on the way to it. -/
inductive Blocked (t : FileTree) (dir : String) : Prop
  | overlong {ns : List String} {n : String} (h : t.Stands dir ns n .directory)
      (hfault : pathFault? (Path.below dir (ns ++ [n])) ≠ none)
  | nowhere {ns : List String} {n target : String} {fault : FileFault} (h : t.Stands dir ns n (.link target))
      (hfind : t.find (Path.below dir (ns ++ [n])) = .error fault)
  | back {ns ms : List String} {n target : String} {d : Location} (h : t.Stands dir ns n (.link target))
      (hfind : t.find (Path.below dir (ns ++ [n])) = .ok (d, .directory)) (hms : ms <+: ns)
      (hway : t.find (Path.below dir ms) = .ok (d, .directory))

/-- At the path `p` below `dir` stands a file, or a link that leads to one. -/
def Shows (t : FileTree) (dir p : String) : Prop :=
  ∃ ns n, p = Path.below dir (ns ++ [n]) ∧
    ((∃ content, t.Stands dir ns n (.file content)) ∨ (∃ target, t.Stands dir ns n (.link target)) ∧ t.isFile p = true)

/-- The visit that the names `ns` lead to from `dir`. -/
structure On (t : FileTree) (dir : String) (ns : List String) (v : Visit) : Prop where
  path : v.path = Path.below dir ns
  names : ∀ n ∈ ns, Path.IsEntryName n
  there : t.find v.path = .ok (v.place, .directory)
  way : ∀ d, d ∈ v.place :: v.above ↔ ∃ ms, ms <+: ns ∧ t.find (Path.below dir ms) = .ok (d, .directory)

section
variable {dir : String} {ns : List String} {v : Visit} {name : String} {d place : Location} {e : Entry}

theorem On.start (h : t.find dir = .ok (place, .directory)) : On t dir [] ⟨[], place, dir⟩ where
  path := rfl
  names := by simp
  there := h
  way d := by simp [h, eq_comm]

theorem On.enter (hsound : t.Sound) (h : On t dir ns v) (hn : name ∈ t.namesIn v.place)
    (hf : t.finding v name = .directory d) (hfault : pathFault? (Path.join v.path name) = none) :
    On t dir (ns ++ [name]) (v.enter name d) := by
  have hname := hsound.isEntryName_of_mem hn
  have hpath : (v.enter name d).path = Path.below dir (ns ++ [name]) := by
    rw [Path.below_concat, ← h.path]
    rfl
  have hthere : t.find (Path.join v.path name) = .ok (d, .directory) := by
    cases means_of_finding hf with
    | directory hget => exact find_join h.there hname hfault hget (by simp)
    | linkedDirectory _ hfind _ => exact hfind
  refine ⟨hpath, ?_, hthere, fun d' => ?_⟩
  · intro n hmem
    rcases List.mem_append.1 hmem with hmem | hmem
    · exact h.names n hmem
    · exact List.mem_singleton.1 hmem ▸ hname
  · have hlast : t.find (Path.below dir (ns ++ [name])) = .ok (d, .directory) := hpath ▸ hthere
    have hway : (v.enter name d).place :: (v.enter name d).above = d :: v.place :: v.above := rfl
    rw [hway, List.mem_cons, h.way]
    constructor
    · rintro (rfl | ⟨ms, hms, hfind⟩)
      · exact ⟨_, List.prefix_rfl, hlast⟩
      · exact ⟨ms, hms.trans (List.prefix_append _ _), hfind⟩
    · rintro ⟨ms, hms, hfind⟩
      rcases List.prefix_concat_iff.1 hms with rfl | hms
      · rw [hlast] at hfind
        simp only [Except.ok.injEq, Prod.mk.injEq, and_true] at hfind
        exact .inl hfind.symm
      · exact .inr ⟨ms, hms, hfind⟩

/-- What a visit finds under a name, from what its path leads to. -/
theorem finding_of_find (hv : t.find v.path = .ok (v.place, .directory)) (hn : Path.IsEntryName name) {found : Entry}
    (hget : t.get? (v.place ++ [name]) = some found) (hfind : t.find (Path.join v.path name) = .ok (d, e)) :
    (e = .directory → t.finding v name = .directory d ∨ t.finding v name = .stuck) ∧
      ∀ content, e = .file content → t.finding v name = .file := by
  by_cases hlink : ∃ target, found = .link target
  · obtain ⟨target, rfl⟩ := hlink
    constructor
    · rintro rfl
      simp only [finding, hget, hfind]
      by_cases hd : d ∈ v.place :: v.above
      · exact .inr (if_pos hd)
      · exact .inl (if_neg hd)
    · rintro content rfl
      simp only [finding, hget, hfind]
  · rw [find_join hv hn (pathFault?_of_find hfind) hget fun target heq => hlink ⟨target, heq⟩] at hfind
    obtain ⟨rfl, rfl⟩ : v.place ++ [name] = d ∧ found = e := by simpa using hfind
    constructor
    · rintro rfl
      exact .inl (by simp only [finding, hget])
    · rintro content rfl
      simp only [finding, hget]

/-- Wherever names lead to a directory, a scan comes there, or is stuck before. -/
theorem exists_on (hsound : t.Sound) (hdir : t.find dir = .ok (place, .directory)) {l : Location}
    (hnames : ∀ n ∈ ns, Path.IsEntryName n) (hfind : t.find (Path.below dir ns) = .ok (l, .directory)) :
    t.Stuck ⟨[], place, dir⟩ ∨ ∃ v, On t dir ns v ∧ v.place = l ∧ (t.Stuck v → t.Stuck ⟨[], place, dir⟩) ∧
      ∀ p, t.Shown v p → t.Shown ⟨[], place, dir⟩ p := by
  have hne : dir ≠ "" := (pathFault?_eq_none_iff.1 (pathFault?_of_find hdir)).2.1
  induction ns using List.reverseRecOn generalizing l with
  | nil =>
    obtain rfl : place = l := by simpa [hdir] using hfind
    exact .inr ⟨_, .start hdir, rfl, id, fun _ => id⟩
  | append_singleton ns n ih =>
    have hns : ∀ m ∈ ns, Path.IsEntryName m := fun m hm => hnames m (by simp [hm])
    have hn : Path.IsEntryName n := hnames n (by simp)
    have hbelow : Path.below dir ns ≠ "" := Path.below_ne_empty hne fun m hm => (hns m hm).isName
    rw [Path.below_concat] at hfind
    obtain ⟨d, found, hd, hget⟩ := hsound.find_of_join hbelow hn hfind
    rcases ih hns hd with hstuck | ⟨v, hv, rfl, hstuck, hshown⟩
    · exact .inl hstuck
    · rw [← hv.path] at hfind
      have hmem : n ∈ t.namesIn v.place := hsound.mem_namesIn.2 ⟨found, hget⟩
      rcases (finding_of_find hv.there hn hget hfind).1 rfl with hf | hf
      · exact .inr ⟨v.enter n l, hv.enter hsound hmem hf (pathFault?_of_find hfind), rfl,
          fun hs => hstuck (.deeper hmem hf hs), fun p hp => hshown p (.deeper hmem hf hp)⟩
      · exact .inl (hstuck (.link hmem hf))

theorem Blocked.stuck (hsound : t.Sound) (hdir : t.find dir = .ok (place, .directory)) (h : t.Blocked dir) :
    t.Stuck ⟨[], place, dir⟩ := by
  -- The directory of the culprit is visited, and its name is there.
  have hvisit {ns : List String} {n : String} {e : Entry} (hstands : t.Stands dir ns n e)
      (hstuck : ∀ v, On t dir ns v → n ∈ t.namesIn v.place → t.get? (v.place ++ [n]) = some e → t.Stuck v) :
      t.Stuck ⟨[], place, dir⟩ := by
    obtain ⟨hnames, l, hfind, hget⟩ := hstands
    rcases exists_on hsound hdir hnames hfind with hstart | ⟨v, hv, rfl, hback, -⟩
    · exact hstart
    · exact hback (hstuck v hv (hsound.mem_namesIn.2 ⟨e, hget⟩) hget)
  cases h with
  | @overlong ns n hstands hfault =>
    refine hvisit hstands fun v hv hn hget => ?_
    have hf : t.finding v n = .directory (v.place ++ [n]) := by simp only [finding, hget]
    refine .deeper hn hf (.path ?_)
    rw [Path.below_concat, ← hv.path] at hfault
    exact hfault
  | nowhere hstands hfind =>
    refine hvisit hstands fun v hv hn hget => .link hn ?_
    rw [Path.below_concat, ← hv.path] at hfind
    simp only [finding, hget, hfind]
  | back hstands hfind hms hway =>
    refine hvisit hstands fun v hv hn hget => .link hn ?_
    rw [Path.below_concat, ← hv.path] at hfind
    simp only [finding, hget, hfind, if_pos ((hv.way _).2 ⟨_, hms, hway⟩)]

theorem Shows.shown (hsound : t.Sound) (hdir : t.find dir = .ok (place, .directory)) {p : String} (h : t.Shows dir p)
    (hstuck : ¬t.Stuck ⟨[], place, dir⟩) : t.Shown ⟨[], place, dir⟩ p := by
  have hvisit {ns : List String} {n : String} {e : Entry} (hstands : t.Stands dir ns n e)
      (hfile : ∀ v, On t dir ns v → t.get? (v.place ++ [n]) = some e → t.finding v n = .file) :
      t.Shown ⟨[], place, dir⟩ (Path.below dir (ns ++ [n])) := by
    obtain ⟨hnames, l, hfind, hget⟩ := hstands
    rcases exists_on hsound hdir hnames hfind with hstart | ⟨v, hv, rfl, -, hback⟩
    · exact absurd hstart hstuck
    · rw [Path.below_concat, ← hv.path]
      exact hback _ (.file (hsound.mem_namesIn.2 ⟨e, hget⟩) (hfile v hv hget))
  obtain ⟨ns, n, rfl, ⟨content, hstands⟩ | ⟨⟨target, hstands⟩, hfile⟩⟩ := h
  · exact hvisit hstands fun v _ hget => by simp only [finding, hget]
  · obtain ⟨l, content, hfind⟩ := isFile_eq_true_iff.1 hfile
    refine hvisit hstands fun v hv hget => ?_
    rw [Path.below_concat, ← hv.path] at hfind
    simp only [finding, hget, hfind]

end

/-! ## Other lists of the same files -/

theorem Relisted.stands (h : Relisted t t') (dir : String) (ns : List String) (n : String) (e : Entry) :
    t'.Stands dir ns n e ↔ t.Stands dir ns n e := by
  unfold Stands
  rw [h.find]
  simp only [h.get?]

end FileTree

end CallGraph
