import CallGraph.Files.Scan
import CallGraph.Proofs.Directories
import CallGraph.Proofs.Lists
/-!
# Sound file trees

What makes entries a file system: each has a place of its own, a name that the system allows, and stands in a directory
(`FileTree.Sound`). A lookup then passes through directories only, so it goes name by name: `find_join`, `find_below`. It
sees the entries and not their order (`FileTree.Relisted`).
-/

namespace CallGraph

/-! ## Names and paths -/

namespace Path

/-- What an entry of a directory can be called. -/
structure IsEntryName (n : String) : Prop where
  isName : IsName n
  nul : '\x00' ∉ n.toList
  here : n ≠ "."
  up : n ≠ ".."
  size : n.utf8ByteSize ≤ 255

instance (n : String) : Decidable (IsEntryName n) :=
  decidable_of_iff ((n ≠ "" ∧ '/' ∉ n.toList) ∧ '\x00' ∉ n.toList ∧ n ≠ "." ∧ n ≠ ".." ∧ n.utf8ByteSize ≤ 255)
    ⟨fun ⟨h₁, h₂, h₃, h₄, h₅⟩ => ⟨h₁, h₂, h₃, h₄, h₅⟩, fun ⟨h₁, h₂, h₃, h₄, h₅⟩ => ⟨h₁, h₂, h₃, h₄, h₅⟩⟩

/-- The path behind `p` with these names. -/
def below (p : String) (ns : List String) : String := ns.foldl join p

@[simp] theorem below_nil (p : String) : below p [] = p := rfl

theorem below_concat (p : String) (ns : List String) (n : String) : below p (ns ++ [n]) = join (below p ns) n := by
  simp [below]

section
variable {p n : String}

theorem toList_getLast? (hn : IsName n) : ∃ c, n.toList.getLast? = some c ∧ c ≠ '/' := by
  have hlist : n.toList ≠ [] := by simpa using hn.1
  refine ⟨n.toList.getLast hlist, List.getLast?_eq_some_getLast hlist, ?_⟩
  exact ne_of_mem_of_not_mem (List.getLast_mem hlist) hn.2

theorem toList_head? (hn : IsName n) : ∃ c, n.toList.head? = some c ∧ c ≠ '/' := by
  have hlist : n.toList ≠ [] := by simpa using hn.1
  refine ⟨n.toList.head hlist, List.head?_eq_some_head hlist, ?_⟩
  exact ne_of_mem_of_not_mem (List.head_mem hlist) hn.2

theorem not_isAbsolute (hn : IsName n) : isAbsolute n = false := by
  obtain ⟨c, hc, hslash⟩ := toList_head? hn
  simpa [isAbsolute, hc] using hslash

/-- A name behind a path, after a slash of its own if there is none. -/
theorem join_eq (hp : p ≠ "") (hn : IsName n) : join p n = if endsWithSlash p then p ++ n else p ++ "/" ++ n := by
  have hempty : p.isEmpty = false := by simpa using hp
  rw [join, not_isAbsolute hn, hempty, Bool.false_or, if_neg Bool.false_ne_true]

theorem endsWithSlash_join (hp : p ≠ "") (hn : IsName n) : endsWithSlash (join p n) = false := by
  obtain ⟨c, hc, hslash⟩ := toList_getLast? hn
  have hlast (q : String) : endsWithSlash (q ++ n) = false := by
    simpa [endsWithSlash, List.getLast?_append, hc] using hslash
  rw [join_eq hp hn]
  split
  · exact hlast p
  · exact hlast (p ++ "/")

theorem prefix_join (hp : p ≠ "") (hn : IsName n) : p.toList <+: (join p n).toList := by
  rw [join_eq hp hn]
  split <;> simp

theorem join_ne_empty (hp : p ≠ "") (hn : IsName n) : join p n ≠ "" := by
  intro hnil
  have hfront := prefix_join hp hn
  rw [hnil] at hfront
  exact hp (by simpa using hfront)

theorem isAbsolute_join (hp : p ≠ "") (hn : IsName n) : isAbsolute (join p n) = isAbsolute p := by
  have hlist : p.toList ≠ [] := by simpa using hp
  obtain ⟨c, cs, hc⟩ := List.exists_cons_of_ne_nil hlist
  obtain ⟨rest, hrest⟩ := prefix_join hp hn
  simp [isAbsolute, ← hrest, hc]

theorem names_append_slash (p q : String) : names (p ++ "/" ++ q) = names p ++ names q := by
  have hlist : (p ++ "/" ++ q).toList = p.toList ++ '/' :: q.toList := by simp
  rw [names, hlist, List.splitOn_append_cons_self, List.filter_append, List.map_append]
  rfl

theorem names_of_isName (hn : IsName n) : names n = [n] := by
  have hne : n.toList ≠ [] := by simpa using hn.1
  simp [names, List.splitOn_eq_singleton hn.2, hne]

theorem exists_of_endsWithSlash (h : endsWithSlash p = true) : ∃ q, p = q ++ "/" := by
  have hlast : p.toList.getLast? = some '/' := by simpa [endsWithSlash] using h
  obtain ⟨cs, hcs⟩ := List.getLast?_eq_some_iff.1 hlast
  refine ⟨String.ofList cs, String.toList_inj.1 ?_⟩
  simp [hcs]

theorem names_slash (p : String) : names (p ++ "/") = names p := by
  have h := names_append_slash p ""
  rw [String.append_empty] at h
  exact h.trans (List.append_nil _)

theorem names_join (hp : p ≠ "") (hn : IsName n) : names (join p n) = names p ++ [n] := by
  rw [join_eq hp hn]
  split
  · next hslash =>
    obtain ⟨q, rfl⟩ := exists_of_endsWithSlash hslash
    rw [names_slash, names_append_slash, names_of_isName hn]
  · rw [names_append_slash, names_of_isName hn]

theorem steps_join (hp : p ≠ "") (hn : IsName n) : steps (join p n) = names p ++ [n] := by
  rw [steps, endsWithSlash_join hp hn, if_neg Bool.false_ne_true, names_join hp hn]

end

section
variable {p : String} {ns : List String}

theorem below_ne_empty (hp : p ≠ "") (h : ∀ n ∈ ns, IsName n) : below p ns ≠ "" := by
  induction ns using List.reverseRecOn with
  | nil => exact hp
  | append_singleton ns n ih =>
    rw [below_concat]
    exact join_ne_empty (ih fun m hm => h m (by simp [hm])) (h n (by simp))

theorem below_cons (p n : String) (ns : List String) : below p (n :: ns) = below (join p n) ns := rfl

/-- Names that are put together first lead to the same path. -/
theorem join_join (hp : p ≠ "") (h : ∀ n ∈ ns, IsName n) (hne : ns ≠ []) : join p (Text.join "/" ns) = below p ns := by
  induction ns generalizing p with
  | nil => exact absurd rfl hne
  | cons n ns ih =>
    obtain ⟨hn, hns⟩ := List.forall_mem_cons.1 h
    cases ns with
    | nil => rfl
    | cons m ns =>
      have hjoin : Text.join "/" (n :: m :: ns) = n ++ "/" ++ Text.join "/" (m :: ns) := rfl
      have hbehind := ih (join_ne_empty hp hn) hns (List.cons_ne_nil m ns)
      have hrelative (ks : List String) (hks : ∀ k ∈ ks, IsName k) (hne : ks ≠ []) :
          isAbsolute (Text.join "/" ks) = false := by
        simpa [ofNames] using isAbsolute_ofNames false hks hne
      have hempty {q : String} (hq : q ≠ "") : q.isEmpty = false := by simpa using hq
      rw [below_cons, ← hbehind, join, hrelative _ h (List.cons_ne_nil _ _), join, hrelative _ hns (List.cons_ne_nil _ _),
        endsWithSlash_join hp hn, hempty hp, hempty (join_ne_empty hp hn), join_eq hp hn, hjoin]
      simp only [Bool.or_self, Bool.false_eq_true, if_false]
      split <;> simp only [String.append_assoc]

/-- Names with slashes between them tell the names. -/
theorem eq_of_join_eq {ms : List String} (hns : ∀ n ∈ ns, IsName n) (hms : ∀ n ∈ ms, IsName n)
    (h : Text.join "/" ns = Text.join "/" ms) : ns = ms := by
  have hnames : names (ofNames false ns) = names (ofNames false ms) := by rw [ofNames, ofNames, h]
  rwa [names_ofNames false hns, names_ofNames false hms] at hnames

end

end Path

namespace FileTree

variable {t t' : FileTree}

theorem below?_eq_some_iff {base l : Location} {ns : List String} :
    below? base l = some ns ↔ ns ≠ [] ∧ l = base ++ ns := by
  unfold below?
  constructor
  · intro h
    split at h
    · next hcond =>
      obtain ⟨hfront, hlength⟩ : base <+: l ∧ base.length < l.length := by simpa using hcond
      obtain ⟨rest, rfl⟩ := hfront
      obtain rfl : rest = ns := by simpa using h
      refine ⟨?_, rfl⟩
      rintro rfl
      simp at hlength
    · cases h
  · rintro ⟨hne, rfl⟩
    have hlength : 0 < ns.length := List.length_pos_iff.2 hne
    simp [hlength]

theorem pathFault?_eq_none_iff {p : String} :
    pathFault? p = none ↔ '\x00' ∉ p.toList ∧ p ≠ "" ∧ p.utf8ByteSize < 4096 := by
  unfold pathFault?
  split
  · simp_all
  · split
    · simp_all
    · split
      · simp_all
      · simp_all

/-! ## Sound trees -/

/-- The entries are those of a file system: one at a place, under a name that the system allows, in a directory. -/
structure Sound (t : FileTree) : Prop where
  once : (t.entries.map Prod.fst).Nodup
  named : ∀ x ∈ t.entries, x.1 ≠ [] ∧ ∀ n ∈ x.1, Path.IsEntryName n
  parent : ∀ x ∈ t.entries, t.get? x.1.dropLast = some .directory

instance (t : FileTree) : Decidable t.Sound :=
  decidable_of_iff ((t.entries.map Prod.fst).Nodup ∧
      (∀ x ∈ t.entries, x.1 ≠ [] ∧ ∀ n ∈ x.1, Path.IsEntryName n) ∧
      ∀ x ∈ t.entries, t.get? x.1.dropLast = some .directory)
    ⟨fun ⟨h₁, h₂, h₃⟩ => ⟨h₁, h₂, h₃⟩, fun ⟨h₁, h₂, h₃⟩ => ⟨h₁, h₂, h₃⟩⟩

section
variable {l place : Location} {n : String} {e : Entry}

theorem Sound.get?_eq_some_iff (h : t.Sound) (hl : l ≠ []) : t.get? l = some e ↔ (l, e) ∈ t.entries := by
  rw [get?, if_neg hl]
  constructor
  · intro hlookup
    obtain ⟨before, after, hentries, -⟩ := List.lookup_eq_some_iff.1 hlookup
    simp [hentries]
  · exact lookup_of_mem h.once

theorem Sound.isEntryName (h : t.Sound) (he : t.get? l = some e) : ∀ n ∈ l, Path.IsEntryName n := by
  intro n hn
  have hl : l ≠ [] := List.ne_nil_of_mem hn
  exact (h.named _ ((h.get?_eq_some_iff hl).1 he)).2 n hn

theorem Sound.get?_parent (h : t.Sound) (he : t.get? (place ++ [n]) = some e) : t.get? place = some .directory := by
  have hparent := h.parent _ ((h.get?_eq_some_iff (by simp)).1 he)
  rwa [List.dropLast_concat] at hparent

theorem Sound.mem_namesIn (h : t.Sound) : n ∈ t.namesIn place ↔ ∃ e, t.get? (place ++ [n]) = some e := by
  have hbelow (l : Location) : below? place l = some [n] ↔ l = place ++ [n] := by simp [below?_eq_some_iff]
  rw [namesIn, List.mem_filterMap]
  constructor
  · rintro ⟨⟨l, e⟩, hmem, hname⟩
    dsimp only at hname
    split at hname
    · next name hl =>
      obtain rfl := Option.some.inj hname
      obtain rfl := (hbelow l).1 hl
      exact ⟨e, (h.get?_eq_some_iff (by simp)).2 hmem⟩
    · cases hname
  · rintro ⟨e, he⟩
    refine ⟨(place ++ [n], e), (h.get?_eq_some_iff (by simp)).1 he, ?_⟩
    dsimp only
    rw [(hbelow _).2 rfl]

theorem Sound.isEntryName_of_mem (h : t.Sound) (hn : n ∈ t.namesIn place) : Path.IsEntryName n := by
  obtain ⟨e, he⟩ := h.mem_namesIn.1 hn
  exact h.isEntryName he n (by simp)

end

/-! ## Lookups name by name -/

section
variable {p n : String} {place l : Location} {e : Entry}

theorem reach_eq_ok_iff {steps : List String} {r : Reached} :
    t.reach p steps = .ok r ↔ pathFault? p = none ∧ t.follow linkLimit (t.origin p) steps = .ok r := by
  unfold reach
  split
  · next fault hfault => simp [hfault]
  · next hfault => simp [hfault]

theorem isFile_eq_true_iff : t.isFile p = true ↔ ∃ l content, t.find p = .ok (l, .file content) := by
  unfold isFile
  split
  · next l content hfind => simp [hfind]
  · next hno =>
    simp only [Bool.false_eq_true, false_iff, not_exists]
    exact hno

theorem pathFault?_of_find (h : t.find p = .ok (l, e)) : pathFault? p = none :=
  (reach_eq_ok_iff.1 (find_eq_ok_iff.1 h).1).1

/-- The text of a path is as good as that of a longer one. -/
theorem pathFault?_of_join (hp : p ≠ "") (hn : Path.IsName n) (h : pathFault? (Path.join p n) = none) :
    pathFault? p = none := by
  obtain ⟨hnul, -, hsize⟩ := pathFault?_eq_none_iff.1 h
  obtain ⟨rest, hrest⟩ := Path.prefix_join hp hn
  have hjoin : Path.join p n = p ++ String.ofList rest := String.toList_inj.1 (by simp [hrest])
  rw [hjoin, String.utf8ByteSize_append] at hsize
  rw [← hrest, List.mem_append, not_or] at hnul
  exact pathFault?_eq_none_iff.2 ⟨hnul.1, hp, by omega⟩

/-- Behind a path to a directory a lookup goes on from there. -/
theorem exists_follow (h : t.find p = .ok (place, .directory)) :
    ∃ links, ∀ rest, rest ≠ [] →
      t.follow linkLimit (t.origin p) (Path.names p ++ rest) = t.follow links place rest := by
  obtain ⟨hreach, hd⟩ := find_eq_ok_iff.1 h
  obtain ⟨links, hrest⟩ := follow_append (reach_eq_ok_iff.1 hreach).2 hd
  refine ⟨links, fun rest hne => ?_⟩
  rw [← hrest t (.refl t) rest, Path.steps]
  split
  · rw [List.append_assoc, List.singleton_append, follow_dot _ _ _ _ hne]
  · rfl

theorem follow_join (h : t.find p = .ok (place, .directory)) (hn : Path.IsName n)
    (hfault : pathFault? (Path.join p n) = none) :
    ∃ links, t.reach (Path.join p n) (Path.steps (Path.join p n)) = t.follow links place [n] := by
  have hp : p ≠ "" := (pathFault?_eq_none_iff.1 (pathFault?_of_find h)).2.1
  obtain ⟨links, hrest⟩ := exists_follow h
  have horigin : t.origin (Path.join p n) = t.origin p := by rw [origin, origin, Path.isAbsolute_join hp hn]
  refine ⟨links, ?_⟩
  rw [reach, hfault, Path.steps_join hp hn, horigin]
  exact hrest [n] (List.cons_ne_nil n [])

theorem follow_found (hn : Path.IsEntryName n) (he : t.get? (place ++ [n]) = some e) (hlink : ∀ target, e ≠ .link target)
    (links : Nat) : t.follow links place [n] = .ok (.entry (place ++ [n])) := by
  rw [follow_name _ _ _ _ hn.here hn.up (Nat.not_lt.2 hn.size), he]
  cases e with
  | directory => simp [follow]
  | link target => exact absurd rfl (hlink target)
  | file content => rfl
  | full => rfl

/-- A name alone leads to what stands in the working directory. -/
theorem find_name (hn : Path.IsEntryName n) (he : t.get? (t.home ++ [n]) = some e) (hlink : ∀ target, e ≠ .link target) :
    t.find n = .ok (t.home ++ [n], e) := by
  have hfault : pathFault? n = none :=
    pathFault?_eq_none_iff.2 ⟨hn.nul, hn.isName.1, Nat.lt_of_le_of_lt hn.size (by decide)⟩
  have hsteps : Path.steps n = [n] := by
    obtain ⟨c, hc, hslash⟩ := Path.toList_getLast? hn.isName
    rw [Path.steps, Path.names_of_isName hn.isName]
    exact if_neg (by simpa [Path.endsWithSlash, hc] using hslash)
  refine find_eq_ok_iff.2 ⟨reach_eq_ok_iff.2 ⟨hfault, ?_⟩, he⟩
  rw [hsteps, origin, Path.not_isAbsolute hn.isName, if_neg Bool.false_ne_true]
  exact follow_found hn he hlink linkLimit

/-- A name in a directory leads to what stands there, unless that is a link. -/
theorem find_join (h : t.find p = .ok (place, .directory)) (hn : Path.IsEntryName n)
    (hfault : pathFault? (Path.join p n) = none) (he : t.get? (place ++ [n]) = some e)
    (hlink : ∀ target, e ≠ .link target) : t.find (Path.join p n) = .ok (place ++ [n], e) := by
  obtain ⟨links, hreach⟩ := follow_join h hn.isName hfault
  exact find_eq_ok_iff.2 ⟨hreach.trans (follow_found hn he hlink links), he⟩

/-- Whatever a path with a name at its end leads to, it passes through a directory in which the name is. -/
theorem Sound.find_of_join (hsound : t.Sound) (hp : p ≠ "") (hn : Path.IsEntryName n)
    (h : t.find (Path.join p n) = .ok (l, e)) :
    ∃ place found, t.find p = .ok (place, .directory) ∧ t.get? (place ++ [n]) = some found := by
  obtain ⟨hreach, -⟩ := find_eq_ok_iff.1 h
  obtain ⟨hfault, hfollow⟩ := reach_eq_ok_iff.1 hreach
  have horigin : t.origin (Path.join p n) = t.origin p := by rw [origin, origin, Path.isAbsolute_join hp hn.isName]
  rw [Path.steps_join hp hn.isName, horigin] at hfollow
  obtain ⟨links, d, hd, hlast⟩ := follow_concat hfollow
  have hfound : ∃ found, t.get? (d ++ [n]) = some found := by
    rw [hlast, follow_name _ _ _ _ hn.here hn.up (Nat.not_lt.2 hn.size)] at hfollow
    cases hget : t.get? (d ++ [n]) with
    | none => simp [hget] at hfollow
    | some found => exact ⟨found, rfl⟩
  obtain ⟨found, hfound⟩ := hfound
  have hdirectory := hsound.get?_parent hfound
  refine ⟨d, found, find_eq_ok_iff.2 ⟨?_, hdirectory⟩, hfound⟩
  refine reach_eq_ok_iff.2 ⟨pathFault?_of_join hp hn.isName hfault, ?_⟩
  rw [Path.steps]
  split
  · obtain ⟨links', hrest⟩ := follow_append hd hdirectory
    rw [hrest t (.refl t), follow, if_pos rfl, follow]
  · exact hd

/-- The names of entries are never what is wrong with a path, but there may be too many of them. -/
theorem pathFault?_below (hp : pathFault? p = none) {ns : List String} (hns : ∀ m ∈ ns, Path.IsEntryName m) :
    pathFault? (Path.below p ns) = if 4096 ≤ (Path.below p ns).utf8ByteSize then some .nameTooLong else none := by
  obtain ⟨hnul, hne, -⟩ := pathFault?_eq_none_iff.1 hp
  have hbelow : Path.below p ns ≠ "" := Path.below_ne_empty hne fun m hm => (hns m hm).isName
  have hchars : '\x00' ∉ (Path.below p ns).toList := by
    induction ns using List.reverseRecOn with
    | nil => exact hnul
    | append_singleton ns m ih =>
      have hms : ∀ k ∈ ns, Path.IsEntryName k := fun k hk => hns k (by simp [hk])
      have hm : Path.IsEntryName m := hns m (by simp)
      have hms' : Path.below p ns ≠ "" := Path.below_ne_empty hne fun k hk => (hms k hk).isName
      have hfront := ih hms hms'
      rw [Path.below_concat, Path.join_eq hms' hm.isName]
      split <;> simp [hfront, hm.nul]
  unfold pathFault?
  simp [hchars, hbelow]

/-- What stands below a directory is found there, unless it is a link. -/
theorem Sound.find_below (h : t.Sound) (hp : t.find p = .ok (place, .directory)) {ns : List String}
    (hget : t.get? (place ++ ns) = some e) (hlink : ∀ target, e ≠ .link target)
    (hfault : pathFault? (Path.below p ns) = none) : t.find (Path.below p ns) = .ok (place ++ ns, e) := by
  have hne : p ≠ "" := (pathFault?_eq_none_iff.1 (pathFault?_of_find hp)).2.1
  induction ns using List.reverseRecOn generalizing e with
  | nil =>
    rw [List.append_nil] at hget ⊢
    have hdirectory := (find_eq_ok_iff.1 hp).2
    obtain rfl : Entry.directory = e := Option.some.inj (hdirectory.symm.trans hget)
    exact hp
  | append_singleton ns n ih =>
    have hnames : ∀ m ∈ ns ++ [n], Path.IsEntryName m := fun m hm => h.isEntryName hget m (List.mem_append_right _ hm)
    have hn : Path.IsEntryName n := hnames n (by simp)
    have hbelow : Path.below p ns ≠ "" := Path.below_ne_empty hne fun m hm => (hnames m (by simp [hm])).isName
    rw [← List.append_assoc] at hget ⊢
    rw [Path.below_concat] at hfault ⊢
    have hbefore := ih (h.get?_parent hget) (by simp) (pathFault?_of_join hbelow hn.isName hfault)
    exact find_join hbefore hn hfault hget hlink

/-- A directory is found with a slash behind its path, too. -/
theorem find_slash (hp : t.find p = .ok (place, .directory)) (hfault : pathFault? (p ++ "/") = none) :
    t.find (p ++ "/") = .ok (place, .directory) := by
  obtain ⟨hreach, hdirectory⟩ := find_eq_ok_iff.1 hp
  have hne : p ≠ "" := (pathFault?_eq_none_iff.1 (reach_eq_ok_iff.1 hreach).1).2.1
  have hlist : p.toList ≠ [] := by simpa using hne
  obtain ⟨c, cs, hc⟩ := List.exists_cons_of_ne_nil hlist
  have horigin : t.origin (p ++ "/") = t.origin p := by simp [origin, Path.isAbsolute, hc]
  have hsteps : Path.steps (p ++ "/") = Path.names p ++ ["."] := by
    rw [Path.steps, Path.names_slash, if_pos (by simp [Path.endsWithSlash])]
  obtain ⟨links, hrest⟩ := exists_follow hp
  refine find_eq_ok_iff.2 ⟨reach_eq_ok_iff.2 ⟨hfault, ?_⟩, hdirectory⟩
  rw [hsteps, horigin, hrest _ (List.cons_ne_nil _ _), follow, if_pos rfl, follow]

end

/-! ## Other lists of the same files -/

/-- `t'` has the files of `t`, listed in whatever order. -/
structure Relisted (t t' : FileTree) : Prop where
  home : t'.home = t.home
  get? : ∀ l, t'.get? l = t.get? l

theorem Relisted.follow (h : Relisted t t') (links : Nat) (place : Location) (names : List String) :
    t'.follow links place names = t.follow links place names := by
  induction links, place, names using FileTree.follow.induct t with
  | case1 links place => rw [FileTree.follow, FileTree.follow]
  | case2 links place rest ih => rw [FileTree.follow, if_pos rfl, FileTree.follow, if_pos rfl, ih]
  | case3 links place rest hne ih =>
    rw [FileTree.follow, if_neg hne, if_pos rfl, FileTree.follow, if_neg hne, if_pos rfl, ih]
  | case4 links place n rest hdot hup hsize =>
    rw [FileTree.follow, if_neg hdot, if_neg hup, if_pos hsize, FileTree.follow, if_neg hdot, if_neg hup, if_pos hsize]
  | case7 links place n rest hdot hup hsize hget ih =>
    rw [follow_name _ _ _ _ hdot hup hsize, follow_name _ _ _ _ hdot hup hsize, h.get?]
    simp only [hget, ih]
  | case10 place n rest hdot hup hsize target hget links hempty ih =>
    rw [follow_name _ _ _ _ hdot hup hsize, follow_name _ _ _ _ hdot hup hsize, h.get?]
    simp only [hget, if_neg hempty]
    exact ih
  | case5 links place n rest hdot hup hsize hget hrest
  | case6 links place n rest hdot hup hsize hget hrest
  | case8 place n rest hdot hup hsize target hget
  | case9 place n rest hdot hup hsize target hget links hempty =>
    rw [follow_name _ _ _ _ hdot hup hsize, follow_name _ _ _ _ hdot hup hsize, h.get?]
    simp_all
  | case11 links place n rest hdot hup hsize e hdir hlink hget hrest
  | case12 links place n rest hdot hup hsize e hdir hlink hget hrest =>
    rw [follow_name _ _ _ _ hdot hup hsize, follow_name _ _ _ _ hdot hup hsize, h.get?]
    cases e <;> simp_all

theorem Relisted.find (h : Relisted t t') : t'.find = t.find := by
  funext p
  have horigin : t'.origin p = t.origin p := by rw [origin, origin, h.home]
  have hreach : t'.reach p (Path.steps p) = t.reach p (Path.steps p) := by
    simp only [reach, h.follow, horigin]
  unfold FileTree.find
  rw [hreach]
  split
  · rfl
  · rfl
  · rw [h.get?]

theorem Relisted.isDirectory (h : Relisted t t') : t'.isDirectory = t.isDirectory := by
  funext p
  rw [FileTree.isDirectory, FileTree.isDirectory, h.find]

theorem Relisted.isFile (h : Relisted t t') : t'.isFile = t.isFile := by
  funext p
  rw [FileTree.isFile, FileTree.isFile, h.find]

theorem Relisted.symm (h : Relisted t t') : Relisted t' t := ⟨h.home.symm, fun l => (h.get? l).symm⟩

theorem Sound.relisted {entries : List (Location × Entry)} (h : t.Sound) (hperm : entries.Perm t.entries) :
    Relisted t { t with entries } := by
  refine ⟨rfl, fun l => ?_⟩
  by_cases hl : l = []
  · simp [FileTree.get?, hl]
  rw [FileTree.get?, FileTree.get?, if_neg hl, if_neg hl]
  have honce : (entries.map Prod.fst).Nodup := (hperm.map Prod.fst).nodup_iff.2 h.once
  cases hlookup : t.entries.lookup l with
  | none =>
    rw [List.lookup_eq_none_iff] at hlookup ⊢
    exact fun x hx => hlookup x (hperm.mem_iff.1 hx)
  | some e =>
    have hget : t.get? l = some e := by rw [FileTree.get?, if_neg hl, hlookup]
    exact lookup_of_mem honce (hperm.mem_iff.2 ((h.get?_eq_some_iff hl).1 hget))

theorem Sound.of_perm {entries : List (Location × Entry)} (h : t.Sound) (hperm : entries.Perm t.entries) :
    Sound { t with entries } where
  once := (hperm.map Prod.fst).nodup_iff.2 h.once
  named x hx := h.named x (hperm.mem_iff.1 hx)
  parent x hx := ((h.relisted hperm).get? _).trans (h.parent x (hperm.mem_iff.1 hx))

end FileTree

end CallGraph
