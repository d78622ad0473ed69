import CallGraph.Proofs.ChunkPaths
import CallGraph.Proofs.Text
import Mathlib.Data.List.Induction
/-!
# The directories on the way to a path

Some of the directories on a way may be made one by one: `MadeAlong`. They are found there afterwards, `MadeAlong.above`, also
once other entries have come, and none is made where the way is there already, `MadeAlong.eq_of_follow`.
-/

namespace CallGraph

/-! ## Names -/

namespace Path

/-- What can stand between two slashes. -/
def IsName (n : String) : Prop := n ≠ "" ∧ '/' ∉ n.toList

theorem notMem_of_mem_splitOn {xs ys : List Char} (h : ys ∈ xs.splitOn '/') : '/' ∉ ys := by
  induction xs generalizing ys with
  | nil =>
    obtain rfl : ys = [] := by simpa using h
    exact List.not_mem_nil
  | cons x xs ih =>
    rw [List.splitOn_cons_eq_if_modifyHead] at h
    split at h
    · rcases List.mem_cons.1 h with rfl | h
      · exact List.not_mem_nil
      · exact ih h
    · next hx =>
      cases hsplit : xs.splitOn '/' with
      | nil => simp [hsplit] at h
      | cons first others =>
        rw [hsplit, List.modifyHead_cons] at h
        rcases List.mem_cons.1 h with rfl | h
        · intro hmem
          rcases List.mem_cons.1 hmem with rfl | hmem
          · exact hx (by simp)
          · exact ih (by simp [hsplit]) hmem
        · exact ih (by simp [hsplit, h])

theorem isName_of_mem_names {p n : String} (h : n ∈ names p) : IsName n := by
  obtain ⟨piece, hpiece, rfl⟩ := List.mem_map.1 h
  obtain ⟨hmem, hne⟩ := List.mem_filter.1 hpiece
  refine ⟨fun hnil => ?_, by simpa using notMem_of_mem_splitOn hmem⟩
  obtain rfl : piece = [] := by simpa using hnil
  simp at hne

theorem isName_of_mem_parts {p n : String} (h : n ∈ parts p) : IsName n := by
  apply isName_of_mem_names (p := p)
  unfold parts at h
  split at h
  · simp at h
  · next first rest hnames =>
    rw [hnames]
    rcases List.mem_append.1 h with h | h
    · split at h
      · simp at h
      · simp_all
    · exact List.mem_cons_of_mem _ (List.mem_filter.1 h).1

theorem isName_of_mem_parent? {p : String} {ns : List String} (h : parent? p = some ns) : ∀ n ∈ ns, IsName n := by
  intro n hn
  unfold parent? at h
  split at h
  · simp at h
  · obtain rfl := Option.some.inj h
    exact isName_of_mem_parts (List.dropLast_subset _ hn)

section
variable {ns : List String}

theorem toList_ofNames (absolute : Bool) (ns : List String) :
    (ofNames absolute ns).toList = (if absolute then ['/'] else []) ++ ['/'].intercalate (ns.map String.toList) := by
  cases absolute <;> simp [ofNames, Text.toList_join]

theorem splitOn_ofNames (absolute : Bool) (h : ∀ n ∈ ns, IsName n) (hne : ns ≠ []) :
    (ofNames absolute ns).toList.splitOn '/' = (if absolute then [[]] else []) ++ ns.map String.toList := by
  have hjoin : (['/'].intercalate (ns.map String.toList)).splitOn '/' = ns.map String.toList := by
    refine List.splitOn_intercalate '/' (fun l hl => ?_) (by simpa using hne)
    obtain ⟨n, hn, rfl⟩ := List.mem_map.1 hl
    exact (h n hn).2
  rw [toList_ofNames]
  cases absolute with
  | false => exact hjoin
  | true =>
    rw [if_pos rfl, if_pos rfl, List.singleton_append, List.splitOn_cons_eq_if_modifyHead, if_pos (by simp), hjoin]
    rfl

/-- The names of a path that was put together from names. -/
theorem names_ofNames (absolute : Bool) (h : ∀ n ∈ ns, IsName n) : names (ofNames absolute ns) = ns := by
  by_cases hne : ns = []
  · subst hne
    cases absolute <;> decide
  have hkeep : (ns.map String.toList).filter (!·.isEmpty) = ns.map String.toList := by
    rw [List.filter_eq_self]
    intro l hl
    obtain ⟨n, hn, rfl⟩ := List.mem_map.1 hl
    simpa using (h n hn).1
  have hid : (ns.map String.toList).map String.ofList = ns := by
    rw [List.map_map]
    conv_rhs => rw [← List.map_id ns]
    exact List.map_congr_left fun n _ => String.ofList_toList
  have hroot : (if absolute then [[]] else []).filter (fun l : List Char => !l.isEmpty) = [] := by
    cases absolute <;> rfl
  rw [names, splitOn_ofNames absolute h hne, List.filter_append, hkeep, hroot, List.nil_append, hid]

theorem isAbsolute_ofNames (absolute : Bool) (h : ∀ n ∈ ns, IsName n) (hne : ns ≠ []) :
    isAbsolute (ofNames absolute ns) = absolute := by
  cases absolute with
  | true => simp [isAbsolute, toList_ofNames]
  | false =>
    obtain ⟨n, ns, rfl⟩ := List.exists_cons_of_ne_nil hne
    have hn := h n List.mem_cons_self
    have hlist : n.toList ≠ [] := by simpa using hn.1
    obtain ⟨c, cs, hc⟩ := List.exists_cons_of_ne_nil hlist
    have hslash : c ≠ '/' := by
      rintro rfl
      exact hn.2 (by simp [hc])
    cases ns with
    | nil => simpa [isAbsolute, toList_ofNames, List.intercalate, hc] using hslash
    | cons m ns => simpa [isAbsolute, toList_ofNames, List.intercalate, hc] using hslash

theorem endsWithSlash_ofNames (absolute : Bool) (h : ∀ n ∈ ns, IsName n) (hne : ns ≠ []) :
    endsWithSlash (ofNames absolute ns) = false := by
  have hlast : ∃ c, (['/'].intercalate (ns.map String.toList)).getLast? = some c ∧ c ≠ '/' := by
    induction ns with
    | nil => exact absurd rfl hne
    | cons n ns ih =>
      cases ns with
      | nil =>
        have hn := h n List.mem_cons_self
        have hlist : n.toList ≠ [] := by simpa using hn.1
        have hc := List.getLast?_eq_some_getLast hlist
        generalize n.toList.getLast hlist = c at hc
        refine ⟨c, by simpa [List.intercalate] using hc, ?_⟩
        rintro rfl
        exact hn.2 (List.mem_of_getLast? hc)
      | cons m ns =>
        obtain ⟨c, hc, hslash⟩ := ih (fun n' hn' => h n' (List.mem_cons_of_mem _ hn')) (by simp)
        refine ⟨c, ?_, hslash⟩
        have hsplit : ['/'].intercalate ((n :: m :: ns).map String.toList) =
            n.toList ++ ['/'] ++ ['/'].intercalate ((m :: ns).map String.toList) := by
          simp [List.intercalate]
        rw [hsplit, List.getLast?_append, hc]
        rfl
  obtain ⟨c, hc, hslash⟩ := hlast
  rw [endsWithSlash, toList_ofNames, List.getLast?_append, hc]
  simpa using hslash

end

end Path

namespace FileTree

variable {t t' : FileTree}

/-! ## Lookups in directories that stay -/

/-- The directories and links of `t` are those of `t'` too. -/
structure Keeps (t t' : FileTree) : Prop where
  home : t'.home = t.home
  directory : ∀ l, t.get? l = some .directory → t'.get? l = some .directory
  link : ∀ l target, t.get? l = some (.link target) → t'.get? l = some (.link target)

theorem Keeps.refl (t : FileTree) : Keeps t t := ⟨rfl, fun _ h => h, fun _ _ h => h⟩

theorem Furnished.keeps (h : Furnished t t') : Keeps t t' where
  home := h.home
  directory l hl := by
    rcases h.there l with hs | ⟨hnone, -⟩
    · rw [hs, hl]
    · simp [hl] at hnone
  link l target hl := by
    rcases h.there l with hs | ⟨hnone, -⟩
    · rw [hs, hl]
    · simp [hl] at hnone

theorem Wrote.keeps {places : Location → Prop} (h : Wrote places t t') : Keeps t t' :=
  ⟨h.home, fun _ hl => h.get?_eq hl (by simp), fun _ _ hl => h.get?_eq hl (by simp)⟩

/-- Behind names that lead to a directory a lookup goes on from there, in every tree that has the directories and links. -/
theorem follow_append {links : Nat} {place d : Location} {names : List String}
    (h : t.follow links place names = .ok (.entry d)) (hd : t.get? d = some .directory) :
    ∃ links', ∀ t', Keeps t t' → ∀ rest, t'.follow links place (names ++ rest) = t'.follow links' d rest := by
  induction links, place, names using follow.induct t with
  | case1 links place =>
    rw [follow] at h
    obtain rfl : place = d := by simpa using h
    exact ⟨links, fun t' _ rest => rfl⟩
  | case2 links place rest ih =>
    rw [follow, if_pos rfl] at h
    obtain ⟨links', hrest⟩ := ih h
    exact ⟨links', fun t' ht' rest' => by rw [List.cons_append, follow, if_pos rfl, hrest t' ht']⟩
  | case3 links place rest hne ih =>
    rw [follow, if_neg hne, if_pos rfl] at h
    obtain ⟨links', hrest⟩ := ih h
    exact ⟨links', fun t' ht' rest' => by rw [List.cons_append, follow, if_neg hne, if_pos rfl, hrest t' ht']⟩
  | case4 links place n rest hdot hup hsize =>
    rw [follow, if_neg hdot, if_neg hup, if_pos hsize] at h
    simp at h
  | case7 links place n rest hdot hup hsize hget ih =>
    rw [follow_name _ _ _ _ hdot hup hsize] at h
    simp only [hget] at h
    obtain ⟨links', hrest⟩ := ih h
    refine ⟨links', fun t' ht' rest' => ?_⟩
    rw [List.cons_append, follow_name _ _ _ _ hdot hup hsize]
    simp only [ht'.directory _ hget, hrest t' ht']
  | case10 place n rest hdot hup hsize target hget links hempty ih =>
    rw [follow_name _ _ _ _ hdot hup hsize] at h
    simp only [hget, hempty] at h
    obtain ⟨links', hrest⟩ := ih h
    refine ⟨links', fun t' ht' rest' => ?_⟩
    rw [List.cons_append, follow_name _ _ _ _ hdot hup hsize]
    simp only [ht'.link _ _ hget, hempty, ← List.append_assoc]
    exact hrest t' ht' rest'
  | case5 links place n rest hdot hup hsize hget hrest
  | case6 links place n rest hdot hup hsize hget hrest
  | case8 place n rest hdot hup hsize target hget
  | case9 place n rest hdot hup hsize target hget links hempty =>
    rw [follow_name _ _ _ _ hdot hup hsize] at h
    simp_all
  | case11 links place n rest hdot hup hsize e hdir hlink hget hrest
  | case12 links place n rest hdot hup hsize e hdir hlink hget hrest =>
    -- What stands there is no directory.
    rw [follow_name _ _ _ _ hdot hup hsize] at h
    cases e <;> simp_all

theorem find_eq_ok_iff {p : String} {l : Location} {e : Entry} :
    t.find p = .ok (l, e) ↔ t.reach p (Path.steps p) = .ok (.entry l) ∧ t.get? l = some e := by
  unfold find
  cases hr : t.reach p (Path.steps p) with
  | error fault => simp
  | ok r =>
    cases r with
    | free l' => simp
    | entry l' =>
      simp only [Except.ok.injEq, Reached.entry.injEq]
      split
      · next e' hget =>
        simp only [Except.ok.injEq, Prod.mk.injEq]
        constructor
        · rintro ⟨rfl, rfl⟩
          exact ⟨rfl, hget⟩
        · rintro ⟨rfl, hl⟩
          exact ⟨rfl, Option.some.inj (hget.symm.trans hl)⟩
      · next hget =>
        simp only [reduceCtorEq, false_iff]
        rintro ⟨rfl, hl⟩
        simp [hget] at hl

theorem Keeps.reach (h : Keeps t t') {p : String} {names : List String} {d : Location}
    (hr : t.reach p names = .ok (.entry d)) (hd : t.get? d = some .directory) :
    t'.reach p names = .ok (.entry d) := by
  have horigin : t'.origin p = t.origin p := by rw [origin, origin, h.home]
  unfold FileTree.reach at hr ⊢
  split at hr
  · simp at hr
  · next hfault =>
    obtain ⟨links, hrest⟩ := follow_append hr hd
    have hlookup := hrest t' h []
    rwa [List.append_nil, follow, ← horigin] at hlookup

/-- A directory is found where it was found. -/
theorem Keeps.find {p : String} {l : Location} (h : Keeps t t') (hl : t.find p = .ok (l, .directory)) :
    t'.find p = .ok (l, .directory) := by
  obtain ⟨hreach, hget⟩ := find_eq_ok_iff.1 hl
  exact find_eq_ok_iff.2 ⟨h.reach hreach hget, h.directory l hget⟩

/-! ## Making directories along a way -/

/-- `t'` is `t` once some of the directories on the way with these names were made. -/
inductive MadeAlong (absolute : Bool) (names : List String) : FileTree → FileTree → Prop
  | refl (t : FileTree) : MadeAlong absolute names t t
  | step {t t₁ t₂ : FileTree} {ns : List String} (hns : ns <+: names) (h : MadeAlong absolute names t t₁)
      (hmake : t₁.makeDirectory (Path.ofNames absolute ns) = .ok t₂) : MadeAlong absolute names t t₂

section
variable {absolute : Bool} {names : List String}

theorem MadeAlong.trans {t'' : FileTree} (h : MadeAlong absolute names t t') (h' : MadeAlong absolute names t' t'') :
    MadeAlong absolute names t t'' := by
  induction h' with
  | refl => exact h
  | step hns _ hmake ih => exact ih.step hns hmake

theorem MadeAlong.mono {names' : List String} (h : MadeAlong absolute names t t') (hle : names <+: names') :
    MadeAlong absolute names' t t' := by
  induction h with
  | refl => exact .refl _
  | step hns _ hmake ih => exact ih.step (hns.trans hle) hmake

theorem MadeAlong.furnished (h : MadeAlong absolute names t t') : Furnished t t' := by
  induction h with
  | refl => exact .refl _
  | step _ _ hmake ih => exact ih.trans (makeDirectory_furnished hmake)

/-- A directory that is made is found by the path that it was made at. -/
theorem makeDirectory_find {p : String} (hslash : Path.endsWithSlash p = false) (h : t.makeDirectory p = .ok t') :
    ∃ l, t.get? l = none ∧ t' = t.put l .directory ∧ t'.find p = .ok (l, .directory) := by
  have hkeeps := (makeDirectory_furnished h).keeps
  obtain ⟨l, hv, rfl⟩ := makeDirectory_eq_ok h
  obtain ⟨before, last, d, hnames, hreach, hd, hdot, hup, hsize, hfree, rfl⟩ := vacancy_eq_ok hv
  have hget := t.get?_put_self (l := d ++ [last]) .directory (by simp)
  refine ⟨d ++ [last], hfree, rfl, find_eq_ok_iff.2 ⟨?_, hget⟩⟩
  have hsteps : Path.steps p = before ++ [last] := by simp [Path.steps, hslash, hnames]
  rw [hsteps]
  unfold FileTree.reach at hreach ⊢
  split at hreach
  · simp at hreach
  · obtain ⟨links, hrest⟩ := follow_append hreach hd
    have horigin : (t.put (d ++ [last]) .directory).origin p = t.origin p := rfl
    rw [horigin, hrest _ hkeeps, follow_name _ _ _ _ hdot hup hsize]
    simp [hget, follow]

theorem not_makeDirectory_root (t t' : FileTree) (absolute : Bool) :
    t.makeDirectory (Path.ofNames absolute []) ≠ .ok t' := by
  intro h
  obtain ⟨l, hv, -⟩ := makeDirectory_eq_ok h
  obtain ⟨before, last, d, hnames, -⟩ := vacancy_eq_ok hv
  rw [Path.names_ofNames absolute (by simp)] at hnames
  simp at hnames

/-- Whatever is new is a directory on the way. -/
theorem MadeAlong.above (h : MadeAlong absolute names t t') (hnames : ∀ n ∈ names, Path.IsName n) (l : Location) :
    t'.get? l = t.get? l ∨
      t.get? l = none ∧ ∃ ns, ns <+: names ∧ t'.find (Path.ofNames absolute ns) = .ok (l, .directory) := by
  induction h with
  | refl => exact .inl rfl
  | @step t₁ t₂ ns hns h hmake ih =>
    have hisName : ∀ n ∈ ns, Path.IsName n := fun n hn => hnames n (hns.subset hn)
    have hne : ns ≠ [] := by
      rintro rfl
      exact not_makeDirectory_root _ _ _ hmake
    have hkeeps := (makeDirectory_furnished hmake).keeps
    obtain ⟨l', hfree, rfl, hfind⟩ := makeDirectory_find (Path.endsWithSlash_ofNames absolute hisName hne) hmake
    by_cases hl : l = l'
    · subst hl
      rcases h.furnished.there l with hs | ⟨hnone, -⟩
      · exact .inr ⟨hs ▸ hfree, ns, hns, hfind⟩
      · exact .inr ⟨hnone, ns, hns, hfind⟩
    · rw [t₁.get?_put_of_ne _ hl]
      rcases ih with hs | ⟨hnone, ns', hns', hfind'⟩
      · exact .inl hs
      · exact .inr ⟨hnone, ns', hns', hkeeps.find hfind'⟩

/-! ## Where the way is there -/

theorem follow_prefix {links : Nat} {place d : Location} {rest : List String}
    (h : t.follow links place (names ++ rest) = .ok (.entry d)) : ∃ d', t.follow links place names = .ok (.entry d') := by
  induction rest using List.reverseRecOn generalizing d with
  | nil => exact ⟨d, by rwa [List.append_nil] at h⟩
  | append_singleton rest last ih =>
    rw [← List.append_assoc] at h
    obtain ⟨-, d', hd, -⟩ := follow_concat h
    exact ih hd

/-- Nothing is made on a way that is there already. -/
theorem MadeAlong.eq_of_follow {p : String} {d : Location} (h : MadeAlong (Path.isAbsolute p) names t t')
    (hnames : ∀ n ∈ names, Path.IsName n) (hway : t.follow linkLimit (t.origin p) names = .ok (.entry d)) : t' = t := by
  induction h with
  | refl => rfl
  | @step t₁ t₂ ns hns h hmake ih =>
    obtain rfl := ih
    have hisName : ∀ n ∈ ns, Path.IsName n := fun n hn => hnames n (hns.subset hn)
    have hne : ns ≠ [] := by
      rintro rfl
      exact not_makeDirectory_root _ _ _ hmake
    have horigin : t₁.origin (Path.ofNames (Path.isAbsolute p) ns) = t₁.origin p := by
      rw [origin, origin, Path.isAbsolute_ofNames _ hisName hne]
    obtain ⟨l, hv, -⟩ := makeDirectory_eq_ok hmake
    obtain ⟨before, last, d', hlast, hreach, hd', hdot, hup, hsize, hfree, -⟩ := vacancy_eq_ok hv
    rw [Path.names_ofNames _ hisName] at hlast
    unfold FileTree.reach at hreach
    split at hreach
    · simp at hreach
    · -- The last name leads to an entry, and to a free place.
      rw [horigin] at hreach
      obtain ⟨links, hrest⟩ := follow_append hreach hd'
      obtain ⟨behind, rfl⟩ := hns
      obtain ⟨d'', hentry⟩ := follow_prefix hway
      rw [hlast, hrest _ (.refl _), follow_name _ _ _ _ hdot hup hsize] at hentry
      simp [hfree] at hentry

end

/-! ## The way to a chunk -/

/-- A step in place makes no difference before others. -/
theorem follow_dot (t : FileTree) (links : Nat) (place : Location) (names : List String) {rest : List String}
    (hrest : rest ≠ []) : t.follow links place (names ++ "." :: rest) = t.follow links place (names ++ rest) := by
  induction links, place, names using follow.induct t with
  | case1 links place => rw [List.nil_append, List.nil_append, follow, if_pos rfl]
  | case2 links place names ih => rw [List.cons_append, List.cons_append, follow, if_pos rfl, ih, follow, if_pos rfl]
  | case3 links place names hne ih =>
    rw [List.cons_append, List.cons_append, follow, if_neg hne, if_pos rfl, ih, follow, if_neg hne, if_pos rfl]
  | case4 links place n names hdot hup hsize =>
    rw [List.cons_append, List.cons_append, follow, if_neg hdot, if_neg hup, if_pos hsize, follow, if_neg hdot,
      if_neg hup, if_pos hsize]
  | case7 links place n names hdot hup hsize hget ih =>
    rw [List.cons_append, List.cons_append, follow_name _ _ _ _ hdot hup hsize, follow_name _ _ _ _ hdot hup hsize]
    simp only [hget, ih]
  | case10 place n names hdot hup hsize target hget links hempty ih =>
    rw [List.cons_append, List.cons_append, follow_name _ _ _ _ hdot hup hsize, follow_name _ _ _ _ hdot hup hsize]
    simp only [hget, hempty, ← List.append_assoc]
    exact ih
  | case5 links place n names hdot hup hsize hget hnames
  | case6 links place n names hdot hup hsize hget hnames
  | case8 place n names hdot hup hsize target hget
  | case9 place n names hdot hup hsize target hget links hempty =>
    rw [List.cons_append, List.cons_append, follow_name _ _ _ _ hdot hup hsize, follow_name _ _ _ _ hdot hup hsize]
    simp_all
  | case11 links place n names hdot hup hsize e hdir hlink hget hnames
  | case12 links place n names hdot hup hsize e hdir hlink hget hnames =>
    rw [List.cons_append, List.cons_append, follow_name _ _ _ _ hdot hup hsize, follow_name _ _ _ _ hdot hup hsize]
    cases e <;> simp_all

theorem follow_filter (t : FileTree) (links : Nat) (place : Location) (before names : List String) {rest : List String}
    (hrest : rest ≠ []) :
    t.follow links place (before ++ (names.filter (· ≠ ".") ++ rest)) = t.follow links place (before ++ (names ++ rest)) := by
  induction names generalizing before with
  | nil => rfl
  | cons n names ih =>
    by_cases hn : n = "."
    · subst hn
      have hmore : names ++ rest ≠ [] := by simp [hrest]
      rw [List.cons_append, follow_dot t links place before hmore, ← ih before]
      rfl
    · rw [List.filter_cons_of_pos (by simpa using hn)]
      simpa using ih (before ++ [n])

end FileTree

/-- Names without those that stay in place, but for the first one of a relative path. -/
def Path.settled (absolute : Bool) : List String → List String
  | [] => []
  | n :: rest => (if n = "." && absolute then [] else [n]) ++ rest.filter (· ≠ ".")

theorem Path.parts_eq_settled (p : String) : parts p = settled (isAbsolute p) (names p) := rfl

theorem FileTree.follow_settled (t : FileTree) (links : Nat) (place : Location) (absolute : Bool) (names : List String)
    {rest : List String} (hrest : rest ≠ []) :
    t.follow links place (Path.settled absolute names ++ rest) = t.follow links place (names ++ rest) := by
  cases names with
  | nil => rfl
  | cons n names =>
    rw [Path.settled]
    split
    · next h =>
      have hn : n = "." := by simpa using (Bool.and_eq_true_iff.1 h).1
      subst hn
      rw [List.cons_append, follow, if_pos rfl]
      exact t.follow_filter links place [] names hrest
    · rw [List.append_assoc]
      exact t.follow_filter links place [n] names hrest

/-- The names of the parent are, but for those that stay in place, the first names of the path. -/
theorem Path.exists_of_settled {absolute : Bool} {ns : List String} (h : settled absolute ns ≠ []) :
    ∃ before behind, ns = before ++ behind ∧ behind ≠ [] ∧ settled absolute before = (settled absolute ns).dropLast := by
  induction ns using List.reverseRecOn with
  | nil => exact absurd rfl h
  | append_singleton ns last ih =>
    cases ns with
    | nil =>
      refine ⟨[], [last], rfl, by simp, ?_⟩
      simp only [List.nil_append, settled]
      split <;> rfl
    | cons n ns =>
      have hconcat : settled absolute (n :: ns ++ [last]) =
          settled absolute (n :: ns) ++ [last].filter (· ≠ ".") := by
        simp [settled]
      by_cases hlast : last = "."
      · subst hlast
        have hsame : settled absolute (n :: ns ++ ["."]) = settled absolute (n :: ns) := by simpa using hconcat
        obtain ⟨before, behind, hns, -, hbefore⟩ := ih (hsame ▸ h)
        exact ⟨before, behind ++ ["."], by rw [hns, List.append_assoc], by simp, by rw [hbefore, hsame]⟩
      · refine ⟨n :: ns, [last], rfl, by simp, ?_⟩
        rw [hconcat, List.filter_cons_of_pos (by simpa using hlast), List.filter_nil, List.dropLast_concat]

theorem names_chunkPath_append {base : String} {before behind : List String} (h : Path.names base = before ++ behind)
    (hne : behind ≠ []) (k : Nat) :
    ∃ behind', behind' ≠ [] ∧ Path.names (chunkPath base k) = before ++ behind' := by
  obtain ⟨stretches, last, hsplit, -⟩ := exists_splitOn_append base.toList
  have hbase := hsplit [] (by simp)
  have hchunk := hsplit _ (slash_notMem_chunkSuffix k)
  rw [List.append_nil, List.append_nil] at hbase
  rw [Path.names, hbase, List.filter_append, List.map_append] at h
  rw [Path.names, chunkPath_eq, String.toList_append, hchunk, List.filter_append, List.map_append]
  generalize (stretches.filter (!·.isEmpty)).map String.ofList = dirs at h ⊢
  by_cases hlast : last = []
  · subst hlast
    have hdirs : dirs = before ++ behind := by simpa using h
    exact ⟨behind ++ _, by simp [hne], by rw [hdirs, List.append_assoc]⟩
  · -- The last name only grows.
    have hdirs : dirs = before ++ behind.dropLast := by
      have hdrop := congrArg List.dropLast h
      rwa [List.filter_cons_of_pos (by simpa using hlast), List.filter_nil, List.map_singleton, List.dropLast_concat,
        List.dropLast_append_of_ne_nil hne] at hdrop
    refine ⟨behind.dropLast ++ _, ?_, by rw [hdirs, List.append_assoc]⟩
    simp [hlast]

namespace FileTree

variable {t t' : FileTree}

/-- Where a chunk can be opened, the way to the parent is there. -/
theorem follow_parent {base : String} {names : List String} {k : Nat} {l : Location}
    (hparent : Path.parent? base = some names) (hl : t.writable (chunkPath base k) = .ok l) :
    ∃ d, t.follow linkLimit (t.origin base) names = .ok (.entry d) := by
  unfold Path.parent? at hparent
  split at hparent
  · simp at hparent
  · next hparts =>
    obtain rfl := Option.some.inj hparent
    rw [Path.parts_eq_settled] at hparts ⊢
    have hbase : base ≠ "" := by
      rintro rfl
      exact hparts (by decide)
    obtain ⟨before, behind, hnames, hne, hsettled⟩ := Path.exists_of_settled (by simpa using hparts)
    obtain ⟨behind', hne', hchunk⟩ := names_chunkPath_append hnames hne k
    obtain ⟨r, -, hr, -⟩ := follow_of_writable hl
    rw [origin_chunkPath t hbase, hchunk, ← t.follow_settled _ _ (Path.isAbsolute base) _ hne', hsettled,
      ← List.dropLast_concat_getLast hne', ← List.append_assoc] at hr
    obtain ⟨-, d, hd, -⟩ := follow_concat hr
    exact follow_prefix hd

/-- To make the parent changes nothing where some chunk can be opened. -/
theorem eq_of_writable {base : String} {names : List String} {k : Nat} {l : Location}
    (h : MadeAlong (Path.isAbsolute base) names t t') (hparent : Path.parent? base = some names)
    (hl : t.writable (chunkPath base k) = .ok l) : t' = t := by
  obtain ⟨d, hway⟩ := follow_parent hparent hl
  exact h.eq_of_follow (Path.isName_of_mem_parent? hparent) hway

/-- A directory on the way to what the path names. -/
def Above (t : FileTree) (p : String) (l : Location) : Prop :=
  ∃ ns, ns <+: (Path.parent? p).getD [] ∧ t.find (Path.ofNames (Path.isAbsolute p) ns) = .ok (l, .directory)

theorem Keeps.above {p : String} {l : Location} (h : Keeps t t') (hl : t.Above p l) : t'.Above p l := by
  obtain ⟨ns, hns, hfind⟩ := hl
  exact ⟨ns, hns, h.find hfind⟩

/-- Whatever is new is a directory on the way, if it was the way to the parent. -/
theorem MadeAlong.above_parent {p : String} (h : MadeAlong (Path.isAbsolute p) ((Path.parent? p).getD []) t t')
    (l : Location) : t'.get? l = t.get? l ∨ t.get? l = none ∧ t'.Above p l := by
  refine h.above (fun n hn => ?_) l
  cases hparent : Path.parent? p with
  | none => simp [hparent] at hn
  | some names => exact Path.isName_of_mem_parent? hparent n (by simpa [hparent] using hn)

end FileTree

end CallGraph
