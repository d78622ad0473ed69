import CallGraph.Files.Tree
/-!
# Writing files

What opening and filling a regular file does to the places of a tree, and that it does not change where paths lead:
`Wrote.writable`. A tree to which only regular files were written differs from the old one at their places only.
-/

namespace CallGraph.FileTree

variable {t t' : FileTree}

/-- A place is free, or a regular file stands there. -/
def Plain (e : Option Entry) : Prop := e = none ∨ ∃ content, e = some (.file content)

/-- `t'` is `t` once regular files were written at some of `places`. -/
structure Wrote (places : Location → Prop) (t t' : FileTree) : Prop where
  home : t'.home = t.home
  elsewhere : ∀ l, ¬places l → t'.get? l = t.get? l
  there : ∀ l, t'.get? l = t.get? l ∨ Plain (t.get? l) ∧ ∃ content, t'.get? l = some (.file content)

namespace Wrote

variable {places places' : Location → Prop}

theorem refl (t : FileTree) : Wrote places t t := ⟨rfl, fun _ _ => rfl, fun _ => .inl rfl⟩

theorem mono (h : Wrote places t t') (hle : ∀ l, places l → places' l) : Wrote places' t t' :=
  ⟨h.home, fun l hl => h.elsewhere l (mt (hle l) hl), h.there⟩

theorem trans {t'' : FileTree} (h : Wrote places t t') (h' : Wrote places t' t'') : Wrote places t t'' where
  home := h'.home.trans h.home
  elsewhere l hl := (h'.elsewhere l hl).trans (h.elsewhere l hl)
  there l := by
    rcases h'.there l with hs' | ⟨hp', hf'⟩
    · rw [hs']
      exact h.there l
    · rcases h.there l with hs | ⟨hp, -⟩
      · exact .inr ⟨hs ▸ hp', hf'⟩
      · exact .inr ⟨hp, hf'⟩

/-- What is no regular file stays. -/
theorem get?_eq (h : Wrote places t t') {l : Location} {e : Entry} (he : t.get? l = some e)
    (hf : ∀ content, e ≠ .file content) : t'.get? l = some e := by
  rcases h.there l with hs | ⟨hn | ⟨content, hc⟩, -⟩
  · rw [hs, he]
  · simp [he] at hn
  · rw [he, Option.some.injEq] at hc
    exact absurd hc (hf content)

end Wrote

/-- What a lookup does at a name that is no step in place and no step up. -/
theorem follow_name (t : FileTree) (links : Nat) (place : Location) {n : String} (rest : List String) (hdot : n ≠ ".")
    (hup : n ≠ "..") (hsize : ¬n.utf8ByteSize > 255) :
    t.follow links place (n :: rest) =
      match t.get? (place ++ [n]) with
      | none => if rest.isEmpty then .ok (.free (place ++ [n])) else .error .notFound
      | some .directory => t.follow links (place ++ [n]) rest
      | some (.link target) =>
        match links with
        | 0 => .error .tooManyLinks
        | links + 1 =>
          if target.isEmpty then .error .notFound
          else t.follow links (if Path.isAbsolute target then [] else place) (Path.steps target ++ rest)
      | some _ => if rest.isEmpty then .ok (.entry (place ++ [n])) else .error .notDirectory := by
  rw [follow, if_neg hdot, if_neg hup]
  exact if_neg hsize

/-- A path leads where it led before; only a free place at its end may have been filled. -/
theorem Wrote.follow {places : Location → Prop} (h : Wrote places t t') {links : Nat} {place : Location}
    {names : List String} {r : Reached} (hr : t.follow links place names = .ok r) :
    t'.follow links place names = .ok r ∨
      ∃ l content, r = .free l ∧ t'.follow links place names = .ok (.entry l) ∧ t'.get? l = some (.file content) := by
  -- Nothing but the entry at the last name can be new, for all on the way are directories and links.
  induction links, place, names using FileTree.follow.induct t with
  | case1 links place =>
    rw [FileTree.follow] at hr ⊢
    exact .inl hr
  | case2 links place rest ih =>
    rw [FileTree.follow, if_pos rfl] at hr ⊢
    exact ih hr
  | case3 links place rest hne ih =>
    rw [FileTree.follow, if_neg hne, if_pos rfl] at hr ⊢
    exact ih hr
  | case4 links place n rest hdot hup hsize =>
    rw [FileTree.follow, if_neg hdot, if_neg hup, if_pos hsize] at hr
    simp at hr
  | case5 links place n rest hdot hup hsize hget hrest =>
    rw [follow_name _ _ _ _ hdot hup hsize] at hr ⊢
    simp only [hget, hrest, if_true, Except.ok.injEq] at hr ⊢
    subst hr
    rcases h.there (place ++ [n]) with hs | ⟨-, content, hf⟩
    · rw [hs, hget]
      exact .inl rfl
    · rw [hf]
      exact .inr ⟨_, content, rfl, rfl, hf⟩
  | case6 links place n rest hdot hup hsize hget hrest =>
    rw [follow_name _ _ _ _ hdot hup hsize] at hr
    simp [hget, hrest] at hr
  | case7 links place n rest hdot hup hsize hget ih =>
    have hget' := h.get?_eq hget (by simp)
    rw [follow_name _ _ _ _ hdot hup hsize] at hr ⊢
    simp only [hget, hget'] at hr ⊢
    exact ih hr
  | case8 place n rest hdot hup hsize target hget =>
    rw [follow_name _ _ _ _ hdot hup hsize] at hr
    simp [hget] at hr
  | case9 place n rest hdot hup hsize target hget links hempty =>
    rw [follow_name _ _ _ _ hdot hup hsize] at hr
    simp [hget, hempty] at hr
  | case10 place n rest hdot hup hsize target hget links hempty ih =>
    have hget' := h.get?_eq hget (by simp)
    rw [follow_name _ _ _ _ hdot hup hsize] at hr ⊢
    simp only [hget, hget', hempty] at hr ⊢
    exact ih hr
  | case11 links place n rest hdot hup hsize e hdir hlink hget hrest =>
    rw [follow_name _ _ _ _ hdot hup hsize] at hr ⊢
    have hr : r = .entry (place ++ [n]) := by
      cases e with
      | directory => exact absurd rfl hdir
      | link target => exact absurd rfl (hlink target)
      | file content => simpa [hget, hrest, eq_comm] using hr
      | full => simpa [hget, hrest, eq_comm] using hr
    subst hr
    -- What stood there is still there, or was a regular file and is one again.
    have hget' : ∃ e', t'.get? (place ++ [n]) = some e' ∧ e' ≠ .directory ∧ ∀ target, e' ≠ .link target := by
      rcases h.there (place ++ [n]) with hs | ⟨-, content, hf⟩
      · exact ⟨e, hs.trans hget, hdir, hlink⟩
      · exact ⟨_, hf, by simp, by simp⟩
    obtain ⟨e', he', hdir', hlink'⟩ := hget'
    cases e' with
    | directory => exact absurd rfl hdir'
    | link target => exact absurd rfl (hlink' target)
    | file content => simp [he', hrest]
    | full => simp [he', hrest]
  | case12 links place n rest hdot hup hsize e hdir hlink hget hrest =>
    rw [follow_name _ _ _ _ hdot hup hsize] at hr
    cases e with
    | directory => exact absurd rfl hdir
    | link target => exact absurd rfl (hlink target)
    | file content => simp [hget, hrest] at hr
    | full => simp [hget, hrest] at hr

/-- Where a lookup ends at a free place, nothing stands. -/
theorem get?_of_follow_free {links : Nat} {place l : Location} {names : List String}
    (h : t.follow links place names = .ok (.free l)) : t.get? l = none ∧ l ≠ [] := by
  induction links, place, names using follow.induct t with
  | case1 links place => simp [FileTree.follow] at h
  | case2 links place rest ih =>
    rw [FileTree.follow, if_pos rfl] at h
    exact ih h
  | case3 links place rest hne ih =>
    rw [FileTree.follow, if_neg hne, if_pos rfl] at h
    exact ih h
  | case4 links place n rest hdot hup hsize =>
    rw [FileTree.follow, if_neg hdot, if_neg hup, if_pos hsize] at h
    simp at h
  | case5 links place n rest hdot hup hsize hget hrest =>
    rw [follow_name _ _ _ _ hdot hup hsize] at h
    simp only [hget, hrest, if_true, Except.ok.injEq, Reached.free.injEq] at h
    subst h
    exact ⟨hget, by simp⟩
  | case7 links place n rest hdot hup hsize hget ih =>
    rw [follow_name _ _ _ _ hdot hup hsize] at h
    simp only [hget] at h
    exact ih h
  | case10 place n rest hdot hup hsize target hget links hempty ih =>
    rw [follow_name _ _ _ _ hdot hup hsize] at h
    simp only [hget, hempty] at h
    exact ih h
  | case6 links place n rest hdot hup hsize hget hrest
  | case8 place n rest hdot hup hsize target hget
  | case9 place n rest hdot hup hsize target hget links hempty =>
    rw [follow_name _ _ _ _ hdot hup hsize] at h
    simp_all
  | case11 links place n rest hdot hup hsize e hdir hlink hget hrest
  | case12 links place n rest hdot hup hsize e hdir hlink hget hrest =>
    rw [follow_name _ _ _ _ hdot hup hsize] at h
    cases e <;> simp_all

theorem Wrote.reach {places : Location → Prop} (h : Wrote places t t') {p : String} {steps : List String} {r : Reached}
    (hr : t.reach p steps = .ok r) :
    t'.reach p steps = .ok r ∨
      ∃ l content, r = .free l ∧ t'.reach p steps = .ok (.entry l) ∧ t'.get? l = some (.file content) := by
  have horigin : t'.origin p = t.origin p := by rw [origin, origin, h.home]
  unfold FileTree.reach at hr ⊢
  split
  · next hf => simp [hf] at hr
  · next hf =>
    rw [hf] at hr
    rw [horigin]
    exact h.follow hr

/-! ## Opening -/

/-- Where a file is opened: at a free place, a regular file or a full device. -/
theorem writable_eq_ok_iff {p : String} {l : Location} :
    t.writable p = .ok l ↔ Path.endsWithSlash p = false ∧
      (t.reach p (Path.names p) = .ok (.free l) ∨
        t.reach p (Path.names p) = .ok (.entry l) ∧
          ((∃ content, t.get? l = some (.file content)) ∨ t.get? l = some .full)) := by
  unfold writable
  cases hr : t.reach p (Path.names p) with
  | error fault => simp
  | ok r =>
    dsimp only
    cases Path.endsWithSlash p with
    | true => simp
    | false =>
      cases r with
      | free l' => simp
      | entry l' =>
        simp only [Bool.false_eq_true, if_false, Except.ok.injEq, Reached.entry.injEq, reduceCtorEq, false_or, true_and]
        split
        · next content hget =>
          simp only [Except.ok.injEq]
          exact ⟨fun h => ⟨h, .inl ⟨content, h ▸ hget⟩⟩, fun h => h.1⟩
        · next hget =>
          simp only [Except.ok.injEq]
          exact ⟨fun h => ⟨h, .inr (h ▸ hget)⟩, fun h => h.1⟩
        · next hfile hfull =>
          simp only [reduceCtorEq, false_iff]
          rintro ⟨rfl, ⟨content, hget⟩ | hget⟩
          · exact hfile content hget
          · exact hfull hget

theorem get?_of_reach_free {p : String} {steps : List String} {l : Location} (h : t.reach p steps = .ok (.free l)) :
    t.get? l = none ∧ l ≠ [] := by
  unfold reach at h
  split at h
  · simp at h
  · exact get?_of_follow_free h

/-- What can be opened is a free place, a regular file or a full device. -/
theorem get?_of_writable {p : String} {l : Location} (h : t.writable p = .ok l) :
    (Plain (t.get? l) ∨ t.get? l = some .full) ∧ l ≠ [] := by
  rcases (writable_eq_ok_iff.1 h).2 with hf | ⟨-, ⟨content, hc⟩ | hc⟩
  · have hnone := get?_of_reach_free hf
    exact ⟨.inl (.inl hnone.1), hnone.2⟩
  · exact ⟨.inl (.inr ⟨content, hc⟩), fun hl => by simp [hl, get?] at hc⟩
  · exact ⟨.inr hc, fun hl => by simp [hl, get?] at hc⟩

/-- What can be opened can be opened still, and is the same file. -/
theorem Wrote.writable {places : Location → Prop} (h : Wrote places t t') {p : String} {l : Location}
    (hl : t.writable p = .ok l) : t'.writable p = .ok l := by
  obtain ⟨hslash, hr⟩ := writable_eq_ok_iff.1 hl
  refine writable_eq_ok_iff.2 ⟨hslash, ?_⟩
  rcases hr with hf | ⟨he, hc⟩
  · rcases h.reach hf with hf' | ⟨l', content, hfree, he', hc'⟩
    · exact .inl hf'
    · obtain rfl : l = l' := by simpa using hfree
      exact .inr ⟨he', .inl ⟨content, hc'⟩⟩
  · rcases h.reach he with he' | ⟨l', content, hfree, -, -⟩
    · refine .inr ⟨he', ?_⟩
      rcases h.there l with hs | ⟨-, hfile⟩
      · rwa [hs]
      · exact .inl hfile
    · simp at hfree

/-! ## Changing a file -/

theorem Wrote.put {l : Location} (hl : l ≠ []) (hp : Plain (t.get? l)) (content : ByteArray) :
    Wrote (· = l) t (t.put l (.file content)) where
  home := rfl
  elsewhere k hk := t.get?_put_of_ne _ hk
  there k := by
    by_cases hk : k = l
    · subst hk
      exact .inr ⟨hp, content, t.get?_put_self _ hl⟩
    · exact .inl (t.get?_put_of_ne _ hk)

/-- A file is open and empty, or it is a full device. -/
theorem create_eq_ok {p : String} {l : Location} (h : t.create p = .ok (l, t')) :
    t.writable p = .ok l ∧ Wrote (· = l) t t' ∧ (t'.get? l = some (.file .empty) ∨ t'.get? l = some .full) := by
  unfold create at h
  split at h
  · simp at h
  · next l' hw =>
    simp only [Except.ok.injEq, Prod.mk.injEq] at h
    obtain ⟨rfl, ht⟩ := h
    obtain ⟨hplain, hroot⟩ := get?_of_writable hw
    refine ⟨hw, ?_⟩
    split at ht
    · next hfull =>
      subst ht
      exact ⟨.refl t, .inr hfull⟩
    · next hfull =>
      subst ht
      have hplain : Plain (t.get? l') := by simpa [hfull] using hplain
      exact ⟨.put hroot hplain .empty, .inl (t.get?_put_self _ hroot)⟩

theorem append_wrote {l : Location} {bytes : ByteArray} (h : t.append l bytes = .ok t') : Wrote (· = l) t t' := by
  unfold append at h
  split at h
  · next content hget =>
    simp only [Except.ok.injEq] at h
    subst h
    have hroot : l ≠ [] := fun hl => by simp [hl, get?] at hget
    exact .put hroot (.inr ⟨content, hget⟩) _
  · split at h
    · simp only [Except.ok.injEq] at h
      subst h
      exact .refl t
    · simp at h
  · simp only [Except.ok.injEq] at h
    subst h
    exact .refl t

theorem append_file {l : Location} {content : ByteArray} (bytes : ByteArray) (h : t.get? l = some (.file content)) :
    t.append l bytes = .ok (t.put l (.file (content ++ bytes))) ∧
      (t.put l (.file (content ++ bytes))).get? l = some (.file (content ++ bytes)) := by
  have hroot : l ≠ [] := fun hl => by simp [hl, get?] at h
  exact ⟨by simp only [append, h], t.get?_put_self _ hroot⟩

theorem append_full {l : Location} {bytes : ByteArray} (hget : t.get? l = some .full)
    (h : t.append l bytes = .ok t') : bytes = .empty ∧ t' = t := by
  simp only [append, hget] at h
  split at h
  · next hb =>
    have hsize : bytes.size = 0 := by simpa [ByteArray.isEmpty] using hb
    exact ⟨ByteArray.size_eq_zero_iff.1 hsize, by simpa using h.symm⟩
  · simp at h

/-- What can be opened and is a regular file can be read. -/
theorem read_of_writable {p : String} {l : Location} {content : ByteArray} (h : t.writable p = .ok l)
    (hl : t.get? l = some (.file content)) : t.read p = .ok content := by
  obtain ⟨hslash, hr⟩ := writable_eq_ok_iff.1 h
  have hsteps : Path.steps p = Path.names p := by simp [Path.steps, hslash]
  have hfind : t.find p = .ok (l, .file content) := by
    rcases hr with hf | ⟨he, -⟩
    · simp [(get?_of_reach_free hf).1] at hl
    · rw [find, hsteps, he]
      simp only [hl]
  rw [read, hfind]

/-- A file that can be opened, and is no full device, is written and can be read. -/
theorem write_eq_ok {p : String} {l : Location} (hl : t.writable p = .ok l) (hfull : t.get? l ≠ some .full)
    (bytes : ByteArray) : ∃ t', t.write p bytes = (.ok (), t') ∧ Wrote (· = l) t t' ∧ t'.read p = .ok bytes := by
  have hcreate : t.create p = .ok (l, t.put l (.file .empty)) := by simp only [create, hl, if_neg hfull]
  obtain ⟨-, hopened, -⟩ := create_eq_ok hcreate
  have hempty : (t.put l (.file .empty)).get? l = some (.file .empty) := t.get?_put_self _ (get?_of_writable hl).2
  obtain ⟨happend, hfile⟩ := append_file bytes hempty
  rw [ByteArray.empty_append] at happend hfile
  have hwrote := hopened.trans (append_wrote happend)
  refine ⟨_, ?_, hwrote, read_of_writable (hwrote.writable hl) hfile⟩
  rw [write, hcreate]
  dsimp only
  rw [happend]

/-! ## Making directories -/

/-- `t'` is `t` with more directories. -/
structure Furnished (t t' : FileTree) : Prop where
  home : t'.home = t.home
  there : ∀ l, t'.get? l = t.get? l ∨ t.get? l = none ∧ t'.get? l = some .directory

theorem Furnished.refl (t : FileTree) : Furnished t t := ⟨rfl, fun _ => .inl rfl⟩

theorem Furnished.trans {t'' : FileTree} (h : Furnished t t') (h' : Furnished t' t'') : Furnished t t'' where
  home := h'.home.trans h.home
  there l := by
    rcases h.there l with hs | ⟨hnone, hdir⟩
    · rw [← hs]
      exact h'.there l
    · rcases h'.there l with hs' | ⟨hnone', -⟩
      · exact .inr ⟨hnone, hs'.trans hdir⟩
      · simp [hdir] at hnone'

/-- Where an entry can be made: at a free name in a directory. -/
theorem vacancy_eq_ok {p : String} {l : Location} (h : t.vacancy p = .ok l) :
    ∃ before last d, Path.names p = before ++ [last] ∧ t.reach p before = .ok (.entry d) ∧
      t.get? d = some .directory ∧ last ≠ "." ∧ last ≠ ".." ∧ ¬last.utf8ByteSize > 255 ∧
      t.get? (d ++ [last]) = none ∧ l = d ++ [last] := by
  unfold vacancy at h
  dsimp only at h
  split at h
  · split at h <;> simp at h
  · next last hlast =>
    split at h
    · simp at h
    · simp at h
    · next d hreach =>
      split at h
      · simp at h
      · next hdirectory =>
        split at h
        · simp at h
        · next hdots =>
          split at h
          · simp at h
          · next hsize =>
            split at h
            · simp at h
            · next hfree =>
              rw [not_or] at hdots
              obtain ⟨before, hnames⟩ := List.getLast?_eq_some_iff.1 hlast
              rw [hnames, List.dropLast_concat] at hreach
              exact ⟨before, last, d, hnames, hreach, Decidable.not_not.1 hdirectory, hdots.1, hdots.2, hsize,
                by simpa using hfree, by simpa using h.symm⟩

theorem get?_of_vacancy {p : String} {l : Location} (h : t.vacancy p = .ok l) : t.get? l = none ∧ l ≠ [] := by
  obtain ⟨before, last, d, -, -, -, -, -, -, hfree, rfl⟩ := vacancy_eq_ok h
  exact ⟨hfree, by simp⟩

theorem makeDirectory_eq_ok {p : String} (h : t.makeDirectory p = .ok t') :
    ∃ l, t.vacancy p = .ok l ∧ t' = t.put l .directory := by
  unfold makeDirectory at h
  cases hv : t.vacancy p with
  | error fault => simp [hv, Except.map] at h
  | ok l => exact ⟨l, rfl, by simpa [hv, Except.map, eq_comm] using h⟩

theorem makeDirectory_furnished {p : String} (h : t.makeDirectory p = .ok t') : Furnished t t' := by
  obtain ⟨l, hv, rfl⟩ := makeDirectory_eq_ok h
  obtain ⟨hnone, hroot⟩ := get?_of_vacancy hv
  refine ⟨rfl, fun k => ?_⟩
  by_cases hk : k = l
  · subst hk
    exact .inr ⟨hnone, t.get?_put_self _ hroot⟩
  · exact .inl (t.get?_put_of_ne _ hk)

theorem makeDirectories_furnished (t : FileTree) (absolute : Bool) (names : List String) :
    Furnished t (t.makeDirectories absolute names).2 := by
  induction names generalizing t with
  | nil => exact .refl t
  | cons last before ih =>
    unfold makeDirectories
    dsimp only
    split
    · next t₁ h => exact makeDirectory_furnished h
    · -- The directory above is missing: it is made first, and then this one is tried again.
      have hbefore := ih t
      split
      · next fault t₁ h => exact h ▸ hbefore
      · next t₁ h =>
        rw [h] at hbefore
        split
        · next t₂ h₂ => exact hbefore.trans (makeDirectory_furnished h₂)
        · split <;> exact hbefore
    · split <;> exact .refl t

/-- To make the directory a path lies in changes no file. -/
theorem makeParent_furnished (t : FileTree) (p : String) : Furnished t (t.makeParent p).2 := by
  unfold makeParent
  split
  · exact .refl t
  · exact makeDirectories_furnished t _ _

/-! ## Paths of one name -/

/-- A path that names an entry of the root directory. -/
def AtRoot (p n : String) : Prop :=
  pathFault? p = none ∧ Path.isAbsolute p = true ∧ Path.endsWithSlash p = false ∧ Path.names p = [n] ∧ n ≠ "." ∧
    n ≠ ".." ∧ n.utf8ByteSize ≤ 255

instance (p n : String) : Decidable (AtRoot p n) := by
  unfold AtRoot
  infer_instance

theorem AtRoot.reach {p n : String} (h : AtRoot p n) (t : FileTree) : t.reach p [n] = t.follow linkLimit [] [n] := by
  obtain ⟨hfault, habs, -⟩ := h
  rw [FileTree.reach, hfault, origin, if_pos habs]

theorem AtRoot.makeParent {p n : String} (h : AtRoot p n) (t : FileTree) : t.makeParent p = (.ok (), t) := by
  obtain ⟨-, -, -, hnames, hdot, -⟩ := h
  have habove : Path.parent? p = some [] := by simp [Path.parent?, Path.parts, hnames, hdot]
  rw [FileTree.makeParent, habove]
  rfl

theorem AtRoot.find {p n : String} (h : AtRoot p n) {e : Entry} (he : t.get? [n] = some e)
    (hlink : ∀ target, e ≠ .link target) : t.find p = .ok ([n], e) := by
  have hreach := h.reach t
  obtain ⟨-, -, hslash, hnames, hdot, hup, hsize⟩ := h
  rw [follow_name _ _ _ _ hdot hup (Nat.not_lt.2 hsize)] at hreach
  have hsteps : Path.steps p = [n] := by simp [Path.steps, hslash, hnames]
  have hentry : t.reach p [n] = .ok (.entry [n]) := by
    cases e with
    | link target => exact absurd rfl (hlink target)
    | directory => simpa [he, FileTree.follow] using hreach
    | file content => simpa [he] using hreach
    | full => simpa [he] using hreach
  rw [FileTree.find, hsteps, hentry]
  simp only [he]

theorem AtRoot.writable {p n : String} (h : AtRoot p n) (hplain : Plain (t.get? [n])) : t.writable p = .ok [n] := by
  have hreach := h.reach t
  obtain ⟨-, -, hslash, hnames, hdot, hup, hsize⟩ := h
  rw [follow_name _ _ _ _ hdot hup (Nat.not_lt.2 hsize)] at hreach
  refine writable_eq_ok_iff.2 ⟨hslash, ?_⟩
  rw [hnames]
  rcases hplain with hnone | ⟨content, hfile⟩
  · exact .inl (by simpa [hnone] using hreach)
  · exact .inr ⟨by simpa [hfile] using hreach, .inl ⟨content, hfile⟩⟩

/-- A path that is a link to a free name beside it leads to that name. -/
theorem AtRoot.writable_link {p n m : String} (h : AtRoot p n) (hlink : t.get? [n] = some (.link m))
    (hm : Path.steps m = [m] ∧ Path.isAbsolute m = false ∧ m ≠ "." ∧ m ≠ ".." ∧ m.utf8ByteSize ≤ 255)
    (hnone : t.get? [m] = none) : t.writable p = .ok [m] := by
  have hreach := h.reach t
  obtain ⟨-, -, hslash, hnames, hdot, hup, hsize⟩ := h
  obtain ⟨hsteps, hrelative, hdot', hup', hsize'⟩ := hm
  rw [follow_name _ _ _ _ hdot hup (Nat.not_lt.2 hsize)] at hreach
  simp only [List.nil_append, hlink, linkLimit] at hreach
  rw [hsteps, List.append_nil, follow_name _ _ _ _ hdot' hup' (Nat.not_lt.2 hsize')] at hreach
  have hne : m ≠ "" := by
    rintro rfl
    exact absurd hsteps (by decide)
  refine writable_eq_ok_iff.2 ⟨hslash, .inl ?_⟩
  rw [hnames, hreach]
  simp [hne, hrelative, hnone]

theorem AtRoot.writable_directory {p n : String} (h : AtRoot p n) (hd : t.get? [n] = some .directory) :
    t.writable p = .error .isDirectory := by
  have hreach := h.reach t
  obtain ⟨-, -, hslash, hnames, hdot, hup, hsize⟩ := h
  rw [follow_name _ _ _ _ hdot hup (Nat.not_lt.2 hsize)] at hreach
  have hentry : t.reach p [n] = .ok (.entry [n]) := by simpa [hd, FileTree.follow] using hreach
  rw [FileTree.writable, hnames, hentry]
  simp [hslash, hd]

end CallGraph.FileTree
