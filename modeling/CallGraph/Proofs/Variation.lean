import CallGraph.Json.Value
import Mathlib.Data.List.Nodup
import Mathlib.Logic.Relation
/-!
# Ways to write a record

One record can be written in many ways: its members may come in any order, members that nobody reads may stand among them,
and what a field has by default may be written out or left out. An `Edit` is one such change, and documents are `Varied` if
edits lead from one to the other. `Edit.fields` says what an edit leaves of the fields, and `Varied.read` that a reader who
sees no edit sees no variation.
-/

namespace CallGraph.Json

/-- A field of a record, as far as it can be written in several ways: which values can stand for each other, and which say
what is meant where the field is left out. -/
structure Field where
  name : String
  swap : Json → Json → Prop := Eq
  standard : Json → Prop := fun _ => False

/-- One change to how a record with these fields is written, as an object or as an array. -/
inductive Edit (fields : List Field) : Json → Json → Prop
  | reorder {members members' : List (Option String × Json)} (h : members.Perm members') :
      Edit fields (.object members) (.object members')
  | unknown {members : List (Option String × Json)} {name : String} (h : name ∉ fields.map (·.name)) (value : Json) :
      Edit fields (.object members) (.object ((some name, value) :: members))
  | spellOut {members : List (Option String × Json)} {f : Field} {value : Json} (hf : f ∈ fields)
      (hnew : some f.name ∉ members.map (·.1)) (h : f.standard value) :
      Edit fields (.object members) (.object ((some f.name, value) :: members))
  | member {members : List (Option String × Json)} {f : Field} {value value' : Json} (hf : f ∈ fields)
      (h : f.swap value value') :
      Edit fields (.object ((some f.name, value) :: members)) (.object ((some f.name, value') :: members))
  | spellOutItem {before after : List Field} {f : Field} {items : List Json} {value : Json}
      (hf : fields = before ++ f :: after) (hlength : items.length = before.length) (h : f.standard value) :
      Edit fields (.array items) (.array (items ++ [value]))
  | item {before after : List Field} {f : Field} {items items' : List Json} {value value' : Json}
      (hf : fields = before ++ f :: after) (hlength : items.length = before.length) (h : f.swap value value') :
      Edit fields (.array (items ++ value :: items')) (.array (items ++ value' :: items'))

/-- Edits, made or undone, lead from one document to the other. -/
def Varied (fields : List Field) : Json → Json → Prop := Relation.EqvGen (Edit fields)

/-- Lists whose items are swapped. -/
inductive Each (swap : Json → Json → Prop) : Json → Json → Prop
  | items {items items' : List Json} (h : List.Forall₂ swap items items') : Each swap (.array items) (.array items')

theorem Edit.varied {fields : List Field} {j j' : Json} (h : Edit fields j j') : Varied fields j j' := .rel _ _ h

theorem Varied.symm {fields : List Field} {j j' : Json} (h : Varied fields j j') : Varied fields j' j :=
  Relation.EqvGen.symm _ _ h

theorem Varied.trans {fields : List Field} {j j' j'' : Json} (h : Varied fields j j') (h' : Varied fields j' j'') :
    Varied fields j j'' :=
  Relation.EqvGen.trans _ _ _ h h'

/-- A reader who sees no edit sees no variation. -/
theorem Varied.read {fields : List Field} {β : Type} {read : Json → β}
    (hread : ∀ j j', Edit fields j j' → read j' = read j) {j j' : Json} (h : Varied fields j j') : read j' = read j := by
  induction h with
  | rel j j' hedit => exact hread j j' hedit
  | refl j => rfl
  | symm j j' _ ih => exact ih.symm
  | trans j j' j'' _ _ ih ih' => exact ih'.trans ih

/-! ## Fields -/

/-- Two ways to write one field, or to leave it out. -/
inductive Field.Alike (f : Field) : Option Json → Option Json → Prop
  | same (value : Option Json) : f.Alike value value
  | swap {value value' : Json} (h : f.swap value value') : f.Alike (some value) (some value')
  | standard {value : Json} (h : f.standard value) : f.Alike none (some value)

theorem Field.Alike.read {f : Field} {β : Type} {read : Option Json → β}
    (hswap : ∀ value value', f.swap value value' → read (some value') = read (some value))
    (hstandard : ∀ value, f.standard value → read (some value) = read none) {x y : Option Json} (h : f.Alike x y) :
    read y = read x := by
  cases h with
  | same => rfl
  | swap h => exact hswap _ _ h
  | standard h => exact hstandard _ h

/-- A field that must be there, with nothing to swap. -/
theorem Field.Alike.plain {name : String} {x y : Option Json} (h : Field.Alike { name := name } x y) : y = x := by
  cases h with
  | same => rfl
  | swap h => rw [h]
  | standard h => exact h.elim

theorem Field.Alike.required {f : Field} {α : Type} {value : Json → Option α}
    (hswap : ∀ j j', f.swap j j' → value j' = value j) (hstandard : ∀ j, ¬f.standard j) {x y : Option Json}
    (h : f.Alike x y) : Json.required value y = Json.required value x :=
  h.read hswap fun j hj => absurd hj (hstandard j)

theorem Field.Alike.defaulted {f : Field} {α : Type} {fallback : α} {value : Json → Option α}
    (hswap : ∀ j j', f.swap j j' → value j' = value j) (hstandard : ∀ j, f.standard j → value j = some fallback)
    {x y : Option Json} (h : f.Alike x y) : Json.defaulted fallback value y = Json.defaulted fallback value x :=
  h.read hswap hstandard

/-- A field that can be left out, with nothing to swap. -/
theorem Field.Alike.spelled {name : String} {standard : Json → Prop} {α : Type} {fallback : α} {value : Json → Option α}
    (hstandard : ∀ j, standard j → value j = some fallback) {x y : Option Json}
    (h : Field.Alike { name, standard } x y) : Json.defaulted fallback value y = Json.defaulted fallback value x := by
  refine h.defaulted ?_ hstandard
  rintro j j' rfl
  rfl

/-- The fields of a record, each written in two ways. -/
inductive Alike : List Field → List (Option Json) → List (Option Json) → Prop
  | nil : Alike [] [] []
  | cons {f : Field} {fields : List Field} {x y : Option Json} {xs ys : List (Option Json)} (h : f.Alike x y)
      (hs : Alike fields xs ys) : Alike (f :: fields) (x :: xs) (y :: ys)

theorem Alike.refl {fields : List Field} {xs : List (Option Json)} (h : xs.length = fields.length) : Alike fields xs xs := by
  induction fields generalizing xs with
  | nil =>
    rw [List.length_eq_zero_iff.1 h]
    exact .nil
  | cons f fields ih =>
    obtain ⟨x, xs, rfl⟩ := List.exists_cons_of_length_eq_add_one h
    exact .cons (.same x) (ih (by simpa using h))

theorem Alike.append {fields fields' : List Field} {xs ys xs' ys' : List (Option Json)} (h : Alike fields xs ys)
    (h' : Alike fields' xs' ys') : Alike (fields ++ fields') (xs ++ xs') (ys ++ ys') := by
  induction h with
  | nil => exact h'
  | cons hfield _ ih => exact .cons hfield ih

/-- Where each field is found alike, so are all. -/
theorem alike_mapM {fields : List Field} {find find' : String → Option (Option Json)}
    (h : ∀ f ∈ fields, Option.Rel f.Alike (find f.name) (find' f.name)) :
    Option.Rel (Alike fields) ((fields.map (·.name)).mapM find) ((fields.map (·.name)).mapM find') := by
  induction fields with
  | nil => exact .some .nil
  | cons f fields ih =>
    have hfirst := h f List.mem_cons_self
    have hrest := ih fun g hg => h g (List.mem_cons_of_mem _ hg)
    rw [List.map_cons, List.mapM_cons, List.mapM_cons]
    generalize find f.name = x, find' f.name = y at hfirst
    generalize (fields.map (·.name)).mapM find = xs, (fields.map (·.name)).mapM find' = ys at hrest
    cases hfirst with
    | none => exact .none
    | some hfirst =>
      cases hrest with
      | none => exact .none
      | some hrest => exact .some (.cons hfirst hrest)

/-! ## Members -/

theorem member?_perm (name : String) {members members' : List (String × Json)} (h : members.Perm members') :
    member? name members' = member? name members := by
  have hfilter := h.filter (·.1 = name)
  unfold member?
  generalize members.filter (·.1 = name) = found, members'.filter (·.1 = name) = found' at hfilter
  match found, hfilter with
  | [], hfilter => rw [hfilter.nil_eq]
  | [m], hfilter => rw [List.singleton_perm.1 hfilter]
  | m :: m' :: rest, hfilter =>
    match found', hfilter.length_eq with
    | m₁ :: m₂ :: rest', _ => rfl

theorem member?_cons_of_ne {name name' : String} (h : name' ≠ name) (value : Json) (members : List (String × Json)) :
    member? name ((name', value) :: members) = member? name members := by
  unfold member?
  rw [List.filter_cons_of_neg (by simpa using h)]

/-- A member in front of others is the one of its name, if there is no other. -/
theorem member?_cons_self (name : String) (value : Json) (members : List (String × Json)) :
    member? name ((name, value) :: members) = if name ∈ members.map (·.1) then none else some (some value) := by
  unfold member?
  rw [List.filter_cons_of_pos (by simp)]
  cases hfound : members.filter (·.1 = name) with
  | nil =>
    rw [if_neg]
    rintro hmem
    obtain ⟨m, hm, rfl⟩ := List.mem_map.1 hmem
    exact List.filter_eq_nil_iff.1 hfound m hm (by simp)
  | cons m rest =>
    have hm : m ∈ members.filter (·.1 = name) := hfound ▸ List.mem_cons_self
    rw [List.mem_filter, decide_eq_true_eq] at hm
    rw [if_pos (List.mem_map.2 ⟨m, hm⟩)]

theorem member?_of_notMem {name : String} {members : List (String × Json)} (h : name ∉ members.map (·.1)) :
    member? name members = some none := by
  have hfound : members.filter (·.1 = name) = [] := by
    rw [List.filter_eq_nil_iff]
    intro m hm hname
    exact h (List.mem_map.2 ⟨m, hm, by simpa using hname⟩)
  rw [member?, hfound]

/-- The one member of a name is whichever is there. -/
theorem eq_of_member? {name : String} {value : Json} {members : List (String × Json)} {found : Option Json}
    (hmem : (name, value) ∈ members) (h : member? name members = some found) : found = some value := by
  have hm : (name, value) ∈ members.filter (·.1 = name) := List.mem_filter.2 ⟨hmem, by simp⟩
  unfold member? at h
  generalize members.filter (·.1 = name) = those at hm h
  match those, hm with
  | [m], hm =>
    rw [← List.mem_singleton.1 hm] at h
    exact (Option.some.inj h).symm
  | m :: m' :: rest, _ => nomatch h

/-- The members of an object, if all of their names are text. -/
def legible? (members : List (Option String × Json)) : Option (List (String × Json)) :=
  members.mapM fun m => m.1.map (·, m.2)

theorem fields?_object (names : List String) (members : List (Option String × Json)) :
    fields? names (.object members) = (legible? members).bind fun members => names.mapM (member? · members) := by
  rw [fields?]
  show _ = Option.bind (members.mapM _) _
  cases members.mapM fun m => m.1.map (·, m.2) with
  | none => rfl
  | some members => rfl

theorem legible?_cons (m : Option String × Json) (members : List (Option String × Json)) :
    legible? (m :: members) = m.1.bind fun name => (legible? members).map ((name, m.2) :: ·) := by
  rw [legible?, List.mapM_cons, legible?]
  cases m.1 with
  | none => rfl
  | some name => cases members.mapM fun m => m.1.map (·, m.2) <;> rfl

theorem names_legible? {members : List (Option String × Json)} {members' : List (String × Json)}
    (h : legible? members = some members') : members'.map (some ·.1) = members.map (·.1) := by
  induction members generalizing members' with
  | nil =>
    cases h
    rfl
  | cons m members ih =>
    rw [legible?_cons] at h
    obtain ⟨name, hname, h⟩ := Option.bind_eq_some_iff.1 h
    obtain ⟨rest, hrest, rfl⟩ := Option.map_eq_some_iff.1 h
    rw [List.map_cons, List.map_cons, ih hrest, hname]

theorem mem_legible? {name : String} {value : Json} {members : List (Option String × Json)}
    {known : List (String × Json)} (hmem : (some name, value) ∈ members) (h : legible? members = some known) :
    (name, value) ∈ known := by
  induction members generalizing known with
  | nil => nomatch hmem
  | cons m members ih =>
    rw [legible?_cons] at h
    obtain ⟨name', hname', h⟩ := Option.bind_eq_some_iff.1 h
    obtain ⟨rest, hrest, rfl⟩ := Option.map_eq_some_iff.1 h
    rcases List.mem_cons.1 hmem with rfl | hmem
    · obtain rfl := Option.some.inj hname'
      exact List.mem_cons_self
    · exact List.mem_cons_of_mem _ (ih hmem hrest)

/-- Reordered members are as legible as before. -/
theorem legible?_perm {members members' : List (Option String × Json)} (h : members.Perm members') :
    Option.Rel List.Perm (legible? members) (legible? members') := by
  induction h with
  | nil => exact .some .nil
  | @cons m members members' _ ih =>
    rw [legible?_cons, legible?_cons]
    generalize legible? members = known, legible? members' = known' at ih
    cases m.1 with
    | none => exact .none
    | some name =>
      cases ih with
      | none => exact .none
      | some hrest => exact .some (hrest.cons _)
  | swap m m' members =>
    simp only [legible?_cons]
    generalize legible? members = known
    cases m.1 with
    | none => cases m'.1 <;> exact .none
    | some name =>
      cases m'.1 with
      | none => exact .none
      | some name' =>
        cases known with
        | none => exact .none
        | some known => exact .some (.swap _ _ _)
  | @trans members members' members'' _ _ ih ih' =>
    generalize legible? members = known, legible? members' = known', legible? members'' = known'' at ih ih'
    cases ih with
    | none =>
      cases ih'
      exact .none
    | some h =>
      cases ih' with
      | some h' => exact .some (h.trans h')

/-! ## What an edit does to the fields -/

/-- Members among which each field is found alike. -/
def MembersAlike (fields : List Field) (members members' : List (String × Json)) : Prop :=
  ∀ f ∈ fields, Option.Rel f.Alike (member? f.name members) (member? f.name members')

theorem Field.Alike.rel_same (f : Field) (x : Option (Option Json)) : Option.Rel f.Alike x x := by
  cases x with
  | none => exact .none
  | some value => exact .some (.same value)

theorem fields?_membersAlike {fields : List Field} {members members' : List (Option String × Json)}
    (h : Option.Rel (MembersAlike fields) (legible? members) (legible? members')) :
    Option.Rel (Alike fields) (fields? (fields.map (·.name)) (.object members))
      (fields? (fields.map (·.name)) (.object members')) := by
  rw [fields?_object, fields?_object]
  generalize legible? members = known, legible? members' = known' at h
  cases h with
  | none => exact .none
  | some h => exact alike_mapM h

/-- A member in front of others is read as a field of its name; the other fields do not see it. -/
theorem membersAlike_of_first {fields : List Field} (hnames : (fields.map (·.name)).Nodup) {f : Field} (hf : f ∈ fields)
    {members members' : List (String × Json)}
    (hfirst : Option.Rel f.Alike (member? f.name members) (member? f.name members'))
    (hothers : ∀ name ≠ f.name, member? name members' = member? name members) :
    MembersAlike fields members members' := by
  intro g hg
  by_cases hname : g.name = f.name
  · obtain rfl := List.inj_on_of_nodup_map hnames hg hf hname
    exact hfirst
  · rw [hothers g.name hname]
    exact Field.Alike.rel_same g _

section Edits

variable {fields : List Field}

theorem fields?_reorder {members members' : List (Option String × Json)} (h : members.Perm members') :
    Option.Rel (Alike fields) (fields? (fields.map (·.name)) (.object members))
      (fields? (fields.map (·.name)) (.object members')) := by
  apply fields?_membersAlike
  have hknown := legible?_perm h
  generalize legible? members = known, legible? members' = known' at hknown
  cases hknown with
  | none => exact .none
  | some hknown =>
    refine .some fun f _ => ?_
    rw [member?_perm f.name hknown]
    exact Field.Alike.rel_same f _

theorem fields?_unknown {name : String} (h : name ∉ fields.map (·.name)) (value : Json)
    (members : List (Option String × Json)) :
    Option.Rel (Alike fields) (fields? (fields.map (·.name)) (.object members))
      (fields? (fields.map (·.name)) (.object ((some name, value) :: members))) := by
  apply fields?_membersAlike
  rw [legible?_cons, Option.bind_some]
  cases legible? members with
  | none => exact .none
  | some known =>
    refine .some fun f hf => ?_
    have hne : name ≠ f.name := fun hname => h (hname ▸ List.mem_map_of_mem hf)
    rw [member?_cons_of_ne hne]
    exact Field.Alike.rel_same f _

theorem fields?_spellOut (hnames : (fields.map (·.name)).Nodup) {f : Field} (hf : f ∈ fields)
    {members : List (Option String × Json)} (hnew : some f.name ∉ members.map (·.1)) {value : Json}
    (h : f.standard value) :
    Option.Rel (Alike fields) (fields? (fields.map (·.name)) (.object members))
      (fields? (fields.map (·.name)) (.object ((some f.name, value) :: members))) := by
  apply fields?_membersAlike
  rw [legible?_cons, Option.bind_some]
  cases hknown : legible? members with
  | none => exact .none
  | some known =>
    have hnew : f.name ∉ known.map (·.1) := by
      intro hmem
      obtain ⟨m, hm, hname⟩ := List.mem_map.1 hmem
      rw [← names_legible? hknown] at hnew
      exact hnew (List.mem_map.2 ⟨m, hm, congrArg some hname⟩)
    refine .some (membersAlike_of_first hnames hf ?_ fun name hne => member?_cons_of_ne (Ne.symm hne) value known)
    rw [member?_of_notMem hnew, member?_cons_self, if_neg hnew]
    exact .some (.standard h)

theorem fields?_member (hnames : (fields.map (·.name)).Nodup) {f : Field} (hf : f ∈ fields)
    (members : List (Option String × Json)) {value value' : Json} (h : f.swap value value') :
    Option.Rel (Alike fields) (fields? (fields.map (·.name)) (.object ((some f.name, value) :: members)))
      (fields? (fields.map (·.name)) (.object ((some f.name, value') :: members))) := by
  apply fields?_membersAlike
  rw [legible?_cons, legible?_cons, Option.bind_some, Option.bind_some]
  cases legible? members with
  | none => exact .none
  | some known =>
    refine .some (membersAlike_of_first hnames hf ?_ fun name hne => ?_)
    · rw [member?_cons_self, member?_cons_self]
      split
      · exact .none
      · exact .some (.swap h)
    · rw [member?_cons_of_ne (Ne.symm hne), member?_cons_of_ne (Ne.symm hne)]

theorem fields?_array {names : List String} {items : List Json} (h : items.length ≤ names.length) :
    fields? names (.array items) = some (items.map some ++ List.replicate (names.length - items.length) none) := by
  rw [fields?, if_pos h]

variable {before after : List Field} {f : Field} {items : List Json}

theorem fields?_spellOutItem (hlength : items.length = before.length) {value : Json} (h : f.standard value) :
    Option.Rel (Alike (before ++ f :: after)) (fields? ((before ++ f :: after).map (·.name)) (.array items))
      (fields? ((before ++ f :: after).map (·.name)) (.array (items ++ [value]))) := by
  have hroom : (items ++ [value]).length ≤ ((before ++ f :: after).map (·.name)).length := by
    simp only [List.length_map, List.length_append, List.length_cons, List.length_nil]
    omega
  have hshort : items.length ≤ ((before ++ f :: after).map (·.name)).length := Nat.le_trans (by simp) hroom
  have hleft : (before ++ f :: after).length - items.length = after.length + 1 := by
    simp only [List.length_append, List.length_cons]
    omega
  have hleft' : (before ++ f :: after).length - (items ++ [value]).length = after.length := by
    simp only [List.length_append, List.length_cons, List.length_nil]
    omega
  rw [fields?_array hshort, fields?_array hroom, List.length_map, hleft, hleft', List.map_append, List.append_assoc,
    List.replicate_succ]
  exact .some (.append (.refl (by simpa using hlength)) (.cons (.standard h) (.refl (by simp))))

theorem fields?_item (hlength : items.length = before.length) (items' : List Json) {value value' : Json}
    (h : f.swap value value') :
    Option.Rel (Alike (before ++ f :: after))
      (fields? ((before ++ f :: after).map (·.name)) (.array (items ++ value :: items')))
      (fields? ((before ++ f :: after).map (·.name)) (.array (items ++ value' :: items'))) := by
  have hsame : (items ++ value' :: items').length = (items ++ value :: items').length := by simp
  by_cases hroom : (items ++ value :: items').length ≤ ((before ++ f :: after).map (·.name)).length
  · rw [fields?_array hroom, fields?_array (hsame ▸ hroom), hsame]
    simp only [List.map_append, List.map_cons, List.append_assoc, List.cons_append]
    refine .some (.append (.refl (by simpa using hlength)) (.cons (.swap h) (.refl ?_)))
    simp only [List.length_append, List.length_map, List.length_cons, List.length_replicate] at hroom ⊢
    omega
  · rw [fields?, fields?, if_neg hroom, if_neg (hsame ▸ hroom)]
    exact .none

end Edits

/-- An edit leaves each field of a record as it was, or written in another way. -/
theorem Edit.fields {fields : List Field} (hnames : (fields.map (·.name)).Nodup) {j j' : Json} (h : Edit fields j j') :
    Option.Rel (Alike fields) (fields? (fields.map (·.name)) j) (fields? (fields.map (·.name)) j') := by
  cases h with
  | reorder h => exact fields?_reorder h
  | unknown h value => exact fields?_unknown h value _
  | spellOut hf hnew h => exact fields?_spellOut hnames hf hnew h
  | member hf h => exact fields?_member hnames hf _ h
  | spellOutItem hf hlength h =>
    subst hf
    exact fields?_spellOutItem hlength h
  | item hf hlength h =>
    subst hf
    exact fields?_item hlength _ h

/-- What is read of the fields `names` of a record is read of every variation of it, if fields that are written alike read
alike. -/
theorem Varied.record {fields : List Field} (names : List String) (hfields : names = fields.map (·.name))
    (hnames : names.Nodup) {β : Type} {read : Json → β}
    (hread : ∀ j j', Option.Rel (Alike fields) (fields? names j) (fields? names j') → read j' = read j) {j j' : Json}
    (h : Varied fields j j') : read j' = read j := by
  subst hfields
  exact h.read fun j j' hedit => hread j j' (hedit.fields hnames)

/-- Edits are made to objects and arrays only. -/
theorem Edit.optional? {fields : List Field} {α : Type} {value : Json → Option α} {j j' : Json} (h : Edit fields j j')
    (heq : value j' = value j) : Json.optional? value j' = Json.optional? value j := by
  cases h <;> simp only [Json.optional?, heq]

/-! ## Lists -/

theorem list?_each {α : Type} {swap : Json → Json → Prop} {item : Json → Option α}
    (hitem : ∀ j j', swap j j' → item j' = item j) {j j' : Json} (h : Each swap j j') :
    list? item j' = list? item j := by
  obtain ⟨hitems⟩ := h
  simp only [list?]
  induction hitems with
  | nil => rfl
  | cons hfirst _ ih => rw [List.mapM_cons, List.mapM_cons, hitem _ _ hfirst, ih]

/-- A list that can be left out where it has no items. -/
theorem Field.Alike.listed {name : String} {swap : Json → Json → Prop} {α : Type} {item : Json → Option α}
    (hitem : ∀ j j', swap j j' → item j' = item j) {x y : Option Json}
    (h : Field.Alike { name, swap := Each swap, standard := (· = .array []) } x y) :
    Json.defaulted [] (list? item) y = Json.defaulted [] (list? item) x := by
  refine h.defaulted (fun _ _ => list?_each hitem) ?_
  rintro j rfl
  rfl

end CallGraph.Json
