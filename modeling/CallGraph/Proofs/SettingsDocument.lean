import CallGraph.Proofs.Lists
import CallGraph.Proofs.Statements
import CallGraph.Settings.Document
import Mathlib.Data.List.Nodup
/-!
# Settings in a document

A document of settings, whatever is taken out of it, gives the settings with what was taken out at its defaults:
`ofToml?_taken`. It can be written if its numbers fit TOML integers, `text?_isSome_iff`.
-/

namespace CallGraph

/-! ## Names -/

/-- Types whose values all have names of their own. -/
class Named.Lawful (α : Type) [Named α] : Prop where
  ofName?_name (a : α) : Named.ofName? (Named.name a) = some a

instance : Named.Lawful Policy := ⟨fun a => by cases a <;> rfl⟩

instance : Named.Lawful Reflection := ⟨fun a => by cases a <;> rfl⟩

instance : Named.Lawful Encoding := ⟨fun a => by cases a <;> rfl⟩

instance : Named.Lawful FrameOrder := ⟨fun a => by cases a <;> rfl⟩

instance : Named.Lawful SiteMatch := ⟨fun a => by cases a <;> rfl⟩

instance : Named.Lawful ContextDetail := ⟨fun a => by cases a <;> rfl⟩

/-! ## Plain tables -/

namespace Toml

theorem lookup_filter {α : Type} (keep : String → Bool) (key : String) (entries : List (String × α)) :
    (entries.filter (keep ·.1)).lookup key = if keep key then entries.lookup key else none := by
  induction entries with
  | nil => simp
  | cons e entries ih =>
    obtain ⟨k, v⟩ := e
    by_cases hk : key = k
    · subst hk
      cases hkeep : keep key with
      | true => simp [hkeep]
      | false => simp [hkeep, ih]
    · have hne : (key == k) = false := by simpa using hk
      cases hkeep : keep k with
      | true => simp [hkeep, List.lookup_cons, hne, ih]
      | false => simp [hkeep, List.lookup_cons, hne, ih]

theorem lookup_map {α β : Type} (f : String → α → β) (key : String) (entries : List (String × α)) :
    (entries.map fun e => (e.1, f e.1 e.2)).lookup key = (entries.lookup key).map (f key) := by
  induction entries with
  | nil => rfl
  | cons e entries ih =>
    obtain ⟨k, v⟩ := e
    rw [List.map_cons, List.lookup_cons, List.lookup_cons, ih]
    by_cases hk : key = k
    · subst hk
      simp
    · have hne : (key == k) = false := by simpa using hk
      simp [hne]


namespace Entries

theorem alter?_new {key : String} {entries : Entries} (h : key ∉ entries.map (·.1)) (f : Option Item → Option Item) :
    alter? key f entries = (f none).map fun i => entries ++ [(key, i)] := by
  induction entries with
  | nil => rfl
  | cons e entries ih =>
    obtain ⟨k, i⟩ := e
    rw [List.map_cons, List.mem_cons, not_or] at h
    rw [alter?, if_neg (Ne.symm h.1), ih h.2]
    cases f none <;> rfl

/-- Assignments to different names make a table of them, in their order. -/
theorem assignAll?_plain {entries : Entries} {values : List (String × Toml)}
    (h : (entries.map (·.1) ++ values.map (·.1)).Nodup) :
    assignAll? entries (values.map fun (key, v) => ⟨⟨[], key⟩, v⟩) =
      some (entries ++ values.map fun (key, v) => (key, .value v)) := by
  induction values generalizing entries with
  | nil => simp [assignAll?]
  | cons value values ih =>
    obtain ⟨key, v⟩ := value
    have hnew : key ∉ entries.map (·.1) := by
      intro hmem
      exact (List.nodup_append.1 h).2.2 key hmem key List.mem_cons_self rfl
    have hnodup : ((entries ++ [(key, Item.value v)]).map (·.1) ++ values.map (·.1)).Nodup := by simpa using h
    have hrest := ih hnodup
    rw [List.append_assoc] at hrest
    rw [List.map_cons, assignAll?, List.foldlM_cons, assign?, alter?_new hnew]
    exact hrest

/-- A part with a new name is one more table. -/
theorem enter?_part {name : String} {values : List (String × Toml)} {entries : Entries}
    (hname : name ∉ entries.map (·.1)) (hkeys : (values.map (·.1)).Nodup) :
    enter? (Settings.part name values) [] entries =
      some (entries ++ [(name, .table .header (values.map fun (key, v) => (key, .value v)))]) := by
  have hbody : assignAll? [] (values.map fun (key, v) => ⟨⟨[], key⟩, v⟩) =
      some (values.map fun (key, v) => (key, .value v)) := assignAll?_plain hkeys
  have henter : enter? (Settings.part name values) [] entries =
      alter? name (define? false (values.map fun (key, v) => ⟨⟨[], key⟩, v⟩)) entries := rfl
  rw [henter, alter?_new hname, define?, hbody]
  rfl

end Entries

theorem tomlEntries_values (values : List (String × Toml)) :
    Item.tomlEntries (values.map fun (key, v) => (key, .value v)) = values := by
  induction values with
  | nil => rfl
  | cons value values ih =>
    rw [List.map_cons, Item.tomlEntries, ih, Item.toml]

theorem tomlEntries_append (entries entries' : Entries) :
    Item.tomlEntries (entries ++ entries') = Item.tomlEntries entries ++ Item.tomlEntries entries' := by
  induction entries with
  | nil => rfl
  | cons e entries ih =>
    obtain ⟨key, i⟩ := e
    rw [List.cons_append, Item.tomlEntries, ih, Item.tomlEntries, List.cons_append]

end Toml

namespace Settings

open Toml (Entries Item Statement Bare Listed Simple field? lookup_filter)

/-! ## Parts -/

/-- Parts with different names make a table of tables, in their order. -/
theorem enter?_parts {parts : List (String × List (String × Toml))} {entries : Entries}
    (hnames : (entries.map (·.1) ++ parts.map (·.1)).Nodup) (hkeys : ∀ p ∈ parts, (p.2.map (·.1)).Nodup) :
    ∃ after : Entries,
      (parts.map fun p => part p.1 p.2).foldlM (fun entries s => Entries.enter? s s.header.key.path entries) entries =
        some after ∧
      Item.tomlEntries after = Item.tomlEntries entries ++ parts.map fun p => (p.1, .table p.2) := by
  induction parts generalizing entries with
  | nil => exact ⟨entries, rfl, (List.append_nil _).symm⟩
  | cons p parts ih =>
    obtain ⟨name, values⟩ := p
    have hnew : name ∉ entries.map (·.1) := by
      intro hmem
      exact (List.nodup_append.1 hnames).2.2 name hmem name List.mem_cons_self rfl
    have henter := Entries.enter?_part hnew (hkeys _ List.mem_cons_self)
    generalize hmore : entries ++ [(name, Item.table .header (values.map fun (key, v) => (key, .value v)))] = more
      at henter
    have hrest : (more.map (·.1) ++ parts.map (·.1)).Nodup := by simpa [← hmore] using hnames
    obtain ⟨after, hafter, htoml⟩ := ih hrest fun p hp => hkeys p (List.mem_cons_of_mem _ hp)
    refine ⟨after, ?_, ?_⟩
    · rw [List.map_cons, List.foldlM_cons]
      exact (congrArg (Option.bind · _) henter).trans hafter
    · rw [htoml, ← hmore, Toml.tomlEntries_append]
      simp [Item.tomlEntries, Item.toml, Toml.tomlEntries_values]

/-- The parts of settings, each with its values. -/
def parts (s : Settings) : List (String × List (String × Toml)) :=
  [("analysis", s.analysis.entries), ("resolution", s.resolution.entries), ("output", s.output.entries)]

theorem document_eq (s : Settings) : s.document = ⟨[], s.parts.map fun p => part p.1 p.2⟩ := rfl

theorem nodup_names (s : Settings) : (s.parts.map (·.1)).Nodup := by
  simp [parts]

theorem Analysis.keys_sublist (a : Analysis) : (a.entries.map (·.1)).Sublist keys := by
  unfold entries
  cases a.exclusions <;> simp [keys]

theorem Resolution.keys_sublist (r : Resolution) : (r.entries.map (·.1)).Sublist keys := by simp [entries, keys]

theorem Output.keys_sublist (o : Output) : (o.entries.map (·.1)).Sublist keys := by simp [entries, keys]

theorem Analysis.nodup_keys (a : Analysis) : (a.entries.map (·.1)).Nodup :=
  a.keys_sublist.nodup (by simp [keys])

theorem Resolution.nodup_keys (r : Resolution) : (r.entries.map (·.1)).Nodup :=
  r.keys_sublist.nodup (by simp [keys])

theorem Output.nodup_keys (o : Output) : (o.entries.map (·.1)).Nodup :=
  o.keys_sublist.nodup (by simp [keys])

theorem nodup_keys (s : Settings) : ∀ p ∈ s.parts, (p.2.map (·.1)).Nodup := by
  simp [parts, s.analysis.nodup_keys, s.resolution.nodup_keys, s.output.nodup_keys]

/-! ## What stays -/

/-- What stays of a document when tables and keys are taken out of it: some of the tables, with some of their keys. -/
structure Selection where
  table : String → Bool
  key : String → String → Bool

/-- A document without the tables and keys that are taken out. -/
def Selection.document (sel : Selection) (d : Toml.Document) : Toml.Document where
  top := d.top
  sections := (d.sections.filter (sel.table ·.header.key.name)).map fun s =>
    { s with body := s.body.filter (sel.key s.header.key.name ·.key.name) }

/-- Taking out removes statements and changes none. -/
theorem Selection.statements_sublist (sel : Selection) (d : Toml.Document) :
    (sel.document d).statements.Sublist d.statements := by
  obtain ⟨top, sections⟩ := d
  simp only [Toml.Document.statements, document]
  apply List.Sublist.append_left
  induction sections with
  | nil => exact .slnil
  | cons s sections ih =>
    cases hkeep : sel.table s.header.key.name with
    | true =>
      rw [List.filter_cons, if_pos hkeep, List.map_cons, List.flatMap_cons, List.flatMap_cons]
      exact ((List.filter_sublist.map _).cons_cons _).append ih
    | false =>
      rw [List.filter_cons, hkeep, if_neg Bool.false_ne_true, List.flatMap_cons]
      exact ih.trans (List.sublist_append_right _ _)

/-- What stays of the parts of settings. -/
def Selection.parts (sel : Selection) (ps : List (String × List (String × Toml))) :
    List (String × List (String × Toml)) :=
  (ps.filter (sel.table ·.1)).map fun p => (p.1, p.2.filter (sel.key p.1 ·.1))

theorem Selection.document_parts (sel : Selection) (ps : List (String × List (String × Toml))) :
    sel.document ⟨[], ps.map fun p => part p.1 p.2⟩ = ⟨[], (sel.parts ps).map fun p => part p.1 p.2⟩ := by
  simp only [document, parts, List.filter_map, List.map_map]
  congr 1
  apply List.map_congr_left
  intro p hp
  simp only [Function.comp_apply, part, List.filter_map]
  rfl

/-- The table that a document of settings describes, whatever was taken out. -/
theorem table?_document (s : Settings) (sel : Selection) :
    (sel.document s.document).table? = some (.table ((sel.parts s.parts).map fun p => (p.1, .table p.2))) := by
  have hnames : ((sel.parts s.parts).map (·.1)).Nodup := by
    rw [Selection.parts, List.map_map]
    exact (List.filter_sublist.map _).nodup s.nodup_names
  have hkeys : ∀ p ∈ sel.parts s.parts, (p.2.map (·.1)).Nodup := by
    intro p hp
    obtain ⟨q, hq, rfl⟩ := List.mem_map.1 hp
    exact (List.filter_sublist.map _).nodup (s.nodup_keys q (List.mem_filter.1 hq).1)
  have hentries : ((([] : Entries).map (·.1)) ++ (sel.parts s.parts).map (·.1)).Nodup := hnames
  obtain ⟨after, hafter, htoml⟩ := enter?_parts hentries hkeys
  rw [document_eq, sel.document_parts]
  simp only [Toml.Document.table?, Entries.assignAll?, List.foldlM_nil, Option.pure_def, Option.bind_eq_bind,
    Option.bind_some, hafter, htoml]
  rfl

/-! ## Values -/

theorem named?_named {α : Type} [Named α] [Named.Lawful α] (a : α) : Toml.named? (named a) = some a :=
  Named.Lawful.ofName?_name a

theorem word?_toNat (n : UInt32) : Toml.word? (.integer n.toNat) = some n := by
  have hn := n.toNat_lt
  rw [Toml.word?, if_pos ⟨by omega, by simp [UInt32.size]; omega⟩]
  simp

theorem wide?_toNat (n : UInt64) : Toml.wide? (.integer n.toNat) = some n := by
  have hn := n.toNat_lt
  rw [Toml.wide?, if_pos ⟨by omega, by simp [UInt64.size]; omega⟩]
  simp

theorem boolean?_boolean (b : Bool) : (Toml.boolean b).boolean? = some b := rfl

theorem signed?_toInt (n : Int64) : Toml.signed? (.integer n.toInt) = some n := by
  rw [Toml.signed?, Int64.ofInt_toInt]

theorem list?_strings (texts : List String) : Toml.list? Toml.string? (.array (texts.map .string)) = some texts := by
  rw [Toml.list?]
  induction texts with
  | nil => rfl
  | cons text texts ih =>
    rw [List.map_cons, List.mapM_cons, ih]
    rfl

/-! ## Fields -/

/-- A field is what was written for it, or its default if its key is taken out. -/
theorem field?_filter {α : Type} {entries : List (String × Toml)} (hkeys : (entries.map (·.1)).Nodup)
    (keep : String → Bool) (key : String) {v : Toml} (hmem : (key, v) ∈ entries) {standard x : α}
    {read : Toml → Option α} (hread : read v = some x) :
    field? standard read ((entries.filter (keep ·.1)).lookup key) = some (if keep key then x else standard) := by
  rw [lookup_filter, lookup_of_mem hkeys hmem]
  cases keep key with
  | true => exact hread
  | false => rfl

/-- The fields whose keys stay; the others are at their defaults. -/
def Analysis.keeping (keep : String → Bool) (a : Analysis) : Analysis :=
  let standard : Analysis := {}
  { policy := if keep "policy" then a.policy else standard.policy
    sensitivity := if keep "sensitivity" then a.sensitivity else standard.sensitivity
    reflection := if keep "reflection" then a.reflection else standard.reflection
    maxNodes := if keep "max_nodes" then a.maxNodes else standard.maxNodes
    timeout := if keep "timeout_ms" then a.timeout else standard.timeout
    staticInit := if keep "handle_static_init" then a.staticInit else standard.staticInit
    zeroLengthArray := if keep "handle_zero_length_array" then a.zeroLengthArray else standard.zeroLengthArray
    constantSpecificKeys :=
      if keep "use_constant_specific_keys" then a.constantSpecificKeys else standard.constantSpecificKeys
    stacksForLexicalScoping :=
      if keep "use_stacks_for_lexical_scoping" then a.stacksForLexicalScoping else standard.stacksForLexicalScoping
    lexicalScopingForGlobals :=
      if keep "use_lexical_scoping_for_globals" then a.lexicalScopingForGlobals else standard.lexicalScopingForGlobals
    exclusions := if keep "exclusions" then a.exclusions else standard.exclusions }

def Resolution.keeping (keep : String → Bool) (r : Resolution) : Resolution :=
  let standard : Resolution := {}
  { sourceNumbers := if keep "source_numbers" then r.sourceNumbers else standard.sourceNumbers
    sourceText := if keep "source_text" then r.sourceText else standard.sourceText
    excludeSynthetic := if keep "exclude_synthetic" then r.excludeSynthetic else standard.excludeSynthetic
    frameOrder := if keep "frame_order" then r.frameOrder else standard.frameOrder
    siteMatch := if keep "site_match" then r.siteMatch else standard.siteMatch
    contextDetail := if keep "context_detail" then r.contextDetail else standard.contextDetail
    sourceArchives := if keep "source_archives" then r.sourceArchives else standard.sourceArchives }

def Output.keeping (keep : String → Bool) (o : Output) : Output :=
  let standard : Output := {}
  { encoding := if keep "format" then o.encoding else standard.encoding
    chunkSize := if keep "chunk_size" then o.chunkSize else standard.chunkSize }

/-- The settings with the fields that were taken out at their defaults. -/
def Selection.settings (sel : Selection) (s : Settings) : Settings where
  analysis := if sel.table "analysis" then s.analysis.keeping (sel.key "analysis") else {}
  resolution := if sel.table "resolution" then s.resolution.keeping (sel.key "resolution") else {}
  output := if sel.table "output" then s.output.keeping (sel.key "output") else {}

theorem Analysis.field?_exclusions (keep : String → Bool) (a : Analysis) :
    field? none (fun v => v.string?.map some) ((a.entries.filter (keep ·.1)).lookup "exclusions") =
      some (if keep "exclusions" then a.exclusions else none) := by
  cases h : a.exclusions with
  | some path => exact field?_filter a.nodup_keys keep "exclusions" (v := .string path) (by simp [entries, h]) rfl
  | none =>
    have hlookup : a.entries.lookup "exclusions" = none := by simp [entries, h, List.lookup_cons]
    rw [lookup_filter, hlookup, ite_self, ite_self]
    rfl

theorem Analysis.ofToml?_keeping (keep : String → Bool) (a : Analysis) :
    ofToml? (.table (a.entries.filter (keep ·.1))) = some (a.keeping keep) := by
  have hkeys := a.nodup_keys
  unfold ofToml?
  dsimp only [Toml.fields?, Option.bind_eq_bind, Option.bind_some]
  rw [field?_filter hkeys keep "policy" (by simp [entries]) (named?_named a.policy),
    field?_filter hkeys keep "sensitivity" (by simp [entries]) (word?_toNat a.sensitivity),
    field?_filter hkeys keep "reflection" (by simp [entries]) (named?_named a.reflection),
    field?_filter hkeys keep "max_nodes" (by simp [entries]) (signed?_toInt a.maxNodes),
    field?_filter hkeys keep "timeout_ms" (by simp [entries]) (wide?_toNat a.timeout),
    field?_filter hkeys keep "handle_static_init" (by simp [entries]) (boolean?_boolean a.staticInit),
    field?_filter hkeys keep "handle_zero_length_array" (by simp [entries]) (boolean?_boolean a.zeroLengthArray),
    field?_filter hkeys keep "use_constant_specific_keys" (by simp [entries])
      (boolean?_boolean a.constantSpecificKeys),
    field?_filter hkeys keep "use_stacks_for_lexical_scoping" (by simp [entries])
      (boolean?_boolean a.stacksForLexicalScoping),
    field?_filter hkeys keep "use_lexical_scoping_for_globals" (by simp [entries])
      (boolean?_boolean a.lexicalScopingForGlobals),
    a.field?_exclusions keep]
  rfl

theorem Resolution.ofToml?_keeping (keep : String → Bool) (r : Resolution) :
    ofToml? (.table (r.entries.filter (keep ·.1))) = some (r.keeping keep) := by
  have hkeys := r.nodup_keys
  unfold ofToml?
  dsimp only [Toml.fields?, Option.bind_eq_bind, Option.bind_some]
  rw [field?_filter hkeys keep "source_numbers" (by simp [entries]) (boolean?_boolean r.sourceNumbers),
    field?_filter hkeys keep "source_text" (by simp [entries]) (boolean?_boolean r.sourceText),
    field?_filter hkeys keep "exclude_synthetic" (by simp [entries]) (boolean?_boolean r.excludeSynthetic),
    field?_filter hkeys keep "frame_order" (by simp [entries]) (named?_named r.frameOrder),
    field?_filter hkeys keep "site_match" (by simp [entries]) (named?_named r.siteMatch),
    field?_filter hkeys keep "context_detail" (by simp [entries]) (named?_named r.contextDetail),
    field?_filter hkeys keep "source_archives" (by simp [entries]) (list?_strings r.sourceArchives)]
  rfl

theorem Output.ofToml?_keeping (keep : String → Bool) (o : Output) :
    ofToml? (.table (o.entries.filter (keep ·.1))) = some (o.keeping keep) := by
  have hkeys := o.nodup_keys
  unfold ofToml?
  dsimp only [Toml.fields?, Option.bind_eq_bind, Option.bind_some]
  rw [field?_filter hkeys keep "format" (by simp [entries]) (named?_named o.encoding),
    field?_filter hkeys keep "chunk_size" (by simp [entries]) (wide?_toNat o.chunkSize)]
  rfl

/-- The table of a part, if the part stays. -/
theorem Selection.lookup_parts (sel : Selection) {ps : List (String × List (String × Toml))}
    (hnames : (ps.map (·.1)).Nodup) {name : String} {values : List (String × Toml)} (hmem : (name, values) ∈ ps) :
    ((sel.parts ps).map fun p => (p.1, Toml.table p.2)).lookup name =
      if sel.table name then some (.table (values.filter (sel.key name ·.1))) else none := by
  have hmap : (sel.parts ps).map (fun p => (p.1, Toml.table p.2)) =
      (ps.filter (sel.table ·.1)).map fun p => (p.1, .table (p.2.filter (sel.key p.1 ·.1))) := by
    rw [parts, List.map_map]
    rfl
  rw [hmap, Toml.lookup_map fun name (values : List (String × Toml)) => Toml.table (values.filter (sel.key name ·.1)),
    lookup_filter, lookup_of_mem hnames hmem]
  cases sel.table name <;> rfl

/-- The table of a document gives the settings with what was taken out at its defaults. -/
theorem ofToml?_taken (s : Settings) (sel : Selection) :
    ofToml? (.table ((sel.parts s.parts).map fun p => (p.1, .table p.2))) = some (sel.settings s) := by
  have hfield {α : Type} {standard x : α} {read : Toml → Option α} {name : String} {values : List (String × Toml)}
      (hmem : (name, values) ∈ s.parts) (hread : read (.table (values.filter (sel.key name ·.1))) = some x) :
      field? standard read (((sel.parts s.parts).map fun p => (p.1, .table p.2)).lookup name) =
        some (if sel.table name then x else standard) := by
    rw [sel.lookup_parts s.nodup_names hmem]
    cases sel.table name with
    | true => exact hread
    | false => rfl
  unfold ofToml?
  dsimp only [Toml.fields?, Option.bind_eq_bind, Option.bind_some]
  rw [hfield (by simp [parts]) (s.analysis.ofToml?_keeping (sel.key "analysis")),
    hfield (by simp [parts]) (s.resolution.ofToml?_keeping (sel.key "resolution")),
    hfield (by simp [parts]) (s.output.ofToml?_keeping (sel.key "output"))]
  rfl

/-! ## Statements -/

theorem bare_keys : (∀ k ∈ Analysis.keys, Bare k) ∧ (∀ k ∈ Resolution.keys, Bare k) ∧ (∀ k ∈ Output.keys, Bare k) ∧
    ∀ k ∈ keys, Bare k := by
  decide

theorem Analysis.listed (a : Analysis) : ∀ e ∈ a.entries, Listed e.2 := by
  unfold entries
  cases a.exclusions <;> simp [named, Listed.simple, Simple.string, Simple.integer, Simple.boolean]

theorem Resolution.listed (r : Resolution) : ∀ e ∈ r.entries, Listed e.2 := by
  have harchives : Listed (.array (r.sourceArchives.map .string)) := by
    refine .array ?_
    intro v hv
    obtain ⟨text, -, rfl⟩ := List.mem_map.1 hv
    exact .string text
  simp [entries, named, harchives, Listed.simple, Simple.string, Simple.boolean]

theorem Output.listed (o : Output) : ∀ e ∈ o.entries, Listed e.2 := by
  simp [entries, named, Listed.simple, Simple.string, Simple.integer]

/-- What settings write: bare names, and values without tables. -/
theorem parts_plain (s : Settings) : ∀ p ∈ s.parts, Bare p.1 ∧ ∀ e ∈ p.2, Bare e.1 ∧ Listed e.2 := by
  obtain ⟨ha, hr, ho, hkeys⟩ := bare_keys
  have hbare {entries : List (String × Toml)} {keys : List String} (hsub : (entries.map (·.1)).Sublist keys)
      (hkeys : ∀ k ∈ keys, Bare k) : ∀ e ∈ entries, Bare e.1 :=
    fun e he => hkeys _ (hsub.subset (List.mem_map_of_mem he))
  intro p hp
  rcases hp with _ | ⟨_, _ | ⟨_, _ | ⟨_, hp⟩⟩⟩
  · refine ⟨hkeys _ (by simp [keys]), fun e he => ⟨hbare s.analysis.keys_sublist ha e he, s.analysis.listed e he⟩⟩
  · refine ⟨hkeys _ (by simp [keys]), fun e he => ⟨hbare s.resolution.keys_sublist hr e he, s.resolution.listed e he⟩⟩
  · refine ⟨hkeys _ (by simp [keys]), fun e he => ⟨hbare s.output.keys_sublist ho e he, s.output.listed e he⟩⟩
  · nomatch hp

theorem mem_statements {ps : List (String × List (String × Toml))} {st : Statement} :
    st ∈ (⟨[], ps.map fun p => part p.1 p.2⟩ : Toml.Document).statements ↔
      ∃ p ∈ ps, st = .header ⟨⟨[], p.1⟩, false⟩ ∨ ∃ e ∈ p.2, st = .assign ⟨⟨[], e.1⟩, e.2⟩ := by
  simp [Toml.Document.statements, part, eq_comm]

theorem statements_plain (s : Settings) (sel : Selection) : ∀ st ∈ (sel.document s.document).statements, st.Plain := by
  intro st hst
  rw [document_eq, sel.document_parts, mem_statements] at hst
  obtain ⟨p, hp, hst⟩ := hst
  obtain ⟨q, hq, rfl⟩ := List.mem_map.1 hp
  obtain ⟨hname, hentries⟩ := s.parts_plain q (List.mem_filter.1 hq).1
  rcases hst with rfl | ⟨e, he, rfl⟩
  · exact .header hname
  · obtain ⟨hkey, hv⟩ := hentries e (List.mem_filter.1 he).1
    exact .assign hkey hv

/-! ## Writing -/

/-- The numbers that have no sign are below those that TOML has no room for. -/
structure Fits (s : Settings) : Prop where
  timeout : s.analysis.timeout.toNat < 2 ^ 63
  chunkSize : s.output.chunkSize.toNat < 2 ^ 63

theorem text?_parts {ps : List (String × List (String × Toml))} :
    (⟨[], ps.map fun p => part p.1 p.2⟩ : Toml.Document).text?.isSome ↔
      ∀ p ∈ ps, ∀ e ∈ p.2, (Toml.written? e.2).isSome := by
  rw [Toml.Document.text?, Option.isSome_map, isSome_mapM]
  constructor
  · intro h p hp e he
    have hst := h _ (mem_statements.2 ⟨p, hp, .inr ⟨e, he, rfl⟩⟩)
    simpa [Statement.written?, Toml.Assignment.written?] using hst
  · intro h st hst
    obtain ⟨p, hp, rfl | ⟨e, he, rfl⟩⟩ := mem_statements.1 hst
    · rfl
    · simpa [Statement.written?, Toml.Assignment.written?] using h p hp e he

theorem written?_string (text : String) : (Toml.written? (.string text)).isSome := rfl

theorem written?_boolean (b : Bool) : (Toml.written? (.boolean b)).isSome := rfl

theorem written?_strings (texts : List String) : (Toml.written? (.array (texts.map .string))).isSome := by
  rw [Toml.written?, Option.isSome_map, isSome_mapM]
  intro v hv
  obtain ⟨text, -, rfl⟩ := List.mem_map.1 hv
  rfl

theorem written?_integer (n : Int) : (Toml.written? (.integer n)).isSome ↔ -2 ^ 63 ≤ n ∧ n < 2 ^ 63 := by
  have hmin : Int64.minValue.toInt = -2 ^ 63 := by decide
  have hmax : Int64.maxValue.toInt = 2 ^ 63 - 1 := by decide
  have hwritten : (Toml.written? (.integer n)).isSome = (Toml.Number.word? n).isSome := Option.isSome_map
  rw [hwritten, Toml.Number.word?, hmin, hmax]
  split
  · next h => exact ⟨fun _ => ⟨h.1, by omega⟩, fun _ => rfl⟩
  · next h => exact ⟨nofun, fun hn => absurd ⟨hn.1, by omega⟩ h⟩

theorem Analysis.writable_iff (a : Analysis) :
    (∀ e ∈ a.entries, (Toml.written? e.2).isSome) ↔ a.timeout.toNat < 2 ^ 63 := by
  -- The depth has 32 bits and the bound on the nodes has a sign, so both fit.
  have hsensitivity : (Toml.written? (.integer a.sensitivity.toNat)).isSome :=
    (written?_integer _).2 (by have h := a.sensitivity.toNat_lt; omega)
  have hnodes : (Toml.written? (.integer a.maxNodes.toInt)).isSome :=
    (written?_integer _).2 ⟨a.maxNodes.le_toInt, a.maxNodes.toInt_lt⟩
  have htimeout : (Toml.written? (.integer a.timeout.toNat)).isSome ↔ a.timeout.toNat < 2 ^ 63 := by
    rw [written?_integer]
    omega
  unfold entries
  cases a.exclusions <;>
    simp [named, written?_string, written?_boolean, hsensitivity, hnodes, htimeout]

theorem Resolution.writable (r : Resolution) : ∀ e ∈ r.entries, (Toml.written? e.2).isSome := by
  simp [entries, named, written?_string, written?_boolean, written?_strings]

theorem Output.writable_iff (o : Output) :
    (∀ e ∈ o.entries, (Toml.written? e.2).isSome) ↔ o.chunkSize.toNat < 2 ^ 63 := by
  have hsize : (Toml.written? (.integer o.chunkSize.toNat)).isSome ↔ o.chunkSize.toNat < 2 ^ 63 := by
    rw [written?_integer]
    omega
  simp [entries, named, written?_string, hsize]

/-- Settings can be written unless a number is too large. -/
theorem text?_isSome_iff (s : Settings) : s.document.text?.isSome ↔ s.Fits := by
  have hforall : (∀ p ∈ s.parts, ∀ e ∈ p.2, (Toml.written? e.2).isSome) ↔
      s.analysis.timeout.toNat < 2 ^ 63 ∧ s.output.chunkSize.toNat < 2 ^ 63 := by
    rw [← s.analysis.writable_iff, ← s.output.writable_iff]
    simpa [parts] using fun _ _ => s.resolution.writable
  rw [document_eq, text?_parts, hforall]
  exact ⟨fun h => ⟨h.1, h.2⟩, fun h => ⟨h.timeout, h.chunkSize⟩⟩

/-! ## Reading -/

/-- A text in which what stays of a document of settings stands gives the settings with what was taken out at its
defaults. -/
theorem ofText?_taken (s : Settings) (sel : Selection) {text : String}
    (h : Toml.Spelled (sel.document s.document).statements text.toList) :
    (Toml.ofText? text).bind ofToml? = some (sel.settings s) := by
  rw [Toml.ofText?, Toml.Document.ofText?_spelled (s.statements_plain sel) h, Option.bind_some, s.table?_document sel,
    Option.bind_some, s.ofToml?_taken sel]

/-- Nothing is taken out. -/
def Selection.whole : Selection := ⟨fun _ => true, fun _ _ => true⟩

theorem Selection.whole_document (d : Toml.Document) : whole.document d = d := by
  simp [document, whole]

theorem Selection.whole_settings (s : Settings) : whole.settings s = s := rfl

theorem spelled_text (s : Settings) {text : String} (h : s.document.text? = some text) :
    Toml.Spelled s.document.statements text.toList := by
  have hplain := s.statements_plain .whole
  rw [Selection.whole_document] at hplain
  exact Toml.Document.spelled_text hplain h

/-- Settings are read as they were written. -/
theorem ofText?_text (s : Settings) {text : String} (h : s.document.text? = some text) :
    (Toml.ofText? text).bind ofToml? = some s := by
  have hspelled := s.spelled_text h
  rw [← Selection.whole_document s.document] at hspelled
  rw [s.ofText?_taken .whole hspelled, Selection.whole_settings]

end Settings

end CallGraph
