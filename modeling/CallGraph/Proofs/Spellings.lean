import CallGraph.Proofs.Replay
import CallGraph.Proofs.Variation
import Mathlib
/-!
# Snapshots that say the same

How the records of a snapshot may be written: which fields each of them has, and what stands for a field that is left out.
However a snapshot is written, the same is read (`ofJson?_varied`), so an engine that replays it does the same
(`ofSnapshot_varied`).
-/

namespace CallGraph.Snapshot

open Json

/-! ## The fields of the records -/

/-- A name, alone or as the only member of an object. -/
def Names (name : String) (j : Json) : Prop := j = .string (some name) ∨ j = .object [(some name, .null)]

def signatureFields : List Field := [{ name := "declaring_class" }, { name := "name" }, { name := "descriptor" }]

def instructionFields : List Field :=
  [{ name := "kind" }, { name := "site", standard := (· = .null) }, { name := "offset", standard := (· = .null) }]

def lineEntryFields : List Field := [{ name := "start_pc" }, { name := "line" }]

def methodFields : List Field :=
  [{ name := "id" }, { name := "signature", swap := Varied signatureFields },
    { name := "synthetic", standard := (· = .bool false) },
    { name := "instructions", swap := Each (Varied instructionFields), standard := (· = .array []) },
    { name := "line_table", swap := Each (Varied lineEntryFields), standard := (· = .array []) }]

def contextEntryFields : List Field := [{ name := "method" }, { name := "pc" }, { name := "site" }]

def contextFields : List Field :=
  [{ name := "kind" }, { name := "entries", swap := Each (Varied contextEntryFields), standard := (· = .array []) }]

/-- A context that is written with the kind `everywhere`. -/
def SaysEverywhere : Json → Prop
  | .object members => (some "kind", .string (some "everywhere")) ∈ members
  | .array items => items.head? = some (.string (some "everywhere"))
  | _ => False

/-- No context, or one that says so. -/
def Insensitive (j : Json) : Prop := j = .null ∨ SaysEverywhere j ∧ (context? j).isSome

def callSiteFields : List Field :=
  [{ name := "site" }, { name := "pc" }, { name := "targets", standard := (· = .array []) }]

/-- The context of a node. -/
def contextField : Field where
  name := "context"
  swap j j' := Varied contextFields j j' ∨ Insensitive j ∧ Insensitive j'
  standard := Insensitive

def nodeFields : List Field :=
  [{ name := "id" }, { name := "method" }, contextField,
    { name := "call_sites", swap := Each (Varied callSiteFields), standard := (· = .array []) }]

def optionFields : List Field :=
  [{ name := "reflection", standard := Names "none" },
    { name := "handle_static_init", standard := (· = .bool true) },
    { name := "handle_zero_length_array", standard := (· = .bool true) },
    { name := "use_constant_specific_keys", standard := (· = .bool false) },
    { name := "use_stacks_for_lexical_scoping", standard := (· = .bool false) },
    { name := "use_lexical_scoping_for_globals", standard := (· = .bool false) }]

def snapshotFields : List Field :=
  [{ name := "policy" }, { name := "sensitivity", standard := (· = .number { whole := ['1'] }) },
    { name := "options", swap := Varied optionFields, standard := fun j => j = .object [] ∨ j = .array [] },
    { name := "methods", swap := Each (Varied methodFields), standard := (· = .array []) },
    { name := "nodes", swap := Each (Varied nodeFields), standard := (· = .array []) }]

/-! ## Records -/

theorem signature?_varied {j j' : Json} (h : Varied signatureFields j j') : signature? j' = signature? j := by
  refine h.record ["declaring_class", "name", "descriptor"] rfl (by decide) fun j j' hfields => ?_
  unfold signature?
  generalize fields? _ j = xs, fields? _ j' = ys at hfields
  obtain ⟨_ | ⟨hc, _ | ⟨hn, _ | ⟨hd, _ | _⟩⟩⟩⟩ | _ := hfields
  · rw [hc.plain, hn.plain, hd.plain]
  · rfl

theorem instruction?_varied {j j' : Json} (h : Varied instructionFields j j') : instruction? j' = instruction? j := by
  refine h.record ["kind", "site", "offset"] rfl (by decide) fun j j' hfields => ?_
  unfold instruction?
  generalize fields? _ j = xs, fields? _ j' = ys at hfields
  obtain ⟨_ | ⟨hk, _ | ⟨hs, _ | ⟨ho, _ | _⟩⟩⟩⟩ | _ := hfields
  · dsimp only
    rw [hk.plain, hs.spelled ?_, ho.spelled ?_]
    all_goals
      rintro j rfl
      rfl
  · rfl

theorem lineEntry?_varied {j j' : Json} (h : Varied lineEntryFields j j') : lineEntry? j' = lineEntry? j := by
  refine h.record ["start_pc", "line"] rfl (by decide) fun j j' hfields => ?_
  unfold lineEntry?
  generalize fields? _ j = xs, fields? _ j' = ys at hfields
  obtain ⟨_ | ⟨hs, _ | ⟨hl, _ | _⟩⟩⟩ | _ := hfields
  · rw [hs.plain, hl.plain]
  · rfl

theorem method?_varied {j j' : Json} (h : Varied methodFields j j') : method? j' = method? j := by
  refine h.record ["id", "signature", "synthetic", "instructions", "line_table"] rfl (by decide) fun j j' hfields => ?_
  unfold method?
  generalize fields? _ j = xs, fields? _ j' = ys at hfields
  obtain ⟨_ | ⟨hi, _ | ⟨hs, _ | ⟨hy, _ | ⟨his, _ | ⟨hls, _ | _⟩⟩⟩⟩⟩⟩ | _ := hfields
  · dsimp only
    rw [hi.plain, hs.required (fun _ _ h => signature?_varied h) fun _ h => h, hy.spelled ?_,
      his.listed @instruction?_varied, hls.listed @lineEntry?_varied]
    rintro j rfl
    rfl
  · rfl

theorem contextEntry?_varied {j j' : Json} (h : Varied contextEntryFields j j') : contextEntry? j' = contextEntry? j := by
  refine h.record ["method", "pc", "site"] rfl (by decide) fun j j' hfields => ?_
  unfold contextEntry?
  generalize fields? _ j = xs, fields? _ j' = ys at hfields
  obtain ⟨_ | ⟨hm, _ | ⟨hp, _ | ⟨hs, _ | _⟩⟩⟩⟩ | _ := hfields
  · rw [hm.plain, hp.plain, hs.plain]
  · rfl

theorem context?_varied {j j' : Json} (h : Varied contextFields j j') : context? j' = context? j := by
  refine h.record ["kind", "entries"] rfl (by decide) fun j j' hfields => ?_
  unfold context?
  generalize fields? _ j = xs, fields? _ j' = ys at hfields
  obtain ⟨_ | ⟨hk, _ | ⟨hes, _ | _⟩⟩⟩ | _ := hfields
  · dsimp only
    rw [hk.plain, hes.listed @contextEntry?_varied]
  · rfl

/-- A context may be `null`, and then it is `null` however it is written. -/
theorem optional_context?_varied {j j' : Json} (h : Varied contextFields j j') :
    Json.optional? context? j' = Json.optional? context? j :=
  h.read fun j j' hedit => hedit.optional? (context?_varied (.rel j j' hedit))

theorem callSite?_varied {j j' : Json} (h : Varied callSiteFields j j') : callSite? j' = callSite? j := by
  refine h.record ["site", "pc", "targets"] rfl (by decide) fun j j' hfields => ?_
  unfold callSite?
  generalize fields? _ j = xs, fields? _ j' = ys at hfields
  obtain ⟨_ | ⟨hs, _ | ⟨hp, _ | ⟨hts, _ | _⟩⟩⟩⟩ | _ := hfields
  · dsimp only
    rw [hs.plain, hp.plain, hts.spelled ?_]
    rintro j rfl
    rfl
  · rfl

theorem named_of_names {α : Type} [Named α] {name : String} {j : Json} (h : Names name j) :
    (named? j : Option α) = Named.ofName? name := by
  rcases h with rfl | rfl
  · rfl
  · rfl

theorem options?_varied {j j' : Json} (h : Varied optionFields j j') : options? j' = options? j := by
  refine h.record ["reflection", "handle_static_init", "handle_zero_length_array", "use_constant_specific_keys",
    "use_stacks_for_lexical_scoping", "use_lexical_scoping_for_globals"] rfl (by decide) fun j j' hfields => ?_
  unfold options?
  generalize fields? _ j = xs, fields? _ j' = ys at hfields
  obtain ⟨_ | ⟨hr, _ | ⟨hi, _ | ⟨hz, _ | ⟨hk, _ | ⟨hs, _ | ⟨hg, _ | _⟩⟩⟩⟩⟩⟩⟩ | _ := hfields
  · dsimp only
    rw [hr.spelled ?reflection, hi.spelled ?_, hz.spelled ?_, hk.spelled ?_, hs.spelled ?_, hg.spelled ?_]
    case reflection =>
      intro j h
      rw [named_of_names h]
      rfl
    all_goals
      rintro j rfl
      rfl
  · rfl

/-! ## Contexts that are left out -/

theorem kind_of_saysEverywhere {j : Json} (h : SaysEverywhere j) {kind entries : Option Json}
    (hfields : fields? ["kind", "entries"] j = some [kind, entries]) : kind = some (.string (some "everywhere")) := by
  cases j with
  | object members =>
    rw [fields?_object] at hfields
    obtain ⟨known, hknown, hfields⟩ := Option.bind_eq_some_iff.1 hfields
    rw [List.mapM_cons] at hfields
    obtain ⟨found, hfound, hfields⟩ := Option.bind_eq_some_iff.1 hfields
    obtain ⟨rest, -, hfields⟩ := Option.bind_eq_some_iff.1 hfields
    obtain ⟨rfl, -⟩ := List.cons.inj (Option.some.inj hfields)
    exact eq_of_member? (mem_legible? h hknown) hfound
  | array items =>
    obtain ⟨rest, rfl⟩ := List.head?_eq_some_iff.1 h
    rw [fields?] at hfields
    by_cases hle : (Json.string (some "everywhere") :: rest).length ≤ ["kind", "entries"].length
    · rw [if_pos hle] at hfields
      exact (List.cons.inj (Option.some.inj hfields)).1.symm
    · rw [if_neg hle] at hfields
      cases hfields
  | _ => exact h.elim

/-- A context that says so is that of all callers, if it can be read. -/
theorem context?_saysEverywhere {j : Json} (h : SaysEverywhere j) (hread : (context? j).isSome) :
    context? j = some .everywhere := by
  obtain ⟨context, hcontext⟩ := Option.isSome_iff_exists.1 hread
  unfold context? at hcontext ⊢
  split at hcontext
  · next kind entries hfields =>
    obtain rfl := kind_of_saysEverywhere h hfields
    cases hentries : Json.defaulted [] (list? contextEntry?) entries with
    | none =>
      rw [hentries] at hcontext
      nomatch hcontext
    | some known =>
      rfl
  · nomatch hcontext

/-- The context of a node, as it is written or left out. -/
def nodeContext? (field : Option Json) : Option Context :=
  (Json.defaulted none (Json.optional? context?) field).map (·.getD .everywhere)

theorem nodeContext?_insensitive {j : Json} (h : Insensitive j) : nodeContext? (some j) = some .everywhere := by
  rcases h with rfl | ⟨hkind, hread⟩
  · rfl
  · have hcontext := context?_saysEverywhere hkind hread
    cases j with
    | null => rfl
    | _ => simp only [nodeContext?, Json.defaulted, Json.optional?, hcontext, Option.map_some, Option.getD_some]

theorem node?_eq (j : Json) :
    node? j = match fields? ["id", "method", "context", "call_sites"] j with
      | some [i, m, c, ss] => do
        let context ← nodeContext? c
        return ⟨⟨← required word? i⟩, ⟨← required word? m⟩, context, ← Json.defaulted [] (list? callSite?) ss⟩
      | _ => none := by
  unfold node? nodeContext?
  match fields? ["id", "method", "context", "call_sites"] j with
  | some [i, m, c, ss] =>
    dsimp only
    cases Json.defaulted none (Json.optional? context?) c <;> rfl
  | none | some [] | some [_] | some [_, _] | some [_, _, _] | some (_ :: _ :: _ :: _ :: _ :: _) => rfl

theorem nodeContext?_alike {x y : Option Json} (h : contextField.Alike x y) : nodeContext? y = nodeContext? x := by
  refine h.read ?_ ?_
  · rintro j j' (h | ⟨h, h'⟩)
    · simp only [nodeContext?, Json.defaulted, optional_context?_varied h]
    · rw [nodeContext?_insensitive h, nodeContext?_insensitive h']
  · intro j h
    rw [nodeContext?_insensitive h]
    rfl

theorem node?_varied {j j' : Json} (h : Varied nodeFields j j') : node? j' = node? j := by
  refine h.record ["id", "method", "context", "call_sites"] rfl (by decide) fun j j' hfields => ?_
  rw [node?_eq, node?_eq]
  generalize fields? _ j = xs, fields? _ j' = ys at hfields
  obtain ⟨_ | ⟨hi, _ | ⟨hm, _ | ⟨hc, _ | ⟨hss, _ | _⟩⟩⟩⟩⟩ | _ := hfields
  · dsimp only
    rw [hi.plain, hm.plain, nodeContext?_alike hc, hss.listed @callSite?_varied]
  · rfl

/-! ## Documents -/

/-- However a snapshot is written, it is the same snapshot. -/
theorem ofJson?_varied {j j' : Json} (h : Varied snapshotFields j j') : ofJson? j' = ofJson? j := by
  refine h.record ["policy", "sensitivity", "options", "methods", "nodes"] rfl (by decide) fun j j' hfields => ?_
  unfold ofJson?
  generalize fields? _ j = xs, fields? _ j' = ys at hfields
  obtain ⟨_ | ⟨hp, _ | ⟨hs, _ | ⟨ho, _ | ⟨hms, _ | ⟨hns, _ | _⟩⟩⟩⟩⟩⟩ | _ := hfields
  · dsimp only
    rw [hp.plain, hs.spelled ?sensitivity, ho.defaulted (fun _ _ h => options?_varied h) ?options,
      hms.listed @method?_varied, hns.listed @node?_varied]
    case sensitivity =>
      rintro j rfl
      rfl
    case options =>
      rintro j (rfl | rfl)
      · rfl
      · rfl
  · rfl

theorem load_of_json {t : FileTree} {path : String} {l : Location} {content : ByteArray} {j : Json}
    (hfile : t.find path = .ok (l, .file content)) (hj : Json.ofBytes? content = some j) {s : Snapshot}
    (hs : ofJson? j = some s) : load t path = .ok s := by
  simp only [load, hfile, hj, Option.bind_some, hs]

end CallGraph.Snapshot

namespace CallGraph

open Json Snapshot

/-- An engine that replays a snapshot depends on what the snapshot says, not on how it is written: after any edits of a
document that can be read, every request is answered the same, wherever the token stops the replay. -/
theorem ofSnapshot_varied {path : String} {files files' : FileTree} {l l' : Location} {content content' : ByteArray}
    {j j' : Json} (hfile : files.find path = .ok (l, .file content))
    (hfile' : files'.find path = .ok (l', .file content')) (hj : Json.ofBytes? content = some j)
    (hj' : Json.ofBytes? content' = some j') (hread : (Snapshot.ofJson? j).isSome) (h : Varied snapshotFields j j')
    (request : Request) (stop : Nat → Bool) :
    Engine.ofSnapshot path files' request stop = Engine.ofSnapshot path files request stop := by
  obtain ⟨s, hs⟩ := Option.isSome_iff_exists.1 hread
  have hload := load_of_json hfile hj hs
  have hload' := load_of_json hfile' hj' ((ofJson?_varied h).trans hs)
  rw [Engine.ofSnapshot, Engine.ofSnapshot, hload, hload']

section Witness

def number (digit : Char) : Json := .number { whole := [digit] }

/-- A node whose context is written out. -/
def plainNode : Json :=
  .object [(some "id", number '7'), (some "method", number '0'),
    (some "context", .object [(some "kind", .string (some "everywhere"))])]

/-- The same node in another order, without its context, with its call sites and a note that nobody reads. -/
def notedNode : Json :=
  .object [(some "call_sites", .array []), (some "note", .bool true), (some "method", number '0'),
    (some "id", number '7')]

def plainSnapshot : Json :=
  .object [(some "policy", .string (some "zero-cfa")), (some "nodes", .array [plainNode])]

def notedSnapshot : Json :=
  .object [(some "sensitivity", number '1'), (some "nodes", .array [notedNode]),
    (some "policy", .string (some "zero-cfa"))]

def plainText : String :=
  "\x7b\"policy\":\"zero-cfa\",\"nodes\":" ++
    "[\x7b\"id\":7,\"method\":0,\"context\":\x7b\"kind\":\"everywhere\"\x7d\x7d]\x7d"

def notedText : String :=
  "\x7b\"sensitivity\":1,\"nodes\":[\x7b\"call_sites\":[],\"note\":true,\"method\":0,\"id\":7\x7d]," ++
    "\"policy\":\"zero-cfa\"\x7d"

theorem read_plainText : Json.ofBytes? plainText.toUTF8 = some plainSnapshot := by
  rw [Json.ofBytes?_toUTF8]
  cbv

theorem read_notedText : Json.ofBytes? notedText.toUTF8 = some notedSnapshot := by
  rw [Json.ofBytes?_toUTF8]
  cbv

theorem plainNode_varied : Varied nodeFields plainNode notedNode := by
  let id : Option String × Json := (some "id", number '7')
  let method : Option String × Json := (some "method", number '0')
  let context : Option String × Json := (some "context", .object [(some "kind", .string (some "everywhere"))])
  let note : Option String × Json := (some "note", .bool true)
  have hfirst : Edit nodeFields (.object ([id, method] ++ [context])) (.object ([context] ++ [id, method])) :=
    .reorder List.perm_append_comm
  have hcontext : Edit nodeFields (.object [id, method]) (.object [context, id, method]) :=
    .spellOut (f := contextField) (by simp [nodeFields]) (by decide) (.inr ⟨List.mem_singleton_self _, rfl⟩)
  have hturned : Edit nodeFields (.object [id, method]) (.object [method, id]) := .reorder (.swap _ _ _)
  have hnote : Edit nodeFields (.object [method, id]) (.object [note, method, id]) := .unknown (by decide) _
  have hsites : Edit nodeFields (.object [note, method, id]) notedNode :=
    .spellOut (f := { name := "call_sites", swap := Each (Varied callSiteFields), standard := (· = .array []) })
      (by simp [nodeFields]) (by decide) rfl
  exact hfirst.varied.trans (hcontext.varied.symm.trans (hturned.varied.trans (hnote.varied.trans hsites.varied)))

theorem plainSnapshot_varied : Varied snapshotFields plainSnapshot notedSnapshot := by
  let policy : Option String × Json := (some "policy", .string (some "zero-cfa"))
  have hfirst : Edit snapshotFields plainSnapshot (.object [(some "nodes", .array [plainNode]), policy]) :=
    .reorder (.swap _ _ _)
  have hnodes : Edit snapshotFields (.object [(some "nodes", .array [plainNode]), policy])
      (.object [(some "nodes", .array [notedNode]), policy]) :=
    .member (f := { name := "nodes", swap := Each (Varied nodeFields), standard := (· = .array []) })
      (by simp [snapshotFields]) (.items (.cons plainNode_varied .nil))
  have hdepth : Edit snapshotFields (.object [(some "nodes", .array [notedNode]), policy]) notedSnapshot :=
    .spellOut (f := { name := "sensitivity", standard := (· = .number { whole := ['1'] }) })
      (by simp [snapshotFields]) (by decide) rfl
  exact hfirst.varied.trans (hnodes.varied.trans hdepth.varied)

/-- The two texts are one snapshot to the engine. -/
theorem ofSnapshot_notedText :
    Engine.ofSnapshot "/g" ⟨[(["g"], .file notedText.toUTF8)], []⟩ narrowRequest (fun _ => false) =
      Engine.ofSnapshot "/g" ⟨[(["g"], .file plainText.toUTF8)], []⟩ narrowRequest (fun _ => false) := by
  have hroot : FileTree.AtRoot "/g" "g" := by decide
  have hfile (text : String) : FileTree.find ⟨[(["g"], .file text.toUTF8)], []⟩ "/g" = .ok (["g"], .file text.toUTF8) :=
    hroot.find (by simp [FileTree.get?]) (by simp)
  exact ofSnapshot_varied (hfile plainText) (hfile notedText) read_plainText read_notedText (by decide)
    plainSnapshot_varied narrowRequest fun _ => false

end Witness

end CallGraph
