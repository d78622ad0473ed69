import CallGraph.Settings.Basic
import CallGraph.Toml.Document
/-!
# Settings as a document

Settings as TOML: a table for each of their three parts, with a key for each field (`document`), and the settings that a
TOML value gives (`ofToml?`). Reading is lenient about what is missing, which takes its default, and about keys it does
not know, which it passes over; a value of the wrong kind is refused. A part may also be written as an array of its
fields.
-/

namespace CallGraph.Settings

open Toml (field? named? boolean? word? wide? signed? list? string?)

/-! ## From a value -/

/-- The keys of the analysis table. -/
def Analysis.keys : List String :=
  ["policy", "sensitivity", "reflection", "max_nodes", "timeout_ms", "handle_static_init", "handle_zero_length_array",
    "use_constant_specific_keys", "use_stacks_for_lexical_scoping", "use_lexical_scoping_for_globals", "exclusions"]

def Analysis.ofToml? (t : Toml) : Option Analysis := do
  let standard : Analysis := {}
  let get ← t.fields? keys
  pure {
    policy := ← field? standard.policy named? (get "policy")
    sensitivity := ← field? standard.sensitivity word? (get "sensitivity")
    reflection := ← field? standard.reflection named? (get "reflection")
    maxNodes := ← field? standard.maxNodes signed? (get "max_nodes")
    timeout := ← field? standard.timeout wide? (get "timeout_ms")
    staticInit := ← field? standard.staticInit boolean? (get "handle_static_init")
    zeroLengthArray := ← field? standard.zeroLengthArray boolean? (get "handle_zero_length_array")
    constantSpecificKeys := ← field? standard.constantSpecificKeys boolean? (get "use_constant_specific_keys")
    stacksForLexicalScoping :=
      ← field? standard.stacksForLexicalScoping boolean? (get "use_stacks_for_lexical_scoping")
    lexicalScopingForGlobals :=
      ← field? standard.lexicalScopingForGlobals boolean? (get "use_lexical_scoping_for_globals")
    exclusions := ← field? standard.exclusions (fun v => v.string?.map some) (get "exclusions") }

/-- The keys of the resolution table. -/
def Resolution.keys : List String :=
  ["source_numbers", "source_text", "exclude_synthetic", "frame_order", "site_match", "context_detail",
    "source_archives"]

def Resolution.ofToml? (t : Toml) : Option Resolution := do
  let standard : Resolution := {}
  let get ← t.fields? keys
  pure {
    sourceNumbers := ← field? standard.sourceNumbers boolean? (get "source_numbers")
    sourceText := ← field? standard.sourceText boolean? (get "source_text")
    excludeSynthetic := ← field? standard.excludeSynthetic boolean? (get "exclude_synthetic")
    frameOrder := ← field? standard.frameOrder named? (get "frame_order")
    siteMatch := ← field? standard.siteMatch named? (get "site_match")
    contextDetail := ← field? standard.contextDetail named? (get "context_detail")
    sourceArchives := ← field? standard.sourceArchives (list? string?) (get "source_archives") }

/-- The keys of the output table. -/
def Output.keys : List String := ["format", "chunk_size"]

def Output.ofToml? (t : Toml) : Option Output := do
  let standard : Output := {}
  let get ← t.fields? keys
  pure {
    encoding := ← field? standard.encoding named? (get "format")
    chunkSize := ← field? standard.chunkSize wide? (get "chunk_size") }

/-- The keys of the tables. -/
def keys : List String := ["analysis", "resolution", "output"]

/-- The settings that a value gives. -/
def ofToml? (t : Toml) : Option Settings := do
  let get ← t.fields? keys
  pure {
    analysis := ← field? {} Analysis.ofToml? (get "analysis")
    resolution := ← field? {} Resolution.ofToml? (get "resolution")
    output := ← field? {} Output.ofToml? (get "output") }

/-! ## To a document -/

/-- A value chosen by name. -/
def named {α : Type} [Named α] (a : α) : Toml := .string (Named.name a)

def Analysis.entries (a : Analysis) : List (String × Toml) :=
  [("policy", named a.policy), ("sensitivity", .integer a.sensitivity.toNat), ("reflection", named a.reflection),
    ("max_nodes", .integer a.maxNodes.toInt), ("timeout_ms", .integer a.timeout.toNat),
    ("handle_static_init", .boolean a.staticInit), ("handle_zero_length_array", .boolean a.zeroLengthArray),
    ("use_constant_specific_keys", .boolean a.constantSpecificKeys),
    ("use_stacks_for_lexical_scoping", .boolean a.stacksForLexicalScoping),
    ("use_lexical_scoping_for_globals", .boolean a.lexicalScopingForGlobals)] ++
    (match a.exclusions with
      | some path => [("exclusions", .string path)]
      | none => [])

def Resolution.entries (r : Resolution) : List (String × Toml) :=
  [("source_numbers", .boolean r.sourceNumbers), ("source_text", .boolean r.sourceText),
    ("exclude_synthetic", .boolean r.excludeSynthetic), ("frame_order", named r.frameOrder),
    ("site_match", named r.siteMatch), ("context_detail", named r.contextDetail),
    ("source_archives", .array (r.sourceArchives.map .string))]

def Output.entries (o : Output) : List (String × Toml) :=
  [("format", named o.encoding), ("chunk_size", .integer o.chunkSize.toNat)]

/-- A table of the document, with its entries. -/
def part (name : String) (entries : List (String × Toml)) : Toml.Section where
  header := ⟨⟨[], name⟩, false⟩
  body := entries.map fun (key, v) => ⟨⟨[], key⟩, v⟩

/-- The document of settings. -/
def document (s : Settings) : Toml.Document where
  top := []
  sections :=
    [part "analysis" s.analysis.entries, part "resolution" s.resolution.entries,
      part "output" s.output.entries]

end CallGraph.Settings
