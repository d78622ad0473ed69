import CallGraph.Toml.Value
/-!
# TOML documents

A document is what its lines say, one after the other: assignments to keys, and headers that say which table the
assignments below them are for. `Document.table?` is the table a document describes. It refuses what names a key twice:
a table has one header at most, and dotted keys add only to tables that dotted keys made.
-/

namespace CallGraph.Toml

/-- A key with its parts between dots. `path` leads to the table that `name` is in. -/
structure Key where
  path : List String
  name : String
  deriving DecidableEq, Repr

def Key.parts (k : Key) : List String := k.path ++ [k.name]

/-- The characters of a part of a key that needs no quotes. -/
def isBare (c : Char) : Bool := c.isAlphanum || c = '_' || c = '-'

structure Assignment where
  key : Key
  value : Toml

/-- The header of a table, or of one more table of an array of tables. -/
structure Header where
  key : Key
  repeated : Bool
  deriving DecidableEq, Repr

/-- A header with the assignments below it. -/
structure Section where
  header : Header
  body : List Assignment

structure Document where
  /-- the assignments above the first header -/
  top : List Assignment
  sections : List Section

/-! ## Statements -/

/-- What one line says, or several lines around a value. -/
inductive Statement
  | assign (a : Assignment)
  | header (h : Header)

/-- The statements of a document, in order. -/
def Document.statements (d : Document) : List Statement :=
  d.top.map .assign ++ d.sections.flatMap fun s => .header s.header :: s.body.map .assign

def Document.ofStatements : List Statement → Document
  | [] => ⟨[], []⟩
  | .assign a :: rest => let d := ofStatements rest; ⟨a :: d.top, d.sections⟩
  | .header h :: rest => let d := ofStatements rest; ⟨[], ⟨h, d.top⟩ :: d.sections⟩

theorem Document.ofStatements_assign (as : List Assignment) (rest : List Statement) :
    ofStatements (as.map .assign ++ rest) = ⟨as ++ (ofStatements rest).top, (ofStatements rest).sections⟩ := by
  induction as with
  | nil => rfl
  | cons a as ih => simp [ofStatements, ih]

theorem Document.ofStatements_statements (d : Document) : ofStatements d.statements = d := by
  obtain ⟨top, sections⟩ := d
  have h : ofStatements (sections.flatMap fun s => .header s.header :: s.body.map .assign) = ⟨[], sections⟩ := by
    induction sections with
    | nil => rfl
    | cons s rest ih => simp [List.flatMap_cons, ofStatements, ofStatements_assign, ih]
  simp [statements, ofStatements_assign, h]

/-! ## Tables in the making -/

/-- What made a table: its own header, the header of a table below it, or a dotted key. -/
inductive Maker
  | header | below | dots
  deriving DecidableEq, Repr

/-- What a key stands for while a document is read. -/
inductive Item
  | value (v : Toml)
  | table (maker : Maker) (entries : List (String × Item))
  | tables (elements : List (List (String × Item)))

/-- The entries of a table in the making. -/
abbrev Entries := List (String × Item)

mutual

def Item.toml : Item → Toml
  | .value v => v
  | .table _ entries => .table (Item.tomlEntries entries)
  | .tables elements => .array (Item.tomlElements elements)

def Item.tomlEntries : List (String × Item) → List (String × Toml)
  | [] => []
  | (key, i) :: rest => (key, i.toml) :: Item.tomlEntries rest

def Item.tomlElements : List (List (String × Item)) → List Toml
  | [] => []
  | entries :: rest => .table (Item.tomlEntries entries) :: Item.tomlElements rest

end

namespace Entries

/-- Lets `f` say what `key` stands for, from what it stood for; none if `f` refuses. A new key comes last. -/
def alter? (key : String) (f : Option Item → Option Item) : Entries → Option Entries
  | [] => (f none).map fun i => [(key, i)]
  | (k, i) :: rest =>
    if k = key then (f (some i)).map fun i => (k, i) :: rest else (alter? key f rest).map ((k, i) :: ·)

/-- Changes the last of several tables. -/
def last? (f : Entries → Option Entries) : List Entries → Option (List Entries)
  | [] => none
  | [t] => (f t).map ([·])
  | t :: rest => (last? f rest).map (t :: ·)

/-- Lets `name` in the table at the end of `path` stand for `v`. -/
def assign? (name : String) (v : Toml) : List String → Entries → Option Entries
  | [], entries => alter? name (fun | none => some (.value v) | some _ => none) entries
  | key :: path, entries =>
    alter? key (fun
      | none => (assign? name v path []).map (.table .dots)
      | some (.table maker inner) =>
        if maker = .header || (path.isEmpty && maker ≠ .dots) then none
        else (assign? name v path inner).map (.table maker)
      | some (.tables elements) => if path.isEmpty then none else (last? (assign? name v path) elements).map .tables
      | some (.value _) => none) entries

/-- Carries out assignments one after the other. -/
def assignAll? (entries : Entries) (assignments : List Assignment) : Option Entries :=
  assignments.foldlM (fun entries a => assign? a.key.name a.value a.key.path entries) entries

/-- What a header and the assignments below it make of the key that it names. -/
def define? (repeated : Bool) (body : List Assignment) (old : Option Item) : Option Item :=
  match repeated, old with
  | false, none => (assignAll? [] body).map (.table .header)
  | false, some (.table .below inner) => (assignAll? inner body).map (.table .header)
  | true, none => (assignAll? [] body).map (.tables [·])
  | true, some (.tables elements) => (assignAll? [] body).map fun t => .tables (elements ++ [t])
  | _, _ => none

/-- Puts a section into the table at the end of `path`; tables missing on the way are made. -/
def enter? (s : Section) : List String → Entries → Option Entries
  | [], entries => alter? s.header.key.name (define? s.header.repeated s.body) entries
  | key :: path, entries =>
    alter? key (fun
      | none => (enter? s path []).map (.table .below)
      | some (.table maker inner) => (enter? s path inner).map (.table maker)
      | some (.tables elements) => (last? (enter? s path) elements).map .tables
      | some (.value _) => none) entries

end Entries

/-- The table that assignments between braces make. -/
def inline? (assignments : List Assignment) : Option Toml :=
  (Entries.assignAll? [] assignments).map fun entries => .table (Item.tomlEntries entries)

/-- The table that a document describes. -/
def Document.table? (d : Document) : Option Toml := do
  let top ← Entries.assignAll? [] d.top
  let entries ← d.sections.foldlM (fun entries s => Entries.enter? s s.header.key.path entries) top
  pure (.table (Item.tomlEntries entries))

end CallGraph.Toml
