import CallGraph.Graph
import CallGraph.Source.Archive
import Std.Data.HashMap
/-!
# Source lines

Where in the source a call site stands. The line comes from the method's line table; its text, if wanted, from the first
archive that holds the source file. What was read of an archive is remembered, failures included: each archive is listed
once, and each of its entries read once, at the first need.
-/

namespace CallGraph

/-- The instruction that stands for a call site, with its index: among those with the site's text the one at its very
offset, or else the first or the last. -/
def Method.instructionOf? (m : Method) (s : CallSite) (rule : SiteMatch) : Option (Instruction × Nat) :=
  let matching := m.instructions.zipIdx.filter fun x => x.1.isCallSite && x.1.site = some s.site
  match matching.find? fun x => x.1.offset = some s.pc with
  | some x => some x
  | none =>
    match rule with
    | .first => matching.head?
    | .last => matching.getLast?

/-- The line of a call site, if it has one. Synthetic methods have no source. -/
def Method.siteLine (m : Method) (s : CallSite) (rule : SiteMatch) : Except Unresolved (Option UInt32) :=
  if m.synthetic then .ok none
  else match m.instructionOf? s rule with
    | none => .ok none
    | some (_, index) =>
      match m.offset? index with
      | none => .error (.missingOffset m.signature index)
      | some pc => .ok (m.line? pc)

/-- A line of a source file; `text` is what it says, if that was asked for and found. -/
structure SourceLine where
  file : String
  line : UInt32
  text : Option String := none
  deriving DecidableEq, Repr

def SourceLine.display (l : SourceLine) : String :=
  match l.text with
  | some text => s!"{l.file}:{l.line}: {String.ofList (Text.trim text.toList)}"
  | none => s!"{l.file}:{l.line}"

/-- An archive and what is remembered of it: its entries, and the lines of those that were read. -/
structure Shelf where
  archive : Archive
  listing : Option (List String) := none
  texts : Std.HashMap String (Option (Array String)) := {}

namespace Shelf

/-- The entries of the archive. They are listed now, unless they were before; an archive that cannot be listed has no
entries. -/
def entries (s : Shelf) (t : FileTree) : List String :=
  match s.listing with
  | some names => names
  | none => (s.archive.entryNames t).toOption.getD []

/-- The lines of an entry. It is read now, unless it was before. -/
def linesOf (s : Shelf) (t : FileTree) (entry : String) : Option (Array String) :=
  match s.texts[entry]? with
  | some lines => lines
  | none => (s.archive.readEntry t entry).toOption.map fun text =>
      ((Text.lines text.toList).map String.ofList).toArray

def rememberEntries (s : Shelf) (t : FileTree) : Shelf := { s with listing := some (s.entries t) }

def rememberLines (s : Shelf) (t : FileTree) (entry : String) : Shelf :=
  { s with texts := s.texts.insert entry (s.linesOf t entry) }

end Shelf

/-- Line `line` of the file `candidate` on the first shelf that has it, and the shelves afterwards. -/
def Shelf.search (t : FileTree) (candidate : String) (line : UInt32) : List Shelf → Option String × List Shelf
  | [] => (none, [])
  | s :: rest =>
    let s := s.rememberEntries t
    match Archive.findEntry? (s.entries t) candidate with
    | none =>
      let (text, rest) := Shelf.search t candidate line rest
      (text, s :: rest)
    | some entry =>
      let s := s.rememberLines t entry
      let text := (s.linesOf t entry).bind fun lines => if line = 0 then none else lines[line.toNat - 1]?
      (text, s :: rest)

/-- Archives to search in order, with what is remembered of them, and the rule for sites that several instructions
match. -/
structure Locator where
  shelves : List Shelf
  rule : SiteMatch

namespace Locator

def ofArchives (archives : List Archive) (rule : SiteMatch) : Locator :=
  ⟨archives.map fun archive => { archive }, rule⟩

/-- The text of a line in the source file of a class. -/
def textOf (loc : Locator) (t : FileTree) (className : String) (line : UInt32) : Option String × Locator :=
  let (text, shelves) := Shelf.search t (ClassName.sourceFile className) line loc.shelves
  (text, { loc with shelves })

/-- The source line of a call site of `m`, with its text if `withText`. -/
def locate (loc : Locator) (t : FileTree) (m : Method) (s : CallSite) (withText : Bool) :
    Except Unresolved (Option SourceLine) × Locator :=
  match m.siteLine s loc.rule with
  | .error cause => (.error cause, loc)
  | .ok none => (.ok none, loc)
  | .ok (some line) =>
    let file := ClassName.sourceFile m.signature.declaringClass
    if withText then
      let (text, loc) := loc.textOf t m.signature.declaringClass line
      (.ok (some { file, line, text }), loc)
    else (.ok (some { file, line }), loc)

end Locator

end CallGraph
