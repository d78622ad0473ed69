import CallGraph.Toml.Document
import CallGraph.Toml.Number
/-!
# Writing TOML

The written form of a document: a line for each assignment, an empty line in front of each header but the first, and an
array of two items or more over several lines.

Text is quoted in the plainest way that needs no escape (`Quoting.of`): between quotes, between apostrophes, and then
between three of them. Only text that no such way can hold is written with escapes.
-/

namespace CallGraph.Toml

/-! ## Text -/

/-- The characters that need a code wherever they stand: control characters other than the tab and the line feed. -/
def isControl (c : Char) : Bool := (c < ' ' && c ≠ '\t' && c ≠ '\n') || c = '\x7f'

/-- The length of the longest run of `c`. -/
def longestRun (c : Char) (s : List Char) : Nat :=
  (s.foldl (fun (run, longest) d => if d = c then (run + 1, max longest (run + 1)) else (0, longest)) (0, 0)).2

/-- A way to quote text: by which character, and how many times. -/
structure Quoting where
  literal : Bool
  multiline : Bool
  deriving DecidableEq, Repr

/-- The way in which `s` is quoted. -/
def Quoting.of (s : List Char) : Quoting :=
  let control := s.any isControl
  let lines := s.contains '\n'
  let slash := s.contains '\\'
  let quotes := longestRun '"' s
  let apostrophes := longestRun '\'' s
  if !control && !slash && quotes = 0 && !lines then ⟨false, false⟩
  else if !control && apostrophes = 0 && !lines then ⟨true, false⟩
  else if !control && !slash && quotes ≤ 2 then ⟨false, true⟩
  else if !control && apostrophes ≤ 2 then ⟨true, true⟩
  else ⟨false, lines⟩

def hexUpper (n : Nat) : Char :=
  if n < 10 then Char.ofNat ('0'.toNat + n) else Char.ofNat ('A'.toNat + (n - 10))

/-- The escape for `c`, if it has to be written with one. -/
def escape? (multiline : Bool) (c : Char) : Option (List Char) :=
  match c with
  | '\x08' => some ['\\', 'b']
  | '\t' => some ['\\', 't']
  | '\n' => if multiline then none else some ['\\', 'n']
  | '\x0c' => some ['\\', 'f']
  | '\r' => some ['\\', 'r']
  | '\\' => some ['\\', '\\']
  | c => if isControl c then some ['\\', 'u', '0', '0', hexUpper (c.toNat / 16), hexUpper (c.toNat % 16)] else none

/-- Text between quotes. `free` is the number of quotes that may still stand for themselves, `limit` the number that may
do so in a row. -/
def escaped (multiline : Bool) (limit : Nat) : (free : Nat) → List Char → List Char
  | _, [] => []
  | free, c :: rest =>
    if c = '"' then
      match free with
      | 0 => '\\' :: '"' :: escaped multiline limit limit rest
      | free + 1 => '"' :: escaped multiline limit free rest
    else (escape? multiline c).getD [c] ++ escaped multiline limit limit rest

/-- The quotes around text. -/
def Quoting.mark (q : Quoting) : List Char :=
  List.replicate (if q.multiline then 3 else 1) (if q.literal then '\'' else '"')

/-- Text as it is written. Between three quotes, text with a line feed begins on a line of its own. -/
def quote (s : List Char) : List Char :=
  let q := Quoting.of s
  let limit := if q.multiline then 2 else 0
  q.mark ++ (if q.multiline && s.contains '\n' then ['\n'] else []) ++
    (if q.literal then s else escaped q.multiline limit limit s) ++ q.mark

/-! ## Values and documents -/

/-- A value without parts as it is written. -/
def plain? : Toml → Option (List Char)
  | .string s => some (quote s.toList)
  | .integer n => (Number.word? n).map fun n => (toString n).toList
  | .boolean b => some (toString b).toList
  | .float text | .moment text => some text.toList
  | .array _ | .table _ => none

/-- The written items of an array. -/
def arranged : List (List Char) → List Char
  | [] => ['[', ']']
  | [item] => '[' :: item ++ [']']
  | items => '[' :: '\n' :: items.flatMap (fun item => [' ', ' ', ' ', ' '] ++ item ++ [',', '\n']) ++ [']']

/-- A value as it is written. Tables are written by headers, and arrays hold values without parts. -/
def written? : Toml → Option (List Char)
  | .array items => (items.mapM plain?).map arranged
  | v => plain? v

/-- One part of a key as it is written. -/
def keyText (name : String) : List Char :=
  let cs := name.toList
  if cs.isEmpty || cs.any (!isBare ·) then '"' :: escaped false 0 0 cs ++ ['"'] else cs

def Key.written (k : Key) : List Char :=
  ['.'].intercalate (k.parts.map keyText)

def Header.written (h : Header) : List Char :=
  if h.repeated then ['[', '['] ++ h.key.written ++ [']', ']'] else '[' :: h.key.written ++ [']']

def Assignment.written? (a : Assignment) : Option (List Char) :=
  (Toml.written? a.value).map fun v => a.key.written ++ [' ', '=', ' '] ++ v

/-- A statement as it is written, on lines of its own. -/
def Statement.written? : Statement → Option (List Char)
  | .assign a => a.written?.map (· ++ ['\n'])
  | .header h => some ('\n' :: h.written ++ ['\n'])

/-- A document as it is written; none if it has a value that cannot be. -/
def Document.text? (d : Document) : Option String :=
  (d.statements.mapM Statement.written?).map fun lines =>
    String.ofList (match lines.flatten with
      | '\n' :: rest => rest
      | text => text)

end CallGraph.Toml
