import CallGraph.Toml.Document
import CallGraph.Toml.Moment
import CallGraph.Toml.Number
import CallGraph.Toml.Quoted
/-!
# Reading TOML

From text to a document, line by line, and from there to a value (`ofText?`). Arrays and inline tables stand in one
another at most `depthLimit` deep, and a dotted key has fewer parts than that.
-/

namespace CallGraph.Toml

/-- The depth at which nested values are refused, and the number of parts at which a key is. -/
def depthLimit : Nat := 80

/-! ## Between values -/

def isBlank (c : Char) : Bool := c = ' ' || c = '\t'

def skipBlanks (s : List Char) : List Char := s.dropWhile isBlank

/-- What is left behind the end of a line: blanks, perhaps a comment, and a line feed or the end of the text. -/
def afterLine? (inComment : Bool) : List Char → Option (List Char)
  | [] => some []
  | c :: rest =>
    if c = '\n' then some rest
    else if c = '\r' then (if rest.head? = some '\n' then afterLine? inComment rest else none)
    else if inComment then (if Quoted.isContent c then afterLine? true rest else none)
    else if isBlank c then afterLine? false rest
    else if c = '#' then afterLine? true rest
    else none

/-- Skips blanks, comments and ends of lines. -/
def skipLines (inComment : Bool) : List Char → List Char
  | [] => []
  | c :: rest =>
    if c = '\n' then skipLines false rest
    else if c = '\r' then (if rest.head? = some '\n' then skipLines inComment rest else c :: rest)
    else if inComment then (if Quoted.isContent c then skipLines true rest else c :: rest)
    else if isBlank c then skipLines false rest
    else if c = '#' then skipLines true rest
    else c :: rest

/-- What is left behind `c`. -/
def mark? (c : Char) : List Char → Option (List Char)
  | d :: rest => if c = d then some rest else none
  | [] => none

/-! ## Keys -/

/-- One part of a key, quoted or bare. -/
def keyPart? (s : List Char) : Option (String × List Char) :=
  match Quoted.quoted? s with
  | some (text, rest) => some (String.ofList text, rest)
  | none =>
    let name := s.takeWhile isBare
    if name.isEmpty then none else some (String.ofList name, s.dropWhile isBare)

/-- The parts of a key, with blanks around each of them. `fuel` bounds their number. -/
def keyParts? : (fuel : Nat) → List Char → Option (List String × List Char)
  | 0, _ => none
  | fuel + 1, s =>
    match keyPart? (skipBlanks s) with
    | none => none
    | some (name, rest) =>
      match skipBlanks rest with
      | '.' :: rest => (keyParts? fuel rest).map fun (names, rest) => (name :: names, rest)
      | rest => some ([name], rest)

def key? (s : List Char) : Option (Key × List Char) :=
  match keyParts? (depthLimit - 1) s with
  | none => none
  | some (names, rest) => names.getLast?.map fun name => (⟨names.dropLast, name⟩, rest)

/-! ## Values -/

/-- The text that `rest` leaves of `s`. -/
def textBefore (s rest : List Char) : String := String.ofList (s.take (s.length - rest.length))

/-- A number or a moment. -/
def number? (s : List Char) : Option (Toml × List Char) :=
  match Moment.after? s with
  | some rest => some (.moment (textBefore s rest), rest)
  | none =>
    match Number.afterFloat? s with
    | some rest => some (.float (textBefore s rest), rest)
    | none => (Number.integer? s).map fun (n, rest) => (.integer n, rest)

/-- A value without parts. -/
def scalar? (s : List Char) : Option (Toml × List Char) :=
  match Quoted.text? s, Number.afterWord? ['t', 'r', 'u', 'e'] s, Number.afterWord? ['f', 'a', 'l', 's', 'e'] s with
  | some (text, rest), _, _ => some (.string (String.ofList text), rest)
  | none, some rest, _ => some (.boolean true, rest)
  | none, none, some rest => some (.boolean false, rest)
  | none, none, none => number? s

mutual

/-- The value at the front, `depth` brackets deep. Every call takes a character or hands on to one that does, so twice
the number of characters is fuel enough. -/
def value? : (fuel depth : Nat) → List Char → Option (Toml × List Char)
  | 0, _, _ => none
  | fuel + 1, depth, s =>
    match s with
    | '[' :: rest =>
      if depth + 1 < depthLimit then (elements? fuel (depth + 1) rest).map fun (items, rest) => (.array items, rest)
      else none
    | '\x7b' :: rest =>
      if depth + 1 < depthLimit then
        match skipBlanks rest with
        | '\x7d' :: rest => some (.table [], rest)
        | rest =>
          match members? fuel (depth + 1) rest with
          | none => none
          | some (assignments, rest) => (inline? assignments).map fun t => (t, rest)
      else none
    | s => scalar? s

/-- The values up to the closing bracket, with commas between them and perhaps one behind the last. -/
def elements? : (fuel depth : Nat) → List Char → Option (List Toml × List Char)
  | 0, _, _ => none
  | fuel + 1, depth, s =>
    match skipLines false s with
    | ']' :: rest => some ([], rest)
    | s =>
      match value? fuel depth s with
      | none => none
      | some (v, rest) =>
        match skipLines false rest with
        | ',' :: rest => (elements? fuel depth rest).map fun (vs, rest) => (v :: vs, rest)
        | ']' :: rest => some ([v], rest)
        | _ => none

/-- One or more assignments up to the closing brace, with commas between them. -/
def members? : (fuel depth : Nat) → List Char → Option (List Assignment × List Char)
  | 0, _, _ => none
  | fuel + 1, depth, s =>
    match key? s with
    | none => none
    | some (key, rest) =>
      match mark? '=' rest with
      | none => none
      | some rest =>
        match value? fuel depth (skipBlanks rest) with
        | none => none
        | some (v, rest) =>
          match skipBlanks rest with
          | ',' :: rest => (members? fuel depth rest).map fun (more, rest) => (⟨key, v⟩ :: more, rest)
          | '\x7d' :: rest => some ([⟨key, v⟩], rest)
          | _ => none

end

/-! ## Statements -/

def header? (s : List Char) : Option (Header × List Char) := do
  match s with
  | '[' :: '[' :: rest =>
    let (key, rest) ← key? rest
    let rest ← mark? ']' rest
    let rest ← mark? ']' rest
    pure (⟨key, true⟩, rest)
  | '[' :: rest =>
    let (key, rest) ← key? rest
    let rest ← mark? ']' rest
    pure (⟨key, false⟩, rest)
  | _ => none

def assignment? (s : List Char) : Option (Assignment × List Char) := do
  let (key, rest) ← key? s
  let rest ← mark? '=' rest
  let (v, rest) ← value? (2 * rest.length + 2) 0 (skipBlanks rest)
  pure (⟨key, v⟩, rest)

/-- A statement, and what is left behind the line it ends on. -/
def statement? (s : List Char) : Option (Statement × List Char) :=
  match (if s.head? = some '[' then (header? s).map fun (h, rest) => (Statement.header h, rest)
    else (assignment? s).map fun (a, rest) => (Statement.assign a, rest)) with
  | none => none
  | some (statement, rest) => (afterLine? false rest).map (statement, ·)

/-- The statements of a text. Each takes at least a character, so the number of characters is fuel enough. -/
def statements? : (fuel : Nat) → List Char → Option (List Statement)
  | _, [] => some []
  | 0, _ => none
  | fuel + 1, s =>
    match afterLine? false s with
    | some rest => statements? fuel rest
    | none =>
      match statement? (skipBlanks s) with
      | none => none
      | some (statement, rest) => (statements? fuel rest).map (statement :: ·)

/-- Drops a byte order mark at the front. -/
def dropMark (s : List Char) : List Char :=
  if s.head? = some '\uFEFF' then s.tail else s

/-- The document that a text spells. -/
def Document.ofText? (text : String) : Option Document :=
  let s := dropMark text.toList
  (statements? s.length s).map Document.ofStatements

/-- The value that a text describes. -/
def ofText? (text : String) : Option Toml := (Document.ofText? text).bind Document.table?

end CallGraph.Toml
