import CallGraph.Text.Basic
/-!
# Reading quoted text

The four ways in which TOML quotes text: between quotes or apostrophes, one or three of them. Between quotes a backslash
begins an escape; between three of either, line ends are part of the text, and a carriage return before a line feed is
not. Each reader starts behind the opening quotes and gives the text with what is left behind the closing ones.
-/

namespace CallGraph.Toml.Quoted

/-- The characters that may stand for themselves: all but control characters, and of those the tab. -/
def isContent (c : Char) : Bool := c = '\t' || (' ' ≤ c && c ≠ '\x7f')

/-- Puts `c` in front of what a reader gives. -/
def push (c : Char) (read : Option (List Char × List Char)) : Option (List Char × List Char) :=
  read.map fun (text, rest) => (c :: text, rest)

/-- The character that a backslash and `c` stand for. -/
def escaped? (c : Char) : Option Char :=
  match c with
  | 'b' => some '\x08'
  | 't' => some '\t'
  | 'n' => some '\n'
  | 'f' => some '\x0c'
  | 'r' => some '\r'
  | '"' => some '"'
  | '\\' => some '\\'
  | _ => none

/-- How far an escape has been read. -/
inductive Escape
  /-- no escape, or the end of one -/
  | outside
  /-- behind the backslash -/
  | begun
  /-- in a code; `more` digits follow the next one -/
  | code (more : Nat) (value : Nat)
  /-- behind a backslash and blanks, with the end of the line to come -/
  | lineEnd
  /-- in the blanks that an escaped end of line takes with it -/
  | indent
  deriving DecidableEq, Repr

/-- Text between single quotes, in the given state of an escape. -/
def basic? : Escape → List Char → Option (List Char × List Char)
  | _, [] => none
  | .begun, c :: rest =>
    if c = 'u' then basic? (.code 3 0) rest
    else if c = 'U' then basic? (.code 7 0) rest
    else match escaped? c with
      | some e => push e (basic? .outside rest)
      | none => none
  | .code more value, c :: rest =>
    match Text.hexDigit? c, more with
    | none, _ => none
    | some d, more + 1 => basic? (.code more (value * 16 + d)) rest
    | some d, 0 =>
      match Text.scalar? (value * 16 + d) with
      | some e => push e (basic? .outside rest)
      | none => none
  | _, c :: rest =>
    if c = '"' then some ([], rest)
    else if c = '\\' then basic? .begun rest
    else if isContent c then push c (basic? .outside rest)
    else none

/-- The end of text between three `quote`s: up to two more of them belong to the text. -/
def closing? (quote : Char) (s : List Char) : Option (List Char × List Char) :=
  let run := (s.takeWhile (· = quote)).length
  if run < 3 then none
  else
    let kept := min (run - 3) 2
    some (List.replicate kept quote, s.drop (3 + kept))

/-- Text between three quotes, in the given state of an escape. -/
def multilineBasic? : Escape → List Char → Option (List Char × List Char)
  | _, [] => none
  | .begun, c :: rest =>
    if c = 'u' then multilineBasic? (.code 3 0) rest
    else if c = 'U' then multilineBasic? (.code 7 0) rest
    else if c = '\n' then multilineBasic? .indent rest
    else if c = ' ' || c = '\t' || (c = '\r' && rest.head? = some '\n') then multilineBasic? .lineEnd rest
    else match escaped? c with
      | some e => push e (multilineBasic? .outside rest)
      | none => none
  | .code more value, c :: rest =>
    match Text.hexDigit? c, more with
    | none, _ => none
    | some d, more + 1 => multilineBasic? (.code more (value * 16 + d)) rest
    | some d, 0 =>
      match Text.scalar? (value * 16 + d) with
      | some e => push e (multilineBasic? .outside rest)
      | none => none
  | .lineEnd, c :: rest =>
    if c = '\n' then multilineBasic? .indent rest
    else if c = ' ' || c = '\t' || (c = '\r' && rest.head? = some '\n') then multilineBasic? .lineEnd rest
    else none
  | state, c :: rest =>
    if state = .indent && (c = ' ' || c = '\t' || c = '\n' || (c = '\r' && rest.head? = some '\n')) then
      multilineBasic? .indent rest
    else if c = '"' then
      match closing? '"' (c :: rest) with
      | some closed => some closed
      | none => push c (multilineBasic? .outside rest)
    else if c = '\\' then multilineBasic? .begun rest
    else if c = '\r' then (if rest.head? = some '\n' then multilineBasic? .outside rest else none)
    else if c = '\n' || isContent c then push c (multilineBasic? .outside rest)
    else none

/-- Text between single apostrophes. -/
def literal? : List Char → Option (List Char × List Char)
  | [] => none
  | c :: rest =>
    if c = '\'' then some ([], rest)
    else if isContent c then push c (literal? rest)
    else none

/-- Text between three apostrophes. -/
def multilineLiteral? : List Char → Option (List Char × List Char)
  | [] => none
  | c :: rest =>
    if c = '\'' then
      match closing? '\'' (c :: rest) with
      | some closed => some closed
      | none => push c (multilineLiteral? rest)
    else if c = '\r' then (if rest.head? = some '\n' then multilineLiteral? rest else none)
    else if c = '\n' || isContent c then push c (multilineLiteral? rest)
    else none

/-- Drops an end of line right behind opening quotes. -/
def dropLineEnd : List Char → List Char
  | '\n' :: rest => rest
  | '\r' :: '\n' :: rest => rest
  | s => s

/-- Text on one line, from its opening quote. -/
def quoted? : List Char → Option (List Char × List Char)
  | '"' :: rest => basic? .outside rest
  | '\'' :: rest => literal? rest
  | _ => none

/-- Quoted text of any kind, from its opening quotes. -/
def text? : List Char → Option (List Char × List Char)
  | '"' :: '"' :: '"' :: rest => multilineBasic? .outside (dropLineEnd rest)
  | '\'' :: '\'' :: '\'' :: rest => multilineLiteral? (dropLineEnd rest)
  | s => quoted? s

end CallGraph.Toml.Quoted
