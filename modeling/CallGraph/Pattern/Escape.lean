import CallGraph.Pattern.Basic
import CallGraph.Pattern.Unicode.Folding
/-!
# Atoms of patterns

The parts of a pattern that stand for one character, a set of characters or an assertion: single characters, escapes, and
counts in braces. Each reader gives what it read and what is left; none means that the pattern is malformed.
-/

namespace CallGraph.Pattern

/-- What flags are in force. -/
structure Flags where
  ignoreCase : Bool := false
  multiLine : Bool := false
  dotAll : Bool := false
  returns : Bool := false
  unicode : Bool := true
  /-- blanks and comments between the parts of the pattern do not count -/
  spaced : Bool := false
  deriving DecidableEq, Repr

/-- Passes over blanks and comments. -/
def skipSpace : (inComment : Bool) → List Char → List Char
  | _, [] => []
  | true, c :: rest => skipSpace (c ≠ '\n') rest
  | false, c :: rest =>
    if c = '#' then skipSpace true rest else if Text.isBlank c then skipSpace false rest else c :: rest

namespace Flags

/-- Goes on to the next part of the pattern. -/
def skip (fl : Flags) (s : List Char) : List Char := if fl.spaced then skipSpace false s else s

/-! ## Sets that depend on flags -/

def foldTable (fl : Flags) : List FoldRun :=
  if fl.unicode then Unicode.folding else [⟨⟨'A'.toNat, 'Z'.toNat, 1⟩, 32⟩]

/-- The set with all case variants, if case is ignored. -/
def fold (fl : Flags) (s : Charset) : Charset := if fl.ignoreCase then .folded fl.foldTable s else s

/-- The complement, if `negated`. There is none while only ASCII is matched: it would hold bytes that are no
characters. -/
def negate? (fl : Flags) (negated : Bool) (s : Charset) : Option Charset :=
  if !negated then some s else if fl.unicode then some (.complement s) else none

def word (fl : Flags) : Charset :=
  if fl.unicode then Unicode.word else .runs (Run.listOfText "30-39 41-5A 5F 61-7A")

def digit (fl : Flags) : Charset := if fl.unicode then Unicode.digit else .runs (Run.listOfText "30-39")

def space (fl : Flags) : Charset := if fl.unicode then Unicode.space else .runs (Run.listOfText "9-D 20")

/-- What a dot stands for. -/
def dot? (fl : Flags) : Option Charset :=
  if !fl.unicode then none
  else if fl.dotAll then some (.complement .empty)
  else some (.complement (.runs (Run.listOfText (if fl.returns then "A D" else "A"))))

def lineStart (fl : Flags) : Anchor :=
  if !fl.multiLine then .textStart else if fl.returns then .returnStart else .lineStart

def lineEnd (fl : Flags) : Anchor :=
  if !fl.multiLine then .textEnd else if fl.returns then .returnEnd else .lineEnd

end Flags

/-- A part of a pattern. A character given by a two-digit hexadecimal escape is a `byte` while only ASCII is matched. -/
inductive Atom
  | char (c : Char) (byte : Bool)
  | set (s : Charset)
  | anchor (a : Anchor)

/-! ## Numbers -/

/-- The digits at the front, blanks after each passed over where they do not count. -/
def countDigits (fl : Flags) : (fuel : Nat) → List Char → List Nat × List Char
  | 0, s => ([], s)
  | fuel + 1, s =>
    match s with
    | [] => ([], [])
    | c :: rest =>
      match Text.digit? c with
      | none => ([], s)
      | some d => let (ds, rest) := countDigits fl fuel (fl.skip rest); (d :: ds, rest)

/-- The number of repetitions at the front; blanks around it never count. -/
def count? (fl : Flags) (s : List Char) : Option (Nat × List Char) :=
  let (digits, rest) := countDigits fl s.length (s.dropWhile Text.isBlank)
  let value := Text.ofDigits 10 digits
  if digits.isEmpty || value ≥ UInt32.size then none else some (value, rest.dropWhile Text.isBlank)

/-- Exactly `n` hexadecimal digits. -/
def hexDigits? (fl : Flags) : (n : Nat) → List Char → Option (List Nat × List Char)
  | 0, s => some ([], s)
  | n + 1, c :: rest => do
    let d ← Text.hexDigit? c
    let (ds, rest) ← hexDigits? fl n (fl.skip rest)
    return (d :: ds, rest)
  | _ + 1, [] => none

/-- The hexadecimal digits up to the closing brace. -/
def hexBraced? (fl : Flags) : (fuel : Nat) → List Char → Option (List Nat × List Char)
  | 0, _ => none
  | fuel + 1, s =>
    match s with
    | [] => none
    | '\x7d' :: rest => some ([], fl.skip rest)
    | c :: rest => do
      let d ← Text.hexDigit? c
      let (ds, rest) ← hexBraced? fl fuel (fl.skip rest)
      return (d :: ds, rest)

/-- A character by its code, from behind the letter that says how long the code is without braces. -/
def hexEscape? (fl : Flags) (length : Nat) (s : List Char) : Option (Atom × List Char) :=
  match fl.skip s with
  | [] => none
  | '\x7b' :: rest => do
    let (digits, rest) ← hexBraced? fl (rest.length + 1) (fl.skip rest)
    if digits.isEmpty then none
    let c ← Text.scalar? (Text.ofDigits 16 digits)
    return (.char c false, rest)
  | s => do
    let (digits, rest) ← hexDigits? fl length s
    let c ← Text.scalar? (Text.ofDigits 16 digits)
    return (.char c (length = 2), rest)

/-! ## Sets and assertions by name -/

/-- The text up to the closing brace. -/
def braced? (fl : Flags) : (fuel : Nat) → List Char → Option (List Char × List Char)
  | 0, _ => none
  | fuel + 1, s =>
    match s with
    | [] => none
    | '\x7d' :: rest => some ([], rest)
    | c :: rest => (braced? fl fuel (fl.skip rest)).map fun (name, rest) => (c :: name, rest)

/-- Cuts a name at the first `mark`. -/
def cutAt? (mark : List Char) : List Char → Option (List Char × List Char)
  | [] => none
  | c :: rest =>
    if mark.isPrefixOf (c :: rest) then some ([], (c :: rest).drop mark.length)
    else (cutAt? mark rest).map fun (before, behind) => (c :: before, behind)

/-- A set by the name in braces: a name of its own, or a property and its value. -/
def namedSet? (name : List Char) (negated : Bool) : Option (Charset × Bool) :=
  match cutAt? ['!', '='] name with
  | some (p, v) => (Unicode.valued? p v).map (·, !negated)
  | none =>
    match cutAt? [':'] name <|> cutAt? ['='] name with
    | some (p, v) => (Unicode.valued? p v).map (·, negated)
    | none => (Unicode.named? name).map (·, negated)

/-- A set of characters by name, from behind the letter that announces it. -/
def unicodeSet? (fl : Flags) (negated : Bool) (s : List Char) : Option (Charset × List Char) :=
  let named : Option ((Charset × Bool) × List Char) := match fl.skip s with
    | [] => none
    | '\x7b' :: rest => do
      let (name, rest) ← braced? fl (rest.length + 1) (fl.skip rest)
      return (← namedSet? name negated, rest)
    | c :: rest => if c = '\\' then none else (Unicode.named? [c]).map fun cs => ((cs, negated), fl.skip rest)
  match named with
  | none => none
  | some ((cs, negated), rest) =>
    if fl.unicode then (fl.negate? negated (fl.fold cs)).map (·, rest) else none

def isEdgeChar (c : Char) : Bool := c.isAlpha || c = '-'

/-- The letters and hyphens at the front. -/
def edgeName (fl : Flags) : (fuel : Nat) → List Char → List Char × List Char
  | 0, s => ([], s)
  | fuel + 1, s =>
    match s with
    | c :: rest =>
      if isEdgeChar c then let (name, rest) := edgeName fl fuel (fl.skip rest); (c :: name, rest) else ([], s)
    | [] => ([], [])

/-- The kind of word edge given in braces behind the letter for word edges. A brace that begins a count is left. -/
def wordEdge? (fl : Flags) : List Char → Option (WordEdge × List Char)
  | '\x7b' :: rest =>
    match fl.skip rest with
    | [] => none
    | c :: more =>
      if !isEdgeChar c then some (.edge, '\x7b' :: rest)
      else
        let (name, left) := edgeName fl (more.length + 1) (c :: more)
        match left with
        | '\x7d' :: left =>
          if name = "start".toList then some (.start, left)
          else if name = "end".toList then some (.stop, left)
          else if name = "start-half".toList then some (.startHalf, left)
          else if name = "end-half".toList then some (.stopHalf, left)
          else none
        | _ => none
  | s => some (.edge, s)

/-- The characters that mean something in patterns. -/
def isMeta (c : Char) : Bool := "\\.+*?()|[]\x7b\x7d^$#&-~".toList.contains c

/-- The characters that a backslash takes literally. -/
def isLiteralEscape (c : Char) : Bool :=
  isMeta c || (c.toNat < 0x80 && !c.isAlphanum && c ≠ '<' && c ≠ '>')

/-- What an escape stands for, from behind the backslash. -/
def escape? (fl : Flags) : List Char → Option (Atom × List Char)
  | [] => none
  | c :: rest =>
    let char (d : Char) : Option (Atom × List Char) := some (.char d false, rest)
    let oneOf (negated : Bool) (s : Charset) : Option (Atom × List Char) :=
      (fl.negate? negated s).map fun s => (.set s, rest)
    let word (kind : WordEdge) : Option (Atom × List Char) := some (.anchor (.word kind fl.word), rest)
    match c with
    | 'x' => hexEscape? fl 2 rest
    | 'u' => hexEscape? fl 4 rest
    | 'U' => hexEscape? fl 8 rest
    | 'p' => (unicodeSet? fl false rest).map fun (s, rest) => (.set s, rest)
    | 'P' => (unicodeSet? fl true rest).map fun (s, rest) => (.set s, rest)
    | 'd' => oneOf false fl.digit
    | 'D' => oneOf true fl.digit
    | 's' => oneOf false fl.space
    | 'S' => oneOf true fl.space
    | 'w' => oneOf false fl.word
    | 'W' => oneOf true fl.word
    | 'a' => char '\x07'
    | 'f' => char '\x0c'
    | 't' => char '\t'
    | 'n' => char '\n'
    | 'r' => char '\r'
    | 'v' => char '\x0b'
    | 'A' => some (.anchor .textStart, rest)
    | 'z' => some (.anchor .textEnd, rest)
    | 'b' => (wordEdge? fl rest).map fun (kind, rest) => (.anchor (.word kind fl.word), rest)
    | 'B' => word .inside
    | '<' => word .start
    | '>' => word .stop
    | _ => if isLiteralEscape c then char c else none

/-- The set of a single character; none for a byte that is no character. -/
def literal? (fl : Flags) (c : Char) (byte : Bool) : Option Charset :=
  if !fl.unicode && byte && c.toNat ≥ 0x80 then none else some (fl.fold (.single c))

end CallGraph.Pattern
