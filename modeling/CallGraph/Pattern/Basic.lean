import CallGraph.Pattern.Unicode.Names
/-!
# Patterns

Regular expressions with assertions about positions, and the texts that hold a match. Matching follows all ways at once:
`after` takes the positions where a match may begin to those where it may end, one mark for each position of the text,
the end included.
-/

namespace CallGraph

/-- Which sides of a position belong to words. -/
inductive WordEdge
  | edge | inside | start | stop | startHalf | stopHalf
  deriving DecidableEq, Repr

/-- An assertion about a position. -/
inductive Anchor
  | textStart | textEnd
  /-- at the start of a line; lines end at line feeds -/
  | lineStart | lineEnd
  /-- the same, but carriage returns end lines as well -/
  | returnStart | returnEnd
  /-- at the edge of a word of the given characters -/
  | word (kind : WordEdge) (characters : Charset)
  deriving Repr, Inhabited

inductive Pattern
  | empty
  | set (s : Charset)
  | anchor (a : Anchor)
  | sequence (p q : Pattern)
  | choice (p q : Pattern)
  /-- `p` at least `least` times, and at most `most` times if there is a bound -/
  | repetition (p : Pattern) (least : Nat) (most : Option Nat)
  deriving Repr, Inhabited

namespace Anchor

/-- Whether the assertion holds between two characters, which are missing at the ends of the text. -/
def holds (before after : Option Char) : Anchor → Bool
  | textStart => before.isNone
  | textEnd => after.isNone
  | lineStart => before.all (· = '\n')
  | lineEnd => after.all (· = '\n')
  | returnStart => before.all fun c => c = '\n' || (c = '\r' && after ≠ some '\n')
  | returnEnd => after.all fun c => c = '\r' || (c = '\n' && before ≠ some '\r')
  | word kind characters =>
    let b := before.any characters.contains
    let a := after.any characters.contains
    match kind with
    | .edge => b != a
    | .inside => b == a
    | .start => !b && a
    | .stop => b && !a
    | .startHalf => !b
    | .stopHalf => !a

/-- The positions of a text at which the assertion holds, `before` being the character in front of it. -/
def marks (a : Anchor) (before : Option Char) : List Char → List Bool
  | [] => [a.holds before none]
  | c :: rest => a.holds before (some c) :: marks a (some c) rest

end Anchor

namespace Pattern

/-- Positions of a text: one mark for each. -/
abbrev Marks := List Bool

def both (a b : Marks) : Marks := List.zipWith (· && ·) a b

def either (a b : Marks) : Marks := List.zipWith (· || ·) a b

/-- The positions behind a character of `s`, for matches that begin at the marked ones. -/
def step (s : Charset) (text : List Char) (from_ : Marks) : Marks :=
  false :: List.zipWith (fun mark c => mark && s.contains c) from_ text

/-- Goes on with `f`, up to `n` more times, from all positions reached. -/
def spread (f : Marks → Marks) : (n : Nat) → Marks → Marks
  | 0, reached => reached
  | n + 1, reached => spread f n (either reached (f reached))

/-- The positions where matches that begin at the marked ones may end. To go on more often than there are positions
reaches nothing new. -/
def after (text : List Char) : Pattern → Marks → Marks
  | empty, from_ => from_
  | set s, from_ => step s text from_
  | anchor a, from_ => both from_ (a.marks none text)
  | sequence p q, from_ => q.after text (p.after text from_)
  | choice p q, from_ => either (p.after text from_) (q.after text from_)
  | repetition p least most, from_ =>
    let more := match most with
      | some bound => min (bound - least) (text.length + 1)
      | none => text.length + 1
    spread (p.after text) more (Nat.repeat (p.after text) least from_)

/-- Whether a text holds a match, anywhere in it. -/
def isIn (p : Pattern) (text : String) : Bool :=
  (p.after text.toList (List.replicate (text.toList.length + 1) true)).any id

/-- A measure of what a pattern takes to compile, in bytes. -/
def weight : Pattern → Nat
  | empty => 32
  | set s => 32 + 72 * (s.runCount - 1)
  | anchor _ => 32
  | sequence p q => p.weight + q.weight
  | choice p q => p.weight + q.weight + 40
  | repetition p least most =>
    match most with
    | some bound => max 1 least * p.weight + (bound - least) * (p.weight + 40)
    | none => (least + 1) * (p.weight + 40)

end Pattern

end CallGraph
