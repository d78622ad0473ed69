import CallGraph.Text.Basic
/-!
# Character sets

Sets of characters as patterns write them: runs of codes put together, cut and complemented. `contains` decides
membership.
-/

namespace CallGraph

/-- The codes from `lo` to `hi`, every `step`-th of them. -/
structure Run where
  lo : Nat
  hi : Nat
  step : Nat := 1
  deriving DecidableEq, Repr

def Run.contains (r : Run) (n : Nat) : Bool :=
  r.lo ≤ n && n ≤ r.hi && (n - r.lo) % r.step == 0

namespace Run

def hexadecimal (cs : List Char) : Nat := Text.ofDigits 16 (cs.filterMap Text.hexDigit?)

/-- The run written as `lo`, `lo-hi` or `lo-hi/step`, in hexadecimal. -/
def ofText (cs : List Char) : Run :=
  let (bounds, step) := match cs.splitOn '/' with
    | [bounds, step] => (bounds, hexadecimal step)
    | _ => (cs, 1)
  match bounds.splitOn '-' with
  | [lo, hi] => ⟨hexadecimal lo, hexadecimal hi, step⟩
  | _ => ⟨hexadecimal bounds, hexadecimal bounds, step⟩

/-- The runs written in a text with blanks between them. -/
def listOfText (text : String) : List Run :=
  ((text.toList.splitOn ' ').filter (!·.isEmpty)).map ofText

end Run

/-- A run of codes that differ from their folded forms by `shift`. -/
structure FoldRun where
  run : Run
  shift : Int
  deriving DecidableEq, Repr

namespace CaseFolding

/-- The code that stands for all case variants of `n`. -/
def fold (table : List FoldRun) (n : Nat) : Nat :=
  match table.find? (·.run.contains n) with
  | some r => (n + r.shift).toNat
  | none => n

/-- All case variants of `n`. -/
def variants (table : List FoldRun) (n : Nat) : List Nat :=
  let target := fold table n
  target :: table.filterMap fun r =>
    let m := (target : Int) - r.shift
    if 0 ≤ m ∧ r.run.contains m.toNat then some m.toNat else none

end CaseFolding

inductive Charset
  | empty
  | runs (rs : List Run)
  | union (a b : Charset)
  | intersection (a b : Charset)
  | difference (a b : Charset)
  | symmetricDifference (a b : Charset)
  | complement (a : Charset)
  /-- the characters with a case variant in `a` -/
  | folded (table : List FoldRun) (a : Charset)
  deriving Repr, Inhabited

namespace Charset

def containsCode : Charset → Nat → Bool
  | empty, _ => false
  | runs rs, n => rs.any (·.contains n)
  | union a b, n => a.containsCode n || b.containsCode n
  | intersection a b, n => a.containsCode n && b.containsCode n
  | difference a b, n => a.containsCode n && !b.containsCode n
  | symmetricDifference a b, n => a.containsCode n != b.containsCode n
  | complement a, n => !a.containsCode n
  | folded table a, n => (CaseFolding.variants table n).any fun m => a.containsCode m

def contains (s : Charset) (c : Char) : Bool := s.containsCode c.toNat

/-- The characters from `lo` to `hi`. -/
def range (lo hi : Char) : Charset := runs [⟨lo.toNat, hi.toNat, 1⟩]

def single (c : Char) : Charset := range c c

def unionAll (ss : List Charset) : Charset := ss.foldl union empty

/-- The number of runs a set is made of. -/
def runCount : Charset → Nat
  | empty => 0
  | runs rs => rs.length
  | union a b | intersection a b | difference a b | symmetricDifference a b => a.runCount + b.runCount
  | complement a | folded _ a => a.runCount

end Charset

end CallGraph
