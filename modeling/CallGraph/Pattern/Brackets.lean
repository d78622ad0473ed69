import CallGraph.Pattern.Escape
/-!
# Sets in brackets

Sets of characters listed in brackets: characters, ranges, escapes, named ASCII sets, nested brackets, and the operations
that combine what stands before them with what stands behind. Along with the set goes how deep it is nested.
-/

namespace CallGraph.Pattern

/-- A set with the depth of its nesting. -/
structure Nested where
  set : Charset
  depth : Nat := 0

inductive SetOperation
  | intersection | difference | symmetricDifference

def SetOperation.apply : SetOperation → Charset → Charset → Charset
  | intersection => .intersection
  | difference => .difference
  | symmetricDifference => .symmetricDifference

/-- The ASCII sets that have a name, as runs. -/
def asciiSets : List (String × String) := [
  ("alnum", "30-39 41-5A 61-7A"),
  ("alpha", "41-5A 61-7A"),
  ("ascii", "0-7F"),
  ("blank", "9 20"),
  ("cntrl", "0-1F 7F"),
  ("digit", "30-39"),
  ("graph", "21-7E"),
  ("lower", "61-7A"),
  ("print", "20-7E"),
  ("punct", "21-2F 3A-40 5B-60 7B-7E"),
  ("space", "9-D 20"),
  ("upper", "41-5A"),
  ("word", "30-39 41-5A 5F 61-7A"),
  ("xdigit", "30-39 41-46 61-66")
]

/-- A named ASCII set, with the brackets and colons around it: its runs, whether it is negated, and what is left. -/
def asciiSet? : List Char → Option (Charset × Bool × List Char)
  | '[' :: ':' :: rest =>
    let (negated, rest) := match rest with
      | '^' :: rest => (true, rest)
      | rest => (false, rest)
    match cutAt? [':'] rest with
    | some (name, ']' :: left) =>
      (asciiSets.lookup (String.ofList name)).map fun runs => (.runs (Run.listOfText runs), negated, left)
    | _ => none
  | _ => none

/-- One end of a range, or a member. -/
def member? (fl : Flags) : List Char → Option (Atom × List Char)
  | [] => none
  | '\\' :: rest => escape? fl rest
  | c :: rest => some (.char c false, rest)

/-- Whether a character may be listed. While only ASCII is matched, others may not. -/
def listed? (fl : Flags) (c : Char) : Option Char :=
  if fl.unicode || c.toNat < 0x80 then some c else none

def memberSet? (fl : Flags) : Atom → Option Charset
  | .char c _ => (listed? fl c).map .single
  | .set s => some s
  | .anchor _ => none

/-- A member or a range. A hyphen in front of the closing bracket or of another hyphen makes no range. -/
def memberOrRange? (fl : Flags) (s : List Char) : Option (Charset × List Char) :=
  match member? fl s with
  | none => none
  | some (first, rest) =>
    match fl.skip rest with
    | [] => none
    | '-' :: more =>
      let ahead := fl.skip more
      if ahead.head? = some ']' || ahead.head? = some '-' then (memberSet? fl first).map (·, '-' :: more)
      else match first, member? fl ahead with
        | .char lo _, some (.char hi _, rest) =>
          if lo ≤ hi then do return (.range (← listed? fl lo) (← listed? fl hi), rest) else none
        | _, _ => none
    | rest => (memberSet? fl first).map (·, rest)

/-- The members listed so far, last one first, as one set. -/
def collect (members : List Nested) : Nested :=
  match members with
  | [] => { set := .empty }
  | [m] => m
  | _ => { set := .unionAll (members.map (·.set)), depth := 1 + (members.map (·.depth)).foldl max 0 }

/-- Combines the members listed last with what stands before an operation. -/
def combine (fl : Flags) (before : Option (SetOperation × Nested)) (members : List Nested) : Nested :=
  let last := collect members
  match before with
  | none => last
  | some (op, first) =>
    { set := op.apply (fl.fold first.set) (fl.fold last.set), depth := 1 + max first.depth last.depth }

/-- The hyphens at the start of a set, which stand for themselves. -/
def leadingHyphens (fl : Flags) : (fuel : Nat) → List Char → List Nested × List Char
  | fuel + 1, '-' :: rest =>
    let (more, rest) := leadingHyphens fl fuel (fl.skip rest)
    ({ set := .single '-' } :: more, rest)
  | _, s => ([], s)

/-- The start of a set behind its opening bracket: whether it is negated, its first members, and what is left. -/
def openSet (fl : Flags) (s : List Char) : Bool × List Nested × List Char :=
  let (negated, s) := match fl.skip s with
    | '^' :: rest => (true, fl.skip rest)
    | s => (false, s)
  let (hyphens, s) := leadingHyphens fl s.length s
  match hyphens, s with
  | [], ']' :: rest => (negated, [{ set := .single ']' }], fl.skip rest)
  | _, s => (negated, hyphens, s)

/-- Reads a set up to its closing bracket, `members` being those listed since the last operation. -/
def bracketBody? (fl : Flags) (negated : Bool) :
    (fuel : Nat) → Option (SetOperation × Nested) → List Nested → List Char → Option (Nested × List Char)
  | 0, _, _, _ => none
  | fuel + 1, before, members, s =>
    let operate (op : SetOperation) (rest : List Char) : Option (Nested × List Char) :=
      bracketBody? fl negated fuel (some (op, combine fl before members)) [] rest
    match fl.skip s with
    | [] => none
    | ']' :: rest =>
      let all := combine fl before members
      (fl.negate? negated (fl.fold all.set)).map fun cs => ({ set := cs, depth := all.depth + 1 }, rest)
    | '&' :: '&' :: rest => operate .intersection rest
    | '-' :: '-' :: rest => operate .difference rest
    | '~' :: '~' :: rest => operate .symmetricDifference rest
    | '[' :: rest =>
      match asciiSet? ('[' :: rest) with
      | some (cs, inverted, left) =>
        match fl.negate? inverted (fl.fold cs) with
        | some cs => bracketBody? fl negated fuel before ({ set := cs } :: members) left
        | none => none
      | none =>
        let (inverted, first, rest) := openSet fl rest
        match bracketBody? fl inverted fuel none first.reverse rest with
        | some (inner, left) => bracketBody? fl negated fuel before (inner :: members) left
        | none => none
    | s =>
      match memberOrRange? fl s with
      | some (cs, rest) => bracketBody? fl negated fuel before ({ set := cs } :: members) rest
      | none => none

/-- A set from behind its opening bracket. -/
def bracket? (fl : Flags) (s : List Char) : Option (Nested × List Char) :=
  let (negated, first, rest) := openSet fl s
  bracketBody? fl negated (rest.length + 1) none first.reverse rest

end CallGraph.Pattern
