import CallGraph.Pattern.Brackets
/-!
# Reading patterns

`Pattern.ofText?` reads a pattern; none means that it is malformed, nested too deep or too large. Flags set in a group
hold up to the end of the group.
-/

namespace CallGraph.Pattern

/-- A part of a pattern with the depth of its nesting. -/
structure Piece where
  pattern : Pattern
  depth : Nat := 0

/-- What stands between two operators: a part, or a setting of flags, which cannot be repeated. -/
inductive Item
  | piece (p : Piece)
  | flags

namespace Item

def pattern : Item → Pattern
  | piece p => p.pattern
  | flags => .empty

def depth : Item → Nat
  | piece p => p.depth
  | flags => 0

end Item

/-- The sequence of items, last one first. -/
def sequenceOf (items : List Item) : Piece :=
  match items with
  | [] => { pattern := .empty }
  | [i] => { pattern := i.pattern, depth := i.depth }
  | _ =>
    { pattern := items.foldl (fun p i => .sequence i.pattern p) .empty,
      depth := 1 + (items.map (·.depth)).foldl max 0 }

/-- The choice between branches, last one first. -/
def choiceOf (branches : List Piece) : Piece :=
  match branches with
  | [] => { pattern := .empty }
  | [b] => b
  | b :: rest =>
    { pattern := rest.foldl (fun p b => .choice b.pattern p) b.pattern,
      depth := 1 + (branches.map (·.depth)).foldl max 0 }

/-! ## Flags -/

/-- The setting of one flag. -/
def setFlag? (fl : Flags) (c : Char) (on : Bool) : Option Flags :=
  match c with
  | 'i' => some { fl with ignoreCase := on }
  | 'm' => some { fl with multiLine := on }
  | 's' => some { fl with dotAll := on }
  | 'R' => some { fl with returns := on }
  | 'u' => some { fl with unicode := on }
  | 'x' => some { fl with spaced := on }
  | 'U' => some fl
  | _ => none

/-- Reads flags up to a colon or a closing parenthesis. Each is set once, the hyphen stands before some flag. -/
def flags? (fl : Flags) (seen : List Char) : List Char → Option (Flags × List Char × List Char)
  | [] => none
  | c :: rest =>
    if c = ':' || c = ')' then if seen.head? = some '-' then none else some (fl, seen, c :: rest)
    else if seen.contains c then none
    else if c = '-' then flags? fl (c :: seen) rest
    else match setFlag? fl c (!seen.contains '-') with
      | some fl => flags? fl (c :: seen) rest
      | none => none

/-! ## Groups -/

/-- Whether a character may stand in the name of a group. -/
def isNameChar (first : Bool) (c : Char) : Bool :=
  c = '_' || Unicode.alphabetic.contains c ||
    (!first && (c = '.' || c = '[' || c = ']' || (Unicode.categories Unicode.numberCodes).contains c))

/-- The name of a group up to the closing angle bracket. -/
def groupName? (s : List Char) : Option (List Char × List Char) :=
  match cutAt? ['>'] s with
  | some (c :: name, rest) =>
    if isNameChar true c && name.all (isNameChar false) then some (c :: name, rest) else none
  | _ => none

/-- How a group begins. -/
inductive GroupStart
  /-- the flags hold for what follows the parenthesis -/
  | setting (fl : Flags)
  /-- a group with these flags inside, and the group names in use -/
  | group (fl : Flags) (names : List (List Char))

def isLookaround (s : List Char) : Bool :=
  [['?', '='], ['?', '!'], ['?', '<', '='], ['?', '<', '!']].any (·.isPrefixOf s)

/-- Reads on from behind an opening parenthesis. -/
def groupStart? (fl : Flags) (names : List (List Char)) (s : List Char) : Option (GroupStart × List Char) :=
  let s := fl.skip s
  let named (rest : List Char) : Option (GroupStart × List Char) :=
    match groupName? rest with
    | some (name, rest) => if names.contains name then none else some (.group fl (name :: names), rest)
    | none => none
  if isLookaround s then none
  else match s with
    | '?' :: 'P' :: '<' :: rest => named rest
    | '?' :: '<' :: rest => named rest
    | '?' :: rest =>
      match flags? fl [] rest with
      | some (inner, seen, ')' :: rest) => if seen.isEmpty then none else some (.setting inner, rest)
      | some (inner, _, _ :: rest) => some (.group inner names, rest)
      | _ => none
    | s => some (.group fl names, s)

/-! ## Repetitions -/

/-- The bounds in braces, from behind the opening one. -/
def bounds? (fl : Flags) (s : List Char) : Option (Nat × Option Nat × List Char) :=
  match count? fl (fl.skip s) with
  | some (least, '\x7d' :: rest) => some (least, some least, rest)
  | some (least, ',' :: rest) =>
    match fl.skip rest with
    | '\x7d' :: rest => some (least, none, rest)
    | rest =>
      match count? fl rest with
      | some (most, '\x7d' :: rest) => if least ≤ most then some (least, some most, rest) else none
      | _ => none
  | _ => none

/-- Repeats the last of `items`, which must be a part. -/
def repeatLast? (items : List Item) (least : Nat) (most : Option Nat) : Option (List Item) :=
  match items with
  | .piece p :: rest => some (.piece { pattern := .repetition p.pattern least most, depth := p.depth + 1 } :: rest)
  | _ => none

/-- Passes over the mark of a repetition that prefers fewer. -/
def skipLazy : List Char → List Char
  | '?' :: rest => rest
  | s => s

/-! ## Patterns -/

/-- A part that is no group and no repetition. -/
def primitive? (fl : Flags) (s : List Char) : Option (Piece × List Char) :=
  match s with
  | [] => none
  | '\\' :: rest =>
    match escape? fl rest with
    | some (.char c byte, rest) => (literal? fl c byte).map fun cs => ({ pattern := .set cs }, rest)
    | some (.set cs, rest) => some ({ pattern := .set cs }, rest)
    | some (.anchor a, rest) => some ({ pattern := .anchor a }, rest)
    | none => none
  | '.' :: rest => (fl.dot?).map fun cs => ({ pattern := .set cs }, rest)
  | '^' :: rest => some ({ pattern := .anchor fl.lineStart }, rest)
  | '$' :: rest => some ({ pattern := .anchor fl.lineEnd }, rest)
  | '[' :: rest => (bracket? fl rest).map fun (b, rest) => ({ pattern := .set b.set, depth := b.depth }, rest)
  | c :: rest => (literal? fl c false).map fun cs => ({ pattern := .set cs }, rest)

/-- Reads up to the end of a group, or of the pattern. `items` belong to the branch being read, `branches` stand before
it; both have the last one first. Each call passes over a character, or ends. -/
def body? : (fuel : Nat) → Flags → List (List Char) → List Piece → List Item → List Char →
    Option (Piece × List (List Char) × List Char)
  | 0, _, _, _, _, _ => none
  | fuel + 1, fl, names, branches, items, s =>
    let again (least : Nat) (most : Option Nat) (rest : List Char) : Option (Piece × List (List Char) × List Char) :=
      match repeatLast? items least most with
      | some items => body? fuel fl names branches items (skipLazy rest)
      | none => none
    match fl.skip s with
    | [] => some (choiceOf (sequenceOf items :: branches), names, [])
    | ')' :: rest => some (choiceOf (sequenceOf items :: branches), names, ')' :: rest)
    | '|' :: rest => body? fuel fl names (sequenceOf items :: branches) [] rest
    | '(' :: rest =>
      match groupStart? fl names rest with
      | some (.setting fl, rest) => body? fuel fl names branches (.flags :: items) rest
      | some (.group inner names, rest) =>
        match body? fuel inner names [] [] rest with
        | some (p, names, ')' :: rest) =>
          body? fuel fl names branches (.piece { p with depth := p.depth + 1 } :: items) rest
        | _ => none
      | none => none
    | '?' :: rest => again 0 (some 1) rest
    | '*' :: rest => again 0 none rest
    | '+' :: rest => again 1 none rest
    | '\x7b' :: rest =>
      match bounds? fl rest with
      | some (least, most, rest) => again least most (fl.skip rest)
      | none => none
    | s =>
      match primitive? fl s with
      | some (p, rest) => body? fuel fl names branches (.piece p :: items) rest
      | none => none

/-- How deep a pattern may be nested. -/
def depthLimit : Nat := 250

/-- What a pattern may weigh. -/
def weightLimit : Nat := 10485760

/-- The pattern that a text spells. -/
def ofText? (text : String) : Option Pattern :=
  match body? (text.toList.length + 1) {} [] [] [] text.toList with
  | some (p, _, []) => if p.depth ≤ depthLimit && p.pattern.weight ≤ weightLimit then some p.pattern else none
  | _ => none

end CallGraph.Pattern
