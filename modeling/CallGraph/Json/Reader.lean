import CallGraph.Json.Value
import CallGraph.Text.Utf8
/-!
# Reading JSON

`Json.read?` gives the value of a JSON text: one value with nothing but blanks around it. The text comes as symbols,
because bytes that are no characters may stand in strings.
-/

namespace CallGraph.Json

/-- A text to read: characters, with `none` for bytes that are none. -/
abbrev Symbols := List (Option Char)

def isBlank (c : Char) : Bool := c = ' ' || c = '\n' || c = '\t' || c = '\r'

def skipBlanks : Symbols → Symbols
  | some c :: rest => if isBlank c then skipBlanks rest else some c :: rest
  | s => s

/-- What is left behind the characters `cs`. -/
def literal? : List Char → Symbols → Option Symbols
  | [], s => some s
  | c :: cs, some d :: rest => if c = d then literal? cs rest else none
  | _ :: _, _ => none

/-! ## Strings -/

/-- What stands between the quotes of a string, item by item. -/
inductive StringItem
  | char (c : Char)
  /-- an escape that gives a code by its digits -/
  | code (n : Nat)
  | stray
  deriving DecidableEq, Repr

/-- The character that a backslash and `c` stand for. -/
def escaped? (c : Char) : Option Char :=
  match c with
  | '"' => some '"'
  | '\\' => some '\\'
  | '/' => some '/'
  | 'b' => some '\x08'
  | 'f' => some '\x0c'
  | 'n' => some '\n'
  | 'r' => some '\r'
  | 't' => some '\t'
  | _ => none

/-- The items up to the closing quote, and what is left behind it. -/
def items? : Symbols → Option (List StringItem × Symbols)
  | [] => none
  | some '"' :: rest => some ([], rest)
  | some '\\' :: some 'u' :: some a :: some b :: some c :: some d :: rest =>
    match [a, b, c, d].mapM Text.hexDigit?, items? rest with
    | some digits, some (items, rest) => some (.code (Text.ofDigits 16 digits) :: items, rest)
    | _, _ => none
  | some '\\' :: some c :: rest =>
    match escaped? c, items? rest with
    | some e, some (items, rest) => some (.char e :: items, rest)
    | _, _ => none
  | some '\\' :: _ => none
  | some c :: rest => if c.toNat < 0x20 then none else (items? rest).map fun (items, rest) => (.char c :: items, rest)
  | none :: rest => (items? rest).map fun (items, rest) => (.stray :: items, rest)

/-- The characters that items stand for; none if a surrogate code is not half of a pair, or a byte no character. -/
def characters? : List StringItem → Option (List Char)
  | [] => some []
  | .char c :: rest => (characters? rest).map (c :: ·)
  | .stray :: _ => none
  | .code n :: rest =>
    if 0xD800 ≤ n && n < 0xDC00 then
      match rest with
      | .code m :: rest =>
        if 0xDC00 ≤ m && m < 0xE000 then
          (characters? rest).map (Char.ofNat (0x10000 + (n - 0xD800) * 0x400 + (m - 0xDC00)) :: ·)
        else none
      | _ => none
    else if 0xDC00 ≤ n && n < 0xE000 then none
    else (characters? rest).map (Char.ofNat n :: ·)

/-- A string from behind its opening quote. -/
def string? (s : Symbols) : Option (Option String × Symbols) :=
  (items? s).map fun (items, rest) => ((characters? items).map String.ofList, rest)

/-! ## Numbers -/

/-- The digits at the front. -/
def digits : Symbols → List Char × Symbols
  | some c :: rest => if c.isDigit then ((c :: (digits rest).1), (digits rest).2) else ([], some c :: rest)
  | s => ([], s)

def fraction? : Symbols → Option (Option (List Char) × Symbols)
  | some '.' :: rest => if (digits rest).1.isEmpty then none else some (some (digits rest).1, (digits rest).2)
  | s => some (none, s)

def sign : Symbols → List Char × Symbols
  | some '+' :: rest => (['+'], rest)
  | some '-' :: rest => (['-'], rest)
  | s => ([], s)

def exponent? : Symbols → Option (Option (List Char) × Symbols)
  | some c :: rest =>
    if c = 'e' || c = 'E' then
      let (mark, rest) := sign rest
      if (digits rest).1.isEmpty then none else some (some (mark ++ (digits rest).1), (digits rest).2)
    else some (none, some c :: rest)
  | s => some (none, s)

/-- A number from behind its sign. A zero in front stands alone. -/
def numeral? (negative : Bool) (s : Symbols) : Option (Numeral × Symbols) :=
  let (whole, rest) := digits s
  if whole.isEmpty || (whole.head? = some '0' && whole.length > 1) then none
  else match fraction? rest with
    | none => none
    | some (fraction, rest) => (exponent? rest).map fun (exponent, rest) => ({ negative, whole, fraction, exponent }, rest)

/-! ## Values -/

mutual

/-- The value at the front, and what is left behind it. Every call passes over a symbol or hands on to one that does, so
twice the number of symbols is fuel enough. -/
def value? : (fuel : Nat) → Symbols → Option (Json × Symbols)
  | 0, _ => none
  | fuel + 1, s =>
    match skipBlanks s with
    | some 'n' :: rest => (literal? ['u', 'l', 'l'] rest).map (null, ·)
    | some 't' :: rest => (literal? ['r', 'u', 'e'] rest).map (bool true, ·)
    | some 'f' :: rest => (literal? ['a', 'l', 's', 'e'] rest).map (bool false, ·)
    | some '"' :: rest => (string? rest).map fun (s, rest) => (string s, rest)
    | some '[' :: rest =>
      match skipBlanks rest with
      | some ']' :: rest => some (array [], rest)
      | rest => (elements? fuel rest).map fun (items, rest) => (array items, rest)
    | some '\x7b' :: rest =>
      match skipBlanks rest with
      | some '\x7d' :: rest => some (object [], rest)
      | rest => (members? fuel rest).map fun (members, rest) => (object members, rest)
    | some '-' :: rest => (numeral? true rest).map fun (n, rest) => (number n, rest)
    | rest => (numeral? false rest).map fun (n, rest) => (number n, rest)

/-- One or more values with commas between them, up to the closing bracket. -/
def elements? : (fuel : Nat) → Symbols → Option (List Json × Symbols)
  | 0, _ => none
  | fuel + 1, s =>
    match value? fuel s with
    | none => none
    | some (v, rest) =>
      match skipBlanks rest with
      | some ']' :: rest => some ([v], rest)
      | some ',' :: rest => (elements? fuel rest).map fun (vs, rest) => (v :: vs, rest)
      | _ => none

/-- One or more members with commas between them, up to the closing brace. -/
def members? : (fuel : Nat) → Symbols → Option (List (Option String × Json) × Symbols)
  | 0, _ => none
  | fuel + 1, s =>
    match skipBlanks s with
    | some '"' :: rest =>
      match string? rest with
      | none => none
      | some (key, rest) =>
        match skipBlanks rest with
        | some ':' :: rest =>
          match value? fuel rest with
          | none => none
          | some (v, rest) =>
            match skipBlanks rest with
            | some '\x7d' :: rest => some ([(key, v)], rest)
            | some ',' :: rest => (members? fuel rest).map fun (ms, rest) => ((key, v) :: ms, rest)
            | _ => none
        | _ => none
    | _ => none

end

/-- The value of a JSON text. -/
def read? (s : Symbols) : Option Json :=
  match value? (2 * s.length + 2) s with
  | some (j, rest) => if (skipBlanks rest).isEmpty then some j else none
  | none => none

/-- The value that bytes spell as JSON. -/
def ofBytes? (bytes : ByteArray) : Option Json := read? (Utf8.symbols bytes)

end CallGraph.Json
