import CallGraph.Text.Basic
/-!
# Reading numbers

TOML integers in four bases and floats. Digits may have single underscores between them, a decimal number has no
leading zeros, and an integer has 64 bits with a sign. A float has a fraction, an exponent, or both, and is not so large
that no double comes near it; `inf` and `nan` are floats as well.

`reachesInfinity` compares exactly, in whole numbers.
-/

namespace CallGraph.Toml.Number

/-! ## Digits -/

/-- The digits behind a first one, without the underscores between them. -/
def moreDigits (valid : Char → Bool) : List Char → List Char × List Char
  | [] => ([], [])
  | c :: rest =>
    if valid c || (c = '_' && rest.head?.any valid) then
      let (cs, rest) := moreDigits valid rest
      (if valid c then c :: cs else cs, rest)
    else ([], c :: rest)

/-- The digits at the front; there is at least one. -/
def digits? (valid : Char → Bool) : List Char → Option (List Char × List Char)
  | [] => none
  | c :: rest => if valid c then some (c :: (moreDigits valid rest).1, (moreDigits valid rest).2) else none

def isDigit (c : Char) : Bool := (Text.digit? c).isSome

/-- The number that decimal digits spell. -/
def decimal (cs : List Char) : Nat := Text.ofDigits 10 (cs.filterMap Text.digit?)

/-! ## Integers -/

/-- A sign at the front, and whether it is a minus. -/
def sign : List Char → Bool × List Char
  | '+' :: rest => (false, rest)
  | '-' :: rest => (true, rest)
  | s => (false, s)

/-- The digits of a decimal number: a zero stands alone. -/
def whole? (s : List Char) : Option (List Char × List Char) :=
  match s with
  | '0' :: rest => some (['0'], rest)
  | _ => digits? isDigit s

/-- The digits of base `base`. -/
def isDigitOf (base : Nat) (c : Char) : Bool := (Text.hexDigit? c).any (· < base)

/-- A number of 64 bits with a sign. -/
def word? (n : Int) : Option Int :=
  if Int64.minValue.toInt ≤ n ∧ n ≤ Int64.maxValue.toInt then some n else none

/-- An integer in another base than ten, from behind its mark. -/
def based? (base : Nat) (s : List Char) : Option (Int × List Char) :=
  match digits? (isDigitOf base) s with
  | none => none
  | some (cs, rest) => (word? (Text.ofDigits base (cs.filterMap Text.hexDigit?))).map (·, rest)

def integer? : List Char → Option (Int × List Char)
  | '0' :: 'x' :: rest => based? 16 rest
  | '0' :: 'o' :: rest => based? 8 rest
  | '0' :: 'b' :: rest => based? 2 rest
  | s =>
    let (negative, rest) := sign s
    match whole? rest with
    | none => none
    | some (cs, rest) => (word? (if negative then -(decimal cs : Int) else decimal cs)).map (·, rest)

/-! ## Floats -/

/-- Whether `mantissa`, a number of `size` digits, times ten to the `exponent` is nearer to two to the 1024 than to the
largest double. The bounds on the exponent keep the powers small. -/
def reachesInfinity (mantissa size : Nat) (exponent : Int) : Bool :=
  let bound := 1 <<< 1024 - 1 <<< 970
  if mantissa = 0 || exponent + size < 300 then false
  else if exponent > 310 then true
  else if exponent < 0 then bound * Nat.pow 10 exponent.natAbs ≤ mantissa
  else bound ≤ mantissa * Nat.pow 10 exponent.natAbs

/-- The digits behind a point, if there is one. -/
def fraction? : List Char → Option (Option (List Char) × List Char)
  | '.' :: rest => (digits? isDigit rest).map fun (cs, rest) => (some cs, rest)
  | s => some (none, s)

/-- The exponent behind its mark, if there is one. -/
def exponent? : List Char → Option (Option Int × List Char)
  | c :: rest =>
    if c = 'e' || c = 'E' then
      let (negative, rest) := sign rest
      (digits? isDigit rest).map fun (cs, rest) =>
        (some (if negative then -(decimal cs : Int) else decimal cs), rest)
    else some (none, c :: rest)
  | [] => some (none, [])

/-- What is left behind the word `cs`. -/
def afterWord? (cs : List Char) (s : List Char) : Option (List Char) :=
  if cs.isPrefixOf s then some (s.drop cs.length) else none

/-- A float that is no number of its own. -/
def special? (s : List Char) : Option (List Char) :=
  (afterWord? ['i', 'n', 'f'] s).or (afterWord? ['n', 'a', 'n'] s)

/-- What is left behind a float. -/
def afterFloat? (s : List Char) : Option (List Char) :=
  let (negative, rest) := sign s
  match whole? rest with
  | none => special? rest
  | some (whole, rest) =>
    match fraction? rest with
    | none => none
    | some (fraction, rest) =>
      match exponent? rest with
      | none => none
      | some (exponent, rest) =>
        if fraction.isNone && exponent.isNone then none
        else
          let behind := fraction.getD []
          let digits := (whole ++ behind).dropWhile (· = '0')
          if !negative && reachesInfinity (decimal digits) digits.length (exponent.getD 0 - behind.length) then none
          else some rest

end CallGraph.Toml.Number
