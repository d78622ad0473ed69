import CallGraph.Text.Basic
/-!
# Reading dates and times

A moment is a date, a time of day, or a date and a time with perhaps an offset from universal time. The day exists in
its month; a minute may have a sixty-first second.
-/

namespace CallGraph.Toml.Moment

/-- A number of exactly `count` digits. -/
def number? (count : Nat) (s : List Char) : Option (Nat × List Char) :=
  match (s.take count).mapM Text.digit? with
  | some digits => if digits.length = count then some (Text.ofDigits 10 digits, s.drop count) else none
  | none => none

/-- A number of two digits between `low` and `high`. -/
def part? (low high : Nat) (s : List Char) : Option (Nat × List Char) :=
  match number? 2 s with
  | some (n, rest) => if low ≤ n ∧ n ≤ high then some (n, rest) else none
  | none => none

/-- What is left behind `c`. -/
def mark? (c : Char) : List Char → Option (List Char)
  | d :: rest => if c = d then some rest else none
  | [] => none

def isLeap (year : Nat) : Bool := year % 4 = 0 && (year % 100 ≠ 0 || year % 400 = 0)

/-- The number of days in a month. -/
def days (year month : Nat) : Nat :=
  if month = 2 then (if isLeap year then 29 else 28)
  else if month = 4 || month = 6 || month = 9 || month = 11 then 30
  else 31

/-- What is left behind a date. -/
def date? (s : List Char) : Option (List Char) := do
  let (year, s) ← number? 4 s
  let s ← mark? '-' s
  let (month, s) ← part? 1 12 s
  let s ← mark? '-' s
  let (_, s) ← part? 1 (days year month) s
  pure s

/-- What is left behind a fraction of a second, if there is one. -/
def fraction? (s : List Char) : Option (List Char) :=
  match s with
  | '.' :: rest =>
    let left := rest.dropWhile fun c => (Text.digit? c).isSome
    if left.length < rest.length then some left else none
  | _ => some s

/-- What is left behind a time of day. -/
def time? (s : List Char) : Option (List Char) := do
  let (_, s) ← part? 0 23 s
  let s ← mark? ':' s
  let (_, s) ← part? 0 59 s
  let s ← mark? ':' s
  let (_, s) ← part? 0 60 s
  fraction? s

/-- What is left behind an offset, if there is one. -/
def offset? (s : List Char) : Option (List Char) :=
  match s with
  | [] => some []
  | c :: rest =>
    if c = 'Z' || c = 'z' then some rest
    else if c = '+' || c = '-' then do
      let (_, s) ← part? 0 23 rest
      let s ← mark? ':' s
      let (_, s) ← part? 0 59 s
      pure s
    else some s

/-- What is left behind the time that belongs to a date; what is no time is left as it is. -/
def timeOfDate (s : List Char) : Option (List Char) :=
  match s with
  | [] => some []
  | c :: rest =>
    if c = 'T' || c = 't' || c = ' ' then
      match time? rest with
      | some left => offset? left
      | none => some s
    else some s

/-- What is left behind a moment. -/
def after? (s : List Char) : Option (List Char) :=
  match date? s with
  | some rest => timeOfDate rest
  | none => time? s

end CallGraph.Toml.Moment
