import CallGraph.Settings.Basic
import CallGraph.Text.Basic
/-!
# JSON values

A JSON text as a value that keeps what the text says: numbers as they are written, members in order and with
repetitions. Strings of a text can hold what is no text, halves of surrogate pairs or bytes that are no characters; such
a string is kept as `none`, for nobody needs it but to pass over it.

A reader of values takes a record either as an object with named members or as an array of its fields in order.
-/

namespace CallGraph

namespace Json

/-- A number as it is written. -/
structure Numeral where
  negative : Bool := false
  whole : List Char
  fraction : Option (List Char) := none
  exponent : Option (List Char) := none
  deriving DecidableEq, Repr, Inhabited

end Json

inductive Json
  | null
  | bool (b : Bool)
  | number (n : Json.Numeral)
  | string (s : Option String)
  | array (items : List Json)
  | object (members : List (Option String × Json))
  deriving Repr, Inhabited

namespace Json

/-- The number, if it is written as a natural number. -/
def Numeral.natural? (n : Numeral) : Option Nat :=
  if n.negative || n.fraction.isSome || n.exponent.isSome then none
  else (n.whole.mapM Text.digit?).map (Text.ofDigits 10)

def word? : Json → Option UInt32
  | number n => n.natural?.bind fun k => if k < UInt32.size then some (UInt32.ofNat k) else none
  | _ => none

def text? : Json → Option String
  | string s => s
  | _ => none

def bool? : Json → Option Bool
  | bool b => some b
  | _ => none

def list? {α : Type} (item : Json → Option α) : Json → Option (List α)
  | array items => items.mapM item
  | _ => none

/-- A value or `null`. -/
def optional? {α : Type} (value : Json → Option α) : Json → Option (Option α)
  | null => some none
  | j => (value j).map some

/-- A value chosen by name: the name alone, or as the only member of an object, with nothing to it. -/
def named? {α : Type} [Named α] : Json → Option α
  | string (some s) => Named.ofName? s
  | object [(some s, null)] => Named.ofName? s
  | _ => none

/-- The one member called `name`: `some none` if there is none, `none` if there are several. -/
def member? (name : String) (members : List (String × Json)) : Option (Option Json) :=
  match members.filter (·.1 = name) with
  | [] => some none
  | [(_, v)] => some (some v)
  | _ => none

/-- The values of the fields `names` of a record, with `none` for those left out. Members of other names are passed
over; an array may leave out fields at its end and has no more. -/
def fields? (names : List String) : Json → Option (List (Option Json))
  | object members =>
    match members.mapM fun m => m.1.map (·, m.2) with
    | none => none
    | some members => names.mapM (member? · members)
  | array items =>
    if items.length ≤ names.length then
      some (items.map some ++ List.replicate (names.length - items.length) none)
    else none
  | _ => none

/-- The value of a field that must be there. -/
def required {α : Type} (value : Json → Option α) (field : Option Json) : Option α := field.bind value

/-- The value of a field, or `fallback` if it is left out. -/
def defaulted {α : Type} (fallback : α) (value : Json → Option α) : Option Json → Option α
  | none => some fallback
  | some j => value j

end Json

end CallGraph
