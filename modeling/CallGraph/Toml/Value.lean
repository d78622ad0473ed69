import CallGraph.Settings.Basic
/-!
# TOML values

The value of a TOML document or of a part of it. Entries of a table keep the order in which they were written, and no
key occurs twice. Of a float and of a moment (a date, a time, or both) only the text is kept.

A reader of values takes a record either as a table or as an array of its fields in order.
-/

namespace CallGraph

inductive Toml
  | string (s : String)
  | integer (n : Int)
  | boolean (b : Bool)
  | float (text : String)
  | moment (text : String)
  | array (items : List Toml)
  | table (entries : List (String × Toml))
  deriving Repr, Inhabited

namespace Toml

def string? : Toml → Option String
  | string s => some s
  | _ => none

def boolean? : Toml → Option Bool
  | boolean b => some b
  | _ => none

def word? : Toml → Option UInt32
  | integer n => if 0 ≤ n ∧ n < UInt32.size then some (UInt32.ofNat n.toNat) else none
  | _ => none

def wide? : Toml → Option UInt64
  | integer n => if 0 ≤ n ∧ n < UInt64.size then some (UInt64.ofNat n.toNat) else none
  | _ => none

/-- A number of 64 bits with a sign, as every integer is that is read. -/
def signed? : Toml → Option Int64
  | integer n => some (Int64.ofInt n)
  | _ => none

def list? {α : Type} (item : Toml → Option α) : Toml → Option (List α)
  | array items => items.mapM item
  | _ => none

/-- Whether there is nothing in a value. -/
def isVoid : Toml → Bool
  | table entries => entries.isEmpty
  | array items => items.isEmpty
  | _ => false

/-- A value chosen by name: the name alone, or as the only key of a table, with nothing to it. -/
def named? {α : Type} [Named α] : Toml → Option α
  | string s => Named.ofName? s
  | table [(name, v)] => if isVoid v then Named.ofName? name else none
  | _ => none

/-- The fields of a record by name: the entries of a table, or the items of an array, called `names` in order. A moment
is a record with no field given. -/
def fields? (names : List String) : Toml → Option (String → Option Toml)
  | table entries => some fun name => entries.lookup name
  | array items => some fun name => (names.zip items).lookup name
  | moment _ => some fun _ => none
  | _ => none

/-- A field that may be left out, and then is `standard`. -/
def field? {α : Type} (standard : α) (read : Toml → Option α) : Option Toml → Option α
  | none => some standard
  | some v => read v

end Toml

end CallGraph
