import CallGraph.Text.Basic
/-!
# Reading a command line

A command line is a list of arguments. Switches have a name behind two hyphens and perhaps a letter behind one; some
take a value, in the same argument or the next. Other arguments are operands, and so is everything behind `--`. Reading
ends at the name of a command, whose own arguments follow.

A value in an argument of its own waits until the next switch or operand, or the end, and only then is checked; so of
two mistakes an unknown argument behind it is reported first.
-/

namespace CallGraph.CommandLine

/-- Why a command line names nothing to do. -/
inductive Rejection
  | argumentMissing
  | argumentUnknown
  | argumentRepeated
  /-- a value that is missing, empty or not among the choices -/
  | valueInvalid
  /-- a value that is no number, or none in range -/
  | valueMalformed
  | valueUnexpected
  | commandMissing
  | commandUnknown
  | nothingGiven
  | helpWanted
  | versionWanted
  deriving DecidableEq, Repr

def Rejection.message : Rejection → String
  | argumentMissing => "a required argument is missing"
  | argumentUnknown => "unknown argument"
  | argumentRepeated => "an argument is given twice"
  | valueInvalid => "invalid value"
  | valueMalformed => "value is no number, or out of range"
  | valueUnexpected => "unexpected value"
  | commandMissing => "a command is missing"
  | commandUnknown => "unknown command"
  | nothingGiven | helpWanted | versionWanted => ""

/-- What a switch does to what has been read so far. -/
inductive Effect (α : Type)
  | flag (change : α → α)
  | value (change : String → α → Except Rejection α)
  | stop (reason : Rejection)

structure Switch (α : Type) where
  name : String
  letter : Option Char := none
  effect : Effect α
  repeatable : Bool := false
  /-- whether an argument that is a negative number can be its value -/
  negative : Bool := false

structure Grammar (α : Type) where
  switches : List (Switch α)
  /-- what the one operand does, if there is one -/
  operand : Option (String → α → Except Rejection α) := none
  commands : List String := []

/-- The switches, a line for each. -/
def Grammar.usage {α : Type} (g : Grammar α) : List String :=
  g.switches.map fun s =>
    (match s.letter with
      | some c => "  -" ++ String.singleton c ++ ", --"
      | none => "      --") ++ s.name

/-- What waits to be carried out. -/
inductive Pending (α : Type)
  | awaiting (s : Switch α)
  | value (s : Switch α) (text : String)
  | operand (text : String)

structure Reading (α : Type) where
  draft : α
  /-- the names of the switches carried out -/
  given : List String := []
  pending : Option (Pending α) := none
  operands : Nat := 0
  /-- whether a `--` lies behind -/
  onlyOperands : Bool := false

namespace Reading

variable {α : Type}

/-- Carries out a switch, with a value if it takes one. -/
def carryOut (r : Reading α) (s : Switch α) (text : String) : Except Rejection (Reading α) :=
  if r.given.contains s.name && !s.repeatable then .error .argumentRepeated
  else
    let r := { r with given := s.name :: r.given }
    match s.effect with
    | .flag change => .ok { r with draft := change r.draft }
    | .value change => (change text r.draft).map fun draft => { r with draft }
    | .stop reason => .error reason

/-- Carries out what is pending. -/
def settle (g : Grammar α) (r : Reading α) : Except Rejection (Reading α) :=
  let settled := { r with pending := none }
  match r.pending with
  | none => .ok r
  | some (.awaiting _) => .error .valueInvalid
  | some (.value s text) => settled.carryOut s text
  | some (.operand text) =>
    match g.operand with
    | some change => (change text r.draft).map fun draft => { settled with draft }
    | none => .ok settled

/-- Carries out a switch once what is pending is done. -/
def now (g : Grammar α) (r : Reading α) (s : Switch α) (text : String) : Except Rejection (Reading α) :=
  match r.settle g with
  | .error reason => .error reason
  | .ok r => r.carryOut s text

/-- Leaves the value of a switch to the next argument. -/
def await (g : Grammar α) (r : Reading α) (s : Switch α) : Except Rejection (Reading α) :=
  (r.settle g).map fun r => { r with pending := some (.awaiting s) }

/-- Takes a switch by its name, with the value behind an equals sign if there is one. -/
def named (g : Grammar α) (r : Reading α) (name : String) (attached : Option String) :
    Except Rejection (Reading α) :=
  match g.switches.find? (·.name = name) with
  | none => .error .argumentUnknown
  | some s =>
    match s.effect, attached with
    | .value _, some text => r.now g s text
    | .value _, none => r.await g s
    | _, some _ => .error .valueUnexpected
    | _, none => r.now g s ""

/-- Takes the switches that letters stand for; behind one that takes a value comes the value, or an equals sign and the
value. -/
def lettered (g : Grammar α) (r : Reading α) : List Char → Except Rejection (Reading α)
  | [] => .ok r
  | c :: rest =>
    match g.switches.find? (·.letter = some c) with
    | none => .error .argumentUnknown
    | some s =>
      match s.effect with
      | .value _ =>
        if rest.isEmpty then r.await g s else r.now g s (String.ofList (Text.dropFirst '=' rest))
      | _ =>
        match r.now g s "" with
        | .error reason => .error reason
        | .ok r => lettered g r rest

/-- Takes an operand. -/
def operand (g : Grammar α) (r : Reading α) (text : String) : Except Rejection (Reading α) :=
  if g.operand.isSome && r.operands = 0 then
    (r.settle g).map fun r => { r with pending := some (.operand text), operands := 1 }
  else if g.commands.isEmpty || (r.onlyOperands && g.commands.contains text) then .error .argumentUnknown
  else .error .commandUnknown

/-- The switch that the next argument can be the value of. -/
def awaited (r : Reading α) : Option (Switch α) :=
  match r.pending with
  | some (.awaiting s) => if r.onlyOperands then none else some s
  | _ => none

end Reading

/-- Whether characters look like a number: digits, perhaps with a point and with an exponent behind. -/
def isNumber (cs : List Char) : Bool :=
  let (mantissa, exponent) := cs.span (· ≠ 'e')
  let (whole, fraction) := mantissa.span (· ≠ '.')
  let digits (cs : List Char) : Bool := cs.all Char.isDigit
  !whole.isEmpty && digits whole && digits (fraction.drop 1) && exponent.length ≠ 1 && digits (exponent.drop 1)

namespace Reading

variable {α : Type}

/-- Takes an argument that is no switch. -/
def other (g : Grammar α) (r : Reading α) (arg : String) : Except Rejection (Reading α) :=
  match r.awaited with
  | some s => .ok { r with pending := some (.value s arg) }
  | none => r.operand g arg

/-- Takes one argument. -/
def take (g : Grammar α) (r : Reading α) (arg : String) : Except Rejection (Reading α) :=
  if r.onlyOperands then r.operand g arg
  else
    match arg.toList with
    | ['-', '-'] => .ok { r with onlyOperands := true }
    | '-' :: '-' :: cs =>
      let (name, attached) := cs.span (· ≠ '=')
      r.named g (String.ofList name) (if attached.isEmpty then none else some (String.ofList (attached.drop 1)))
    | ['-'] => r.other g arg
    | '-' :: cs =>
      if r.awaited.any (·.negative) && isNumber cs then r.other g arg else r.lettered g cs
    | _ => r.other g arg

/-- Takes arguments up to a command; gives the command with the arguments behind it. -/
def takeAll (g : Grammar α) (r : Reading α) :
    List String → Except Rejection (Reading α × Option (String × List String))
  | [] => .ok (r, none)
  | arg :: rest =>
    if !r.onlyOperands && r.awaited.isNone && g.commands.contains arg then .ok (r, some (arg, rest))
    else
      match r.take g arg with
      | .error reason => .error reason
      | .ok r => takeAll g r rest

end Reading

/-- Reads all of the arguments of a command. -/
def Grammar.read {α : Type} (g : Grammar α) (draft : α) (args : List String) : Except Rejection α :=
  match ({ draft } : Reading α).takeAll g args with
  | .error reason => .error reason
  | .ok (r, _) => (r.settle g).map (·.draft)

end CallGraph.CommandLine
