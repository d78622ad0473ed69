/-!
# Cancellation

A build can be told to stop, by request or because its time is up. Whoever holds a token can ask; copies of a token
belong to one family, and what is requested of one holds for all. Asking after the deadline settles the answer: the
family stays cancelled from then on.
-/

namespace CallGraph

/-- What the tokens of one family share. The deadline is a reading of the clock. -/
structure Family where
  cancelled : Bool := false
  deadline : Option Nat := none
  deriving DecidableEq, Repr, Inhabited

namespace Family

/-- A family made when the clock shows `now`, with `timeout` to go. -/
def withTimeout (timeout : Option Nat) (now : Nat) : Family :=
  { deadline := timeout.map (now + ·) }

/-- Whether the deadline has come, whatever was requested. -/
def deadlinePassed (f : Family) (now : Nat) : Bool :=
  f.deadline.any (· ≤ now)

def isCancelled (f : Family) (now : Nat) : Bool :=
  f.cancelled || f.deadlinePassed now

def cancel (f : Family) : Family := { f with cancelled := true }

/-- The family after one of its tokens was asked. -/
def poll (f : Family) (now : Nat) : Family :=
  if f.isCancelled now then f.cancel else f

end Family

/-- The tokens in use, each by the position of its family. -/
structure Tokens where
  families : Array Family := #[]
  tokens : Array Nat := #[]
  deriving Repr, Inhabited

namespace Tokens

/-- A token of a new family; its number is the count of the tokens before it. -/
def create (ts : Tokens) (timeout : Option Nat) (now : Nat) : Tokens :=
  ⟨ts.families.push (.withTimeout timeout now), ts.tokens.push ts.families.size⟩

/-- One more token of the family of `token`. -/
def copy (ts : Tokens) (token : Nat) : Tokens :=
  match ts.tokens[token]? with
  | some family => { ts with tokens := ts.tokens.push family }
  | none => ts

def family? (ts : Tokens) (token : Nat) : Option Family :=
  ts.tokens[token]?.bind (ts.families[·]?)

/-- Changes what the family of `token` shares. -/
def update (ts : Tokens) (token : Nat) (change : Family → Family) : Tokens :=
  match ts.tokens[token]? with
  | some family => { ts with families := ts.families.modify family change }
  | none => ts

def cancel (ts : Tokens) (token : Nat) : Tokens := ts.update token .cancel

/-- Asks a token; there is no answer if there is no such token. -/
def isCancelled (ts : Tokens) (token now : Nat) : Option Bool × Tokens :=
  ((ts.family? token).map (·.isCancelled now), ts.update token (·.poll now))

def deadlinePassed (ts : Tokens) (token now : Nat) : Option Bool :=
  (ts.family? token).map (·.deadlinePassed now)

end Tokens

end CallGraph
