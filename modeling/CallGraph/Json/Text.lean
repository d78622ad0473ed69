/-!
# Strings in JSON text

How a string is written: between quotes, with a backslash before quotes and backslashes and an escape for each control
character. It is written in pieces, stretches that need no escape being one piece each.
-/

namespace CallGraph.Json

/-- The digit of a number below sixteen. -/
def hexDigit (n : Nat) : Char :=
  if n < 10 then Char.ofNat ('0'.toNat + n) else Char.ofNat ('a'.toNat + n - 10)

/-- What is written in place of a character that may not stand for itself. -/
def escape? (c : Char) : Option (List Char) :=
  if c = '"' then some ['\\', '"']
  else if c = '\\' then some ['\\', '\\']
  else if c.toNat ≥ 0x20 then none
  else if c = '\n' then some ['\\', 'n']
  else if c = '\r' then some ['\\', 'r']
  else if c = '\t' then some ['\\', 't']
  else if c.toNat = 8 then some ['\\', 'b']
  else if c.toNat = 12 then some ['\\', 'f']
  else some ['\\', 'u', '0', '0', hexDigit (c.toNat / 16), hexDigit (c.toNat % 16)]

/-- A stretch of characters, last one first, as a piece; an empty one is no piece. -/
def stretch (cs : List Char) : List String :=
  if cs.isEmpty then [] else [String.ofList cs.reverse]

/-- The pieces of what stands between the quotes, `before` being the stretch read so far. -/
def contentPieces (before : List Char) : List Char → List String
  | [] => stretch before
  | c :: rest =>
    match escape? c with
    | none => contentPieces (c :: before) rest
    | some e => stretch before ++ String.ofList e :: contentPieces [] rest

/-- The pieces of a string as it is written. -/
def stringPieces (s : String) : List String :=
  "\"" :: (contentPieces [] s.toList ++ ["\""])

end CallGraph.Json
