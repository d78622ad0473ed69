import CallGraph.Json.Text
import CallGraph.Walk
/-!
# Record encodings

What a file of records says, piece by piece: something at its start, a row for each record, something at its end. As
JSON that is one array of objects, which leave out the caller's context; as tab-separated values a header line and one
line per record, whose fields hold no tab and no line end of their own.
-/

namespace CallGraph

namespace Json

/-- A member of an object; `first` members have no comma before them. -/
def memberPieces (first : Bool) (key : String) (value : List String) : List String :=
  (if first then [] else [","]) ++ stringPieces key ++ [":"] ++ value

/-- Values with commas between them. -/
def elementPieces : List (List String) → List String
  | [] => []
  | [v] => v
  | v :: rest => v ++ "," :: elementPieces rest

def stringListPieces (ss : List String) : List String :=
  "[" :: (elementPieces (ss.map stringPieces) ++ ["]"])

/-- A record as an object. -/
def recordPieces (r : Record) : List String :=
  "\x7b" :: (memberPieces true "caller" (stringPieces r.caller) ++
    memberPieces false "callInstruction" (stringPieces r.callSite) ++
    memberPieces false "actualTarget" (stringPieces r.target) ++
    memberPieces false "contexts" (stringListPieces r.targetContext) ++ ["\x7d"])

end Json

namespace Tsv

def header : String := "caller\tcallsite\tcalling_context\ttarget\ttarget_context\n"

/-- A field without the characters that end fields and lines. -/
def sanitize (field : String) : String :=
  String.ofList (field.toList.map fun c => if c = '\t' ∨ c = '\n' ∨ c = '\r' then ' ' else c)

def contextText (frames : List String) : String :=
  "[" ++ Text.join ", " (frames.map sanitize) ++ "]"

/-- A record as a line. -/
def recordPieces (r : Record) : List String :=
  [sanitize r.caller, "\t", sanitize r.callSite, "\t", contextText r.callerContext, "\t", sanitize r.target, "\t",
    contextText r.targetContext, "\n"]

end Tsv

namespace Encoding

/-- The start of a file. -/
def opening : Encoding → List String
  | json => ["["]
  | tsv => [Tsv.header]

/-- A record, `position` being the number of records before it in the file. -/
def row (position : Nat) (r : Record) : Encoding → List String
  | json => (if position = 0 then [] else [","]) ++ Json.recordPieces r
  | tsv => Tsv.recordPieces r

/-- The end of a file. -/
def closing : Encoding → List String
  | json => ["]"]
  | tsv => []

end Encoding

end CallGraph
