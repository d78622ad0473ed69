import CallGraph.Pattern.Charset
import CallGraph.Pattern.Unicode.Categories
import CallGraph.Pattern.Unicode.Properties
import CallGraph.Pattern.Unicode.Scripts
/-!
# Sets of characters by name

The names under which patterns know sets of characters: general categories and their groups, properties, scripts. Case,
blanks, hyphens and underscores do not count in a name, nor does `is` in front of it.
-/

namespace CallGraph.Unicode

/-! ## Categories -/

def category (code : String) : Charset :=
  match categoryTable.lookup code with
  | some text => .runs (Run.listOfText text)
  | none => .empty

def categories (codes : List String) : Charset := .unionAll (codes.map category)

def letterCodes : List String := ["Lu", "Ll", "Lt", "Lm", "Lo"]
def markCodes : List String := ["Mn", "Mc", "Me"]
def numberCodes : List String := ["Nd", "Nl", "No"]
def punctuationCodes : List String := ["Pc", "Pd", "Ps", "Pe", "Pi", "Pf", "Po"]
def symbolCodes : List String := ["Sm", "Sc", "Sk", "So"]
def separatorCodes : List String := ["Zs", "Zl", "Zp"]
def controlCodes : List String := ["Cc", "Cf", "Co"]

def assigned : Charset :=
  categories (letterCodes ++ markCodes ++ numberCodes ++ punctuationCodes ++ symbolCodes ++ separatorCodes ++ controlCodes)

/-- The names of the categories and of their groups. -/
def categoryNames : List (List String × List String) := [
  (["l", "letter"], letterCodes),
  (["lc", "casedletter"], ["Lu", "Ll", "Lt"]),
  (["lu", "uppercaseletter"], ["Lu"]),
  (["ll", "lowercaseletter"], ["Ll"]),
  (["lt", "titlecaseletter"], ["Lt"]),
  (["lm", "modifierletter"], ["Lm"]),
  (["lo", "otherletter"], ["Lo"]),
  (["m", "mark", "combiningmark"], markCodes),
  (["mn", "nonspacingmark"], ["Mn"]),
  (["mc", "spacingmark"], ["Mc"]),
  (["me", "enclosingmark"], ["Me"]),
  (["n", "number"], numberCodes),
  (["nd", "decimalnumber", "digit"], ["Nd"]),
  (["nl", "letternumber"], ["Nl"]),
  (["no", "othernumber"], ["No"]),
  (["p", "punctuation", "punct"], punctuationCodes),
  (["pc", "connectorpunctuation"], ["Pc"]),
  (["pd", "dashpunctuation"], ["Pd"]),
  (["ps", "openpunctuation"], ["Ps"]),
  (["pe", "closepunctuation"], ["Pe"]),
  (["pi", "initialpunctuation"], ["Pi"]),
  (["pf", "finalpunctuation"], ["Pf"]),
  (["po", "otherpunctuation"], ["Po"]),
  (["s", "symbol"], symbolCodes),
  (["sm", "mathsymbol"], ["Sm"]),
  (["sc", "currencysymbol"], ["Sc"]),
  (["sk", "modifiersymbol"], ["Sk"]),
  (["so", "othersymbol"], ["So"]),
  (["z", "separator"], separatorCodes),
  (["zs", "spaceseparator"], ["Zs"]),
  (["zl", "lineseparator"], ["Zl"]),
  (["zp", "paragraphseparator"], ["Zp"]),
  (["cc", "control", "cntrl"], ["Cc"]),
  (["cf", "format"], ["Cf"]),
  (["co", "privateuse"], ["Co"]),
  (["cs", "surrogate"], [])
]

/-- The set of a general category or a group of them, by its plain name. -/
def category? (name : String) : Option Charset :=
  if name = "any" then some (.complement .empty)
  else if name = "ascii" then some (.runs [⟨0, 0x7F, 1⟩])
  else if name = "assigned" then some assigned
  else if name = "cn" || name = "unassigned" then some (.complement assigned)
  else if name = "c" || name = "other" then some (.union (categories controlCodes) (.complement assigned))
  else (categoryNames.find? fun row => row.1.contains name).map fun row => categories row.2

/-! ## Properties -/

/-- The set of a property in `propertyTable`. -/
def tabled? (table : List (List String × String)) (name : String) : Option Charset :=
  (table.find? fun row => row.1.contains name).map fun row => .runs (Run.listOfText row.2)

/-- A property that is made of categories, but for the characters in `otherTable`. -/
def derived (title : String) (base : Charset) : Charset :=
  match otherTable.lookup title with
  | some (more, less) => .difference (.union base (.runs (Run.listOfText more))) (.runs (Run.listOfText less))
  | none => base

def alphabetic : Charset := derived "Alphabetic" (categories (letterCodes ++ ["Nl"]))

/-- The categories of the characters of identifiers. -/
def identifierCodes : List String := letterCodes ++ ["Nl", "Mn", "Mc", "Nd", "Pc"]

def derivedProperties : List (List String × (Unit → Charset)) := [
  (["alphabetic", "alpha"], fun () => alphabetic),
  (["lowercase", "lower"], fun () => derived "Lowercase" (category "Ll")),
  (["uppercase", "upper"], fun () => derived "Uppercase" (category "Lu")),
  (["cased"], fun () => derived "Cased" (categories ["Lu", "Ll", "Lt"])),
  (["caseignorable", "ci"], fun () => derived "Case_Ignorable" (categories ["Mn", "Me", "Cf", "Lm", "Sk"])),
  (["graphemeextend", "grext"], fun () => derived "Grapheme_Extend" (categories ["Mn", "Me"])),
  (["idstart", "ids"], fun () => derived "ID_Start" (categories (letterCodes ++ ["Nl"]))),
  (["idcontinue", "idc"], fun () => derived "ID_Continue" (categories identifierCodes)),
  (["xidstart", "xids"], fun () => derived "XID_Start" (categories (letterCodes ++ ["Nl"]))),
  (["xidcontinue", "xidc"], fun () => derived "XID_Continue" (categories identifierCodes))
]

def property? (name : String) : Option Charset :=
  match derivedProperties.find? fun row => row.1.contains name with
  | some row => some (row.2 ())
  | none => tabled? propertyTable name

def script? (name : String) : Option Charset := tabled? scriptTable name

/-- The characters that words are made of. -/
def word : Charset :=
  .unionAll [alphabetic, categories (markCodes ++ ["Nd", "Pc"]), (property? "joincontrol").getD .empty]

def digit : Charset := category "Nd"

def space : Charset := (property? "whitespace").getD .empty

/-! ## Names -/

/-- What counts in a name. The property `isc` keeps its name, which begins with `is` by chance. -/
def plainName (name : List Char) : String :=
  let marked := (name.take 2).map Char.toLower = ['i', 's']
  let cs := ((if marked then name.drop 2 else name).filter fun c =>
    c ≠ ' ' && c ≠ '_' && c ≠ '-' && c.toNat < 0x80).map Char.toLower
  if marked && cs = ['c'] then "isc" else String.ofList cs

/-- The set with a name of its own. `Sc` and `Cf` are categories, although properties have these names too. -/
def named? (name : List Char) : Option Charset :=
  let plain := plainName name
  (if plain = "cf" || plain = "sc" || plain = "lc" then none else property? plain) <|> category? plain <|> script? plain

/-- The set of the characters for which `property` has the value `value`. -/
def valued? (property value : List Char) : Option Charset :=
  let plain := plainName property
  if plain = "gc" || plain = "generalcategory" then category? (plainName value)
  else if plain = "sc" || plain = "script" || plain = "scx" || plain = "scriptextensions" then script? (plainName value)
  else none

end CallGraph.Unicode
