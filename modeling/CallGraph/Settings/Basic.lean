/-!
# Settings

What a run can be told: how the graph was to be built (`Analysis`), how sites and contexts are resolved (`Resolution`),
and how records are written (`Output`). Every choice has a name, the same in files and on the command line, and every
field a default.
-/

namespace CallGraph

/-- Types whose values are chosen by name. -/
class Named (α : Type) where
  all : List α
  name : α → String

/-- The value called `s`. -/
def Named.ofName? {α : Type} [Named α] (s : String) : Option α :=
  (Named.all : List α).find? (Named.name · = s)

/-- A context policy: the construction algorithm and the contexts it distinguishes. -/
inductive Policy
  | zeroCfa | zeroOneCfa | vanillaZeroOneCfa | zeroContainerCfa | zeroOneContainerCfa | vanillaZeroOneContainerCfa
  | nCfa | vanillaNCfa | nObj | vanillaNObj | rta
  deriving DecidableEq, Repr

namespace Policy

def all : List Policy :=
  [.zeroCfa, .zeroOneCfa, .vanillaZeroOneCfa, .zeroContainerCfa, .zeroOneContainerCfa, .vanillaZeroOneContainerCfa,
    .nCfa, .vanillaNCfa, .nObj, .vanillaNObj, .rta]

def name : Policy → String
  | zeroCfa => "zero-cfa"
  | zeroOneCfa => "zero-one-cfa"
  | vanillaZeroOneCfa => "vanilla-zero-one-cfa"
  | zeroContainerCfa => "zero-container-cfa"
  | zeroOneContainerCfa => "zero-one-container-cfa"
  | vanillaZeroOneContainerCfa => "vanilla-zero-one-container-cfa"
  | nCfa => "n-cfa"
  | vanillaNCfa => "vanilla-n-cfa"
  | nObj => "n-obj"
  | vanillaNObj => "vanilla-n-obj"
  | rta => "rta"

/-- The policies with contexts of a chosen depth. -/
def usesDepth : Policy → Bool
  | nCfa | vanillaNCfa | nObj | vanillaNObj => true
  | _ => false

end Policy

instance : Named Policy := ⟨Policy.all, Policy.name⟩

/-- How reflective calls are modelled. -/
inductive Reflection
  | full | applicationGetMethod | noFlowToCasts | noFlowToCastsApplicationGetMethod | noMethodInvoke
  | noFlowToCastsNoMethodInvoke | oneFlowToCastsNoMethodInvoke | oneFlowToCastsApplicationGetMethod
  | multiFlowToCastsApplicationGetMethod | noStringConstants | stringOnly | none
  deriving DecidableEq, Repr

namespace Reflection

def all : List Reflection :=
  [.full, .applicationGetMethod, .noFlowToCasts, .noFlowToCastsApplicationGetMethod, .noMethodInvoke,
    .noFlowToCastsNoMethodInvoke, .oneFlowToCastsNoMethodInvoke, .oneFlowToCastsApplicationGetMethod,
    .multiFlowToCastsApplicationGetMethod, .noStringConstants, .stringOnly, .none]

def name : Reflection → String
  | full => "full"
  | applicationGetMethod => "application-get-method"
  | noFlowToCasts => "no-flow-to-casts"
  | noFlowToCastsApplicationGetMethod => "no-flow-to-casts-application-get-method"
  | noMethodInvoke => "no-method-invoke"
  | noFlowToCastsNoMethodInvoke => "no-flow-to-casts-no-method-invoke"
  | oneFlowToCastsNoMethodInvoke => "one-flow-to-casts-no-method-invoke"
  | oneFlowToCastsApplicationGetMethod => "one-flow-to-casts-application-get-method"
  | multiFlowToCastsApplicationGetMethod => "multi-flow-to-casts-application-get-method"
  | noStringConstants => "no-string-constants"
  | stringOnly => "string-only"
  | none => "none"

/-- The name in one word, as reports on mismatched options spell it. -/
def title : Reflection → String
  | full => "Full"
  | applicationGetMethod => "ApplicationGetMethod"
  | noFlowToCasts => "NoFlowToCasts"
  | noFlowToCastsApplicationGetMethod => "NoFlowToCastsApplicationGetMethod"
  | noMethodInvoke => "NoMethodInvoke"
  | noFlowToCastsNoMethodInvoke => "NoFlowToCastsNoMethodInvoke"
  | oneFlowToCastsNoMethodInvoke => "OneFlowToCastsNoMethodInvoke"
  | oneFlowToCastsApplicationGetMethod => "OneFlowToCastsApplicationGetMethod"
  | multiFlowToCastsApplicationGetMethod => "MultiFlowToCastsApplicationGetMethod"
  | noStringConstants => "NoStringConstants"
  | stringOnly => "StringOnly"
  | none => "None"

end Reflection

instance : Named Reflection := ⟨Reflection.all, Reflection.name⟩

/-- How records are encoded. -/
inductive Encoding
  | json | tsv
  deriving DecidableEq, Repr

namespace Encoding

def all : List Encoding := [.json, .tsv]

def name : Encoding → String
  | json => "json"
  | tsv => "tsv"

end Encoding

instance : Named Encoding := ⟨Encoding.all, Encoding.name⟩

/-- The order of the frames of a context; contexts store the outermost caller first. -/
inductive FrameOrder
  | outerFirst | innerFirst
  deriving DecidableEq, Repr

namespace FrameOrder

def all : List FrameOrder := [.outerFirst, .innerFirst]

def name : FrameOrder → String
  | outerFirst => "outer-first"
  | innerFirst => "inner-first"

end FrameOrder

instance : Named FrameOrder := ⟨FrameOrder.all, FrameOrder.name⟩

/-- Which instruction stands for a call site that several match. -/
inductive SiteMatch
  | first | last
  deriving DecidableEq, Repr

namespace SiteMatch

def all : List SiteMatch := [.first, .last]

def name : SiteMatch → String
  | first => "first"
  | last => "last"

end SiteMatch

instance : Named SiteMatch := ⟨SiteMatch.all, SiteMatch.name⟩

/-- Whose contexts are resolved: nobody's, the target's, or the caller's as well. -/
inductive ContextDetail
  | none | target | full
  deriving DecidableEq, Repr

namespace ContextDetail

def all : List ContextDetail := [.none, .target, .full]

def name : ContextDetail → String
  | none => "none"
  | target => "target"
  | full => "full"

end ContextDetail

instance : Named ContextDetail := ⟨ContextDetail.all, ContextDetail.name⟩

namespace Settings

/-- How the graph is built. A negative `maxNodes` sets no bound; `timeout` is in milliseconds; `exclusions` is a file of
patterns of class names. -/
structure Analysis where
  policy : Policy := .zeroCfa
  sensitivity : UInt32 := 1
  reflection : Reflection := .none
  maxNodes : Int64 := -1
  timeout : UInt64 := 7200000
  staticInit : Bool := true
  zeroLengthArray : Bool := true
  constantSpecificKeys : Bool := false
  stacksForLexicalScoping : Bool := false
  lexicalScopingForGlobals : Bool := false
  exclusions : Option String := none
  deriving DecidableEq, Repr, Inhabited

/-- How call sites and contexts are resolved. `sourceArchives` are searched in order, after the analysed artifacts. -/
structure Resolution where
  sourceNumbers : Bool := true
  sourceText : Bool := false
  excludeSynthetic : Bool := false
  frameOrder : FrameOrder := .outerFirst
  siteMatch : SiteMatch := .first
  contextDetail : ContextDetail := .full
  sourceArchives : List String := []
  deriving DecidableEq, Repr, Inhabited

/-- How records are written: their encoding, and how many a file holds at most. -/
structure Output where
  encoding : Encoding := .json
  chunkSize : UInt64 := 1000000
  deriving DecidableEq, Repr, Inhabited

end Settings

structure Settings where
  analysis : Settings.Analysis := {}
  resolution : Settings.Resolution := {}
  output : Settings.Output := {}
  deriving DecidableEq, Repr, Inhabited

/-- The bound on the number of nodes, if there is one. -/
def Settings.Analysis.nodeLimit? (a : Settings.Analysis) : Option Nat :=
  if a.maxNodes < 0 then none else some a.maxNodes.toInt.toNat

end CallGraph
