import CallGraph.CommandLine.Grammar
import CallGraph.Settings.Basic
/-!
# Commands

What a command line can ask for: an extraction, whose switches override settings, or a new settings file.
`Invocation.ofArguments` reads it.
-/

namespace CallGraph.CommandLine

/-! ## Overrides -/

/-- The settings that a command line changes. Source archives come behind those of the settings; a flag only turns its
setting away from the default. -/
structure Overrides where
  policy : Option Policy := none
  sensitivity : Option UInt32 := none
  reflection : Option Reflection := none
  maxNodes : Option Int64 := none
  timeout : Option UInt64 := none
  noStaticInit : Bool := false
  noZeroLengthArray : Bool := false
  constantSpecificKeys : Bool := false
  stacksForLexicalScoping : Bool := false
  lexicalScopingForGlobals : Bool := false
  exclusions : Option String := none
  noSourceNumbers : Bool := false
  sourceText : Bool := false
  excludeSynthetic : Bool := false
  frameOrder : Option FrameOrder := none
  siteMatch : Option SiteMatch := none
  contextDetail : Option ContextDetail := none
  sourceArchives : List String := []
  encoding : Option Encoding := none
  chunkSize : Option UInt64 := none
  deriving DecidableEq, Repr

/-- The settings as overridden. -/
def Overrides.apply (o : Overrides) (s : Settings) : Settings where
  analysis :=
    { policy := o.policy.getD s.analysis.policy
      sensitivity := o.sensitivity.getD s.analysis.sensitivity
      reflection := o.reflection.getD s.analysis.reflection
      maxNodes := o.maxNodes.getD s.analysis.maxNodes
      timeout := o.timeout.getD s.analysis.timeout
      staticInit := !o.noStaticInit && s.analysis.staticInit
      zeroLengthArray := !o.noZeroLengthArray && s.analysis.zeroLengthArray
      constantSpecificKeys := o.constantSpecificKeys || s.analysis.constantSpecificKeys
      stacksForLexicalScoping := o.stacksForLexicalScoping || s.analysis.stacksForLexicalScoping
      lexicalScopingForGlobals := o.lexicalScopingForGlobals || s.analysis.lexicalScopingForGlobals
      exclusions := o.exclusions.or s.analysis.exclusions }
  resolution :=
    { sourceNumbers := !o.noSourceNumbers && s.resolution.sourceNumbers
      sourceText := o.sourceText || s.resolution.sourceText
      excludeSynthetic := o.excludeSynthetic || s.resolution.excludeSynthetic
      frameOrder := o.frameOrder.getD s.resolution.frameOrder
      siteMatch := o.siteMatch.getD s.resolution.siteMatch
      contextDetail := o.contextDetail.getD s.resolution.contextDetail
      sourceArchives := s.resolution.sourceArchives ++ o.sourceArchives }
  output :=
    { encoding := o.encoding.getD s.output.encoding
      chunkSize := o.chunkSize.getD s.output.chunkSize }

/-! ## Commands -/

inductive Command
  /-- extracts the graph recorded in `graph` to `output` -/
  | extract (jars graph output : String) (overrides : Overrides)
  | initConfig (path : Option String) (force : Bool)
  deriving DecidableEq, Repr

structure Invocation where
  settingsPath : Option String
  verbose : Bool
  command : Command
  deriving DecidableEq, Repr

/-! ## Values -/

/-- A path has at least one character. -/
def path (text : String) : Except Rejection String :=
  if text.isEmpty then .error .valueInvalid else .ok text

def choice {α : Type} [Named α] (text : String) : Except Rejection α :=
  match Named.ofName? text with
  | some a => .ok a
  | none => .error .valueInvalid

/-- The number that digits spell; there is at least one. -/
def natural? (cs : List Char) : Option Nat :=
  if cs.isEmpty then none else (cs.mapM Text.digit?).map (Text.ofDigits 10)

/-- A number with or without a sign. -/
def signed? (text : String) : Option Int :=
  match text.toList with
  | '-' :: cs => (natural? cs).map fun n => -(n : Int)
  | cs => (natural? (Text.dropFirst '+' cs)).map fun n => (n : Int)

/-- A number that is not negative and has no minus. -/
def unsigned? (text : String) : Option Nat :=
  natural? (Text.dropFirst '+' text.toList)

def word (text : String) : Except Rejection UInt32 :=
  match signed? text with
  | some n => if 0 ≤ n ∧ n < UInt32.size then .ok (UInt32.ofNat n.toNat) else .error .valueMalformed
  | none => .error .valueMalformed

def wide (text : String) : Except Rejection UInt64 :=
  match unsigned? text with
  | some n => if n < UInt64.size then .ok (UInt64.ofNat n) else .error .valueMalformed
  | none => .error .valueMalformed

def signed (text : String) : Except Rejection Int64 :=
  match signed? text with
  | some n => if Int64.minValue.toInt ≤ n ∧ n ≤ Int64.maxValue.toInt then .ok (Int64.ofInt n) else .error .valueMalformed
  | none => .error .valueMalformed

/-- The effect of a switch whose value is read by `read` and then put to use. -/
def taking {α β : Type} (read : String → Except Rejection β) (use : β → α → α) : Effect α :=
  .value fun text draft => (read text).map (use · draft)

def help {α : Type} : Switch α := { name := "help", letter := some 'h', effect := .stop .helpWanted }

/-! ## Extraction -/

/-- The arguments of an extraction as far as they are read. -/
structure ExtractDraft where
  jars : Option String := none
  graph : Option String := none
  output : String := "callgraph.json"
  overrides : Overrides := {}

/-- A flag that changes an override. -/
def overrideFlag (name : String) (change : Overrides → Overrides) : Switch ExtractDraft :=
  { name, effect := .flag fun d => { d with overrides := change d.overrides } }

/-- A switch whose value changes an override. -/
def overrideValue {β : Type} (name : String) (read : String → Except Rejection β)
    (use : β → Overrides → Overrides) : Switch ExtractDraft :=
  { name, effect := taking read fun b d => { d with overrides := use b d.overrides } }

def extractGrammar : Grammar ExtractDraft where
  switches := [
    help,
    { name := "jars", effect := taking .ok fun jars d => { d with jars := some jars } },
    { name := "graph", effect := taking path fun graph d => { d with graph := some graph } },
    { name := "cgoutput", letter := some 'o', effect := taking path fun output d => { d with output } },
    overrideValue "exclusions" path fun exclusions o => { o with exclusions := some exclusions },
    { overrideValue "source-archive" path fun archive o =>
        { o with sourceArchives := o.sourceArchives ++ [archive] } with
      repeatable := true },
    overrideValue "cgalgo" choice fun policy o => { o with policy := some policy },
    overrideValue "sensitivity" word fun sensitivity o => { o with sensitivity := some sensitivity },
    overrideValue "reflection-setting" choice fun reflection o => { o with reflection := some reflection },
    { overrideValue "max-nodes" signed fun maxNodes o => { o with maxNodes := some maxNodes } with negative := true },
    { overrideValue "timeout" wide fun timeout o => { o with timeout := some timeout } with letter := some 't' },
    overrideFlag "no-static-init" fun o => { o with noStaticInit := true },
    overrideFlag "no-zero-length-array" fun o => { o with noZeroLengthArray := true },
    overrideFlag "constant-specific-keys" fun o => { o with constantSpecificKeys := true },
    overrideFlag "stacks-for-lexical-scoping" fun o => { o with stacksForLexicalScoping := true },
    overrideFlag "lexical-scoping-for-globals" fun o => { o with lexicalScopingForGlobals := true },
    overrideFlag "no-source-numbers" fun o => { o with noSourceNumbers := true },
    overrideFlag "source-text" fun o => { o with sourceText := true },
    overrideFlag "exclude-synthetic" fun o => { o with excludeSynthetic := true },
    overrideValue "frame-order" choice fun frameOrder o => { o with frameOrder := some frameOrder },
    overrideValue "site-match" choice fun siteMatch o => { o with siteMatch := some siteMatch },
    overrideValue "context-detail" choice fun contextDetail o => { o with contextDetail := some contextDetail },
    overrideValue "format" choice fun encoding o => { o with encoding := some encoding },
    overrideValue "chunk-size" wide fun chunkSize o => { o with chunkSize := some chunkSize }]

/-- The extraction that arguments ask for; jars and graph have to be named. -/
def readExtract (args : List String) : Except Rejection Command :=
  match extractGrammar.read {} args with
  | .error reason => .error reason
  | .ok d =>
    match d.jars, d.graph with
    | some jars, some graph => .ok (.extract jars graph d.output d.overrides)
    | _, _ => .error .argumentMissing

/-! ## Settings files -/

structure InitDraft where
  path : Option String := none
  force : Bool := false

def initGrammar : Grammar InitDraft where
  switches := [help, { name := "force", effect := .flag fun d => { d with force := true } }]
  operand := some fun text d => (path text).map fun path => { d with path := some path }

def readInit (args : List String) : Except Rejection Command :=
  (initGrammar.read {} args).map fun d => .initConfig d.path d.force

/-! ## Invocations -/

/-- What stands in front of the command. -/
structure FrontDraft where
  settingsPath : Option String := none
  verbose : Bool := false

def frontGrammar : Grammar FrontDraft where
  switches := [
    help,
    { name := "version", letter := some 'V', effect := .stop .versionWanted },
    { name := "config", letter := some 'c',
      effect := taking path fun settingsPath d => { d with settingsPath := some settingsPath } },
    { name := "verbose", letter := some 'v', effect := .flag fun d => { d with verbose := true } }]
  commands := ["extract", "init-config", "help"]

/-- The command of the given name with the arguments behind it. Help can be asked for, in general or about one
command. -/
def readCommand (name : String) (args : List String) : Except Rejection Command :=
  if name = "extract" then readExtract args
  else if name = "init-config" then readInit args
  else
    match args with
    | [] => .error .helpWanted
    | [topic] => .error (if frontGrammar.commands.contains topic then .helpWanted else .commandUnknown)
    | _ => .error .commandUnknown

/-- What a command line asks for. The arguments of the command are read first, then what waits in front of it is
carried out. -/
def Invocation.ofArguments (args : List String) : Except Rejection Invocation := do
  let (front, command) ← ({ draft := {} } : Reading FrontDraft).takeAll frontGrammar args
  match command with
  | some (name, rest) =>
    let command ← readCommand name rest
    let front ← front.settle frontGrammar
    pure ⟨front.draft.settingsPath, front.draft.verbose, command⟩
  | none =>
    let front ← front.settle frontGrammar
    throw (if front.given.isEmpty then .nothingGiven else .commandMissing)

/-- What can be asked for. -/
def usage : List String :=
  ["cgextract [SWITCHES] COMMAND"] ++ frontGrammar.usage ++
    ["extract --jars JARS --graph FILE [SWITCHES]"] ++ extractGrammar.usage ++
    ["init-config [FILE] [SWITCHES]"] ++ initGrammar.usage

end CallGraph.CommandLine
