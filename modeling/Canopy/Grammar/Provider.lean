import Canopy.Grammar.Handle
import Canopy.Log.Entry
import Canopy.Syntax.Tree

namespace Canopy

/-- A tree with the parser's word on whether it had to recover from errors. -/
structure Parse where
  tree : Tree
  hasError : Bool
deriving Repr

/-- The grammar of one language, loaded on first use and then held. -/
structure Provider where
  language : String
  grammar : String
  window : Window := .runtime
  held : Option Grammar := none
deriving Repr

/-- An operation on a provider: its result, the provider afterwards, whether the loader was asked,
and what was logged. -/
structure Provider.Outcome (ε α : Type) where
  result : Except ε α
  provider : Provider
  asked : Bool
  logs : List Log.Entry

/-- Why a parse has no result. -/
inductive Provider.Fault where
  | grammar (fault : GrammarFault)
  | parse (fault : ParseFault)
deriving Repr, DecidableEq

def Provider.Fault.report : Provider.Fault → Report
  | .grammar fault => fault.report
  | .parse fault => fault.report

namespace Provider

/-- A provider needs the name of its language; without a grammar name the language's is used. -/
def create? (language : String) (grammar : Option String) (window : Window) : Option Provider :=
  if language = "" then none
  else
    let name := grammar.getD ""
    some { language, grammar := if name = "" then language else name, window }

/-- What is said when a language without a name is refused. -/
def unnamedMessage : String := "language_name cannot be empty"

def describe (p : Provider) : String := "GrammarProvider(language='" ++ p.language ++ "')"

/-- An entry with the names that every entry of a provider has. -/
def entry (p : Provider) (level : Log.Level) (event : String) (fields : Dict Json) : Log.Entry :=
  ⟨level, event,
    Dict.merge [("language", .str p.language), ("grammar", .str p.grammar)] fields⟩

/-- What a fault of the grammar leaves in the log. -/
def faultLogs (p : Provider) : GrammarFault → List Log.Entry
  | .loadFailed _ _ text => [p.entry .error "grammar_load_failed" [("error", .str text)]]
  | .missing _ => [p.entry .error "grammar_missing" []]
  | .tooNew _ version window =>
    [p.entry .error "grammar_abi_too_new"
      [("abi_version", version.toJson), ("max_version", .int window.greatest)]]
  | .tooOld _ version window =>
    [p.entry .error "grammar_abi_too_old"
      [("abi_version", version.toJson), ("min_version", .int window.least)]]
  | .versionUnknown .. => []
  | .rejected .. => []

/-- The grammar that is held, else the one that the loader gives now, which is held from then on. -/
def load (answer : LoadAnswer) (p : Provider) : Outcome GrammarFault Grammar :=
  match p.held with
  | some grammar => ⟨.ok grammar, p, false, []⟩
  | none =>
    match answer with
    | .failed text =>
      let fault := .loadFailed p.language p.grammar text
      ⟨.error fault, p, true, p.faultLogs fault⟩
    | .missing =>
      let fault := .missing p.language
      ⟨.error fault, p, true, p.faultLogs fault⟩
    | .loaded grammar =>
      ⟨.ok grammar, { p with held := some grammar }, true, [p.entry .debug "grammar_loaded" []]⟩

/-- Whether the version lies in the window. The upper end is looked at first. -/
def checkVersion (p : Provider) (g : Grammar) : Except GrammarFault Grammar :=
  match g.version? with
  | none => .error (.versionUnknown p.language p.window)
  | some version =>
    if version.toInt > p.window.greatest then .error (.tooNew p.language version p.window)
    else if version.toInt < p.window.least then .error (.tooOld p.language version p.window)
    else .ok g

/-- A parser takes a grammar unless the runtime rejects it. -/
def acceptGrammar (p : Provider) (g : Grammar) : Except GrammarFault Grammar :=
  match g.rejection with
  | some text => .error (.rejected p.language g.version? p.window text)
  | none => .ok g

/-- Goes on with a check of the grammar that was loaded. -/
def Outcome.check (o : Outcome GrammarFault Grammar)
    (test : Provider → Grammar → Except GrammarFault Grammar) : Outcome GrammarFault Grammar :=
  match o.result with
  | .error _ => o
  | .ok grammar =>
    match test o.provider grammar with
    | .ok grammar => { o with result := .ok grammar }
    | .error fault =>
      { o with result := .error fault, logs := o.logs ++ o.provider.faultLogs fault }

def validate (answer : LoadAnswer) (p : Provider) : Outcome GrammarFault Grammar :=
  (p.load answer).check checkVersion

def abiVersion (answer : LoadAnswer) (p : Provider) : Outcome GrammarFault (Option AbiVersion) :=
  let o := p.load answer
  ⟨o.result.map Grammar.version?, o.provider, o.asked, o.logs⟩

/-- A parser of its own for each call, over the grammar that is held. -/
def createParser (answer : LoadAnswer) (p : Provider) : Outcome GrammarFault Grammar :=
  (p.validate answer).check acceptGrammar

/-- Parses a source of `length` octets. What the parser would return is `found`; it is looked at
only if the grammar is usable and the parser does not fail. Errors in the source are no fault. -/
def parse (answer : LoadAnswer) (found : Option Parse) (length : Nat) (p : Provider) :
    Outcome Fault Parse :=
  let o := p.createParser answer
  let finish (result : Except Fault Parse) (logs : List Log.Entry) : Outcome Fault Parse :=
    ⟨result, o.provider, o.asked, o.logs ++ logs⟩
  let size : String × Json := ("source_length", Json.nat length)
  match o.result with
  | .error fault => finish (.error (.grammar fault)) []
  | .ok grammar =>
    match grammar.parseFailure, found with
    | some text, _ =>
      finish (.error (.parse (.failed p.language text)))
        [p.entry .error "parse_failed" [size, ("error", .str text)]]
    | none, none =>
      finish (.error (.parse (.noTree p.language)))
        [p.entry .error "parse_returned_no_tree" [size]]
    | none, some parsed =>
      finish (.ok parsed)
        [p.entry .debug "parse_success" [size, ("has_errors", .bool parsed.hasError)]]

end Provider
end Canopy
