import Canopy.Report

namespace Canopy

/-- A version as a handle states it. Truth values count as the numbers zero and one. -/
inductive AbiVersion where
  | number (n : Int)
  | flag (b : Bool)
deriving Repr, DecidableEq

namespace AbiVersion

def toInt : AbiVersion → Int
  | .number n => n
  | .flag b => if b then 1 else 0

def text : AbiVersion → String
  | .number n => toString n
  | .flag b => if b then "True" else "False"

def toJson : AbiVersion → Json
  | .number n => .int n
  | .flag b => .bool b

/-- Only integers and truth values are versions. -/
def ofJson? : Json → Option AbiVersion
  | .int n => some (.number n)
  | .bool b => some (.flag b)
  | _ => none

end AbiVersion

/-- A loaded grammar: what its handle states, and how the parser takes it. -/
structure Grammar where
  attributes : Dict Json
  rejection : Option String := none
  parseFailure : Option String := none
deriving Repr

namespace Grammar

/-- Newer handles state `abi_version`, older ones `version`. The first counts unless it is absent
or null. -/
def version? (g : Grammar) : Option AbiVersion :=
  match g.attributes.get? "abi_version" with
  | some .null => (g.attributes.get? "version").bind AbiVersion.ofJson?
  | none => (g.attributes.get? "version").bind AbiVersion.ofJson?
  | some value => AbiVersion.ofJson? value

end Grammar

/-- What comes of asking for a grammar by its name. -/
inductive LoadAnswer where
  | failed (text : String)
  | missing
  | loaded (grammar : Grammar)
deriving Repr

abbrev Loader := String → LoadAnswer

/-- The versions that the runtime accepts, both ends included. -/
structure Window where
  least : Int
  greatest : Int
deriving Repr, DecidableEq

def Window.runtime : Window := ⟨13, 15⟩

/-- Why a grammar cannot be used. -/
inductive GrammarFault where
  | loadFailed (language grammar text : String)
  | missing (language : String)
  | versionUnknown (language : String) (window : Window)
  | tooNew (language : String) (version : AbiVersion) (window : Window)
  | tooOld (language : String) (version : AbiVersion) (window : Window)
  | rejected (language : String) (version : Option AbiVersion) (window : Window) (text : String)
deriving Repr, DecidableEq

namespace GrammarFault

def language : GrammarFault → String
  | .loadFailed language _ _ => language
  | .missing language => language
  | .versionUnknown language _ => language
  | .tooNew language _ _ => language
  | .tooOld language _ _ => language
  | .rejected language _ _ _ => language

def message : GrammarFault → String
  | .loadFailed _ grammar text =>
    "Tree-sitter grammar '" ++ grammar ++ "' could not be loaded: " ++ text
  | .missing language => "Tree-sitter grammar for '" ++ language ++ "' is missing"
  | .versionUnknown language _ =>
    "Cannot determine ABI version of the " ++ language ++ " grammar"
  | .tooNew language version window =>
    language ++ " grammar ABI version " ++ version.text ++
      " is newer than the tree-sitter runtime supports (" ++ toString window.greatest ++
      "). Please update the tree-sitter library."
  | .tooOld language version window =>
    language ++ " grammar ABI version " ++ version.text ++
      " is too old for the tree-sitter runtime (minimum version: " ++ toString window.least ++
      "). Please regenerate the grammar with a newer tree-sitter CLI."
  | .rejected language _ _ text =>
    "Failed to set " ++ language ++ " language for parser: " ++ text

def window? : GrammarFault → Option Window
  | .loadFailed .. => none
  | .missing _ => none
  | .versionUnknown _ window => some window
  | .tooNew _ _ window => some window
  | .tooOld _ _ window => some window
  | .rejected _ _ window _ => some window

def version? : GrammarFault → Option AbiVersion
  | .tooNew _ version _ => some version
  | .tooOld _ version _ => some version
  | .rejected _ version _ _ => version
  | _ => none

def cause? : GrammarFault → Option String
  | .loadFailed _ _ text => some text
  | .rejected _ _ _ text => some text
  | _ => none

def report (f : GrammarFault) : Report :=
  Report.configuration f.language (f.version?.map AbiVersion.toJson)
    (f.window?.map fun w => .int w.least) (f.window?.map fun w => .int w.greatest)
    { message := some f.message, cause := f.cause? }

end GrammarFault

/-- Why there is no tree although the grammar is usable. -/
inductive ParseFault where
  | failed (language text : String)
  | noTree (language : String)
deriving Repr, DecidableEq

def ParseFault.report : ParseFault → Report
  | .failed language text => Report.parse language (some text) { cause := some text }
  | .noTree language => Report.parse language (some "parser returned no tree") {}

end Canopy
