import Canopy.Json.Basic

namespace Canopy

namespace Report

inductive Kind where
  | general
  | processing
  | grammar
  | unsupported
  | parse
  | configuration
deriving Repr, DecidableEq

namespace Kind

def all : List Kind :=
  [.general, .processing, .grammar, .unsupported, .parse, .configuration]

def name : Kind → String
  | .general => "UniastError"
  | .processing => "ProcessingError"
  | .grammar => "TreeSitterError"
  | .unsupported => "LanguageNotSupportedError"
  | .parse => "ParseError"
  | .configuration => "ConfigurationError"

def ofName? (text : String) : Option Kind := all.find? fun k => k.name = text

def code : Kind → String
  | .general => "ERR_UNKNOWN"
  | .processing => "PROC_001"
  | .grammar => "TS_001"
  | .unsupported => "TS_002"
  | .parse => "TS_003"
  | .configuration => "TS_005"

/-- A kind and all kinds it is a case of. -/
def lineage : Kind → List Kind
  | .general => [.general]
  | .processing => [.processing, .general]
  | .grammar => [.grammar, .processing, .general]
  | .unsupported => [.unsupported, .grammar, .processing, .general]
  | .parse => [.parse, .grammar, .processing, .general]
  | .configuration => [.configuration, .grammar, .processing, .general]

end Kind

end Report

/-- A failure as it is shown: its kind, a message, a code for programs, details, and the text of
what caused it. Without a correlation text, one is made when the report is written. -/
structure Report where
  kind : Report.Kind
  message : String
  code : String
  details : Dict Json := []
  correlation : Option String := none
  cause : Option String := none
deriving Repr

namespace Report

/-- What is said of a failure apart from its subject. An empty correlation counts as none. -/
structure Remarks where
  message : Option String := none
  code : Option String := none
  details : Dict Json := []
  correlation : Option String := none
  cause : Option String := none

def make (kind : Kind) (message : String) (details : Dict Json) (r : Remarks) : Report where
  kind := kind
  message := r.message.getD message
  code := r.code.getD kind.code
  details := details
  correlation := if r.correlation = some "" then none else r.correlation
  cause := r.cause

/-- The message of a failure of grammar work that says nothing more. -/
def grammarMessage : String := "Tree-sitter operation failed"

def unsupportedMessage (language : String) (available : List String) : String :=
  "Language '" ++ language ++ "' is not supported" ++
    if available.isEmpty then "" else " (supported: " ++ ", ".intercalate available ++ ")"

def unsupported (language : String) (available : List String) (r : Remarks) : Report :=
  make .unsupported (unsupportedMessage language available)
    ((r.details.insert "language" (.str language)).insert "available_languages"
      (Json.texts available)) r

def parseMessage (language : String) : Option String → String
  | none => "Failed to parse " ++ language ++ " source"
  | some "" => "Failed to parse " ++ language ++ " source"
  | some text => "Failed to parse " ++ language ++ " source: " ++ text

def parse (language : String) (parseDetails : Option String) (r : Remarks) : Report :=
  let named := r.details.insert "language" (.str language)
  let details :=
    match parseDetails with
    | none => named
    | some "" => named
    | some text => Dict.insert named "parse_details" (.str text)
  make .parse (parseMessage language parseDetails) details r

def configurationMessage (language : String) : String :=
  "Grammar for '" ++ language ++ "' is not usable"

def insertSome (details : Dict Json) (key : String) : Option Json → Dict Json
  | none => details
  | some value => details.insert key value

/-- The versions are those of the grammar and of the window that it has to lie in. -/
def configuration (language : String) (version least greatest : Option Json) (r : Remarks) :
    Report :=
  let named := r.details.insert "language" (.str language)
  make .configuration (configurationMessage language)
    (insertSome (insertSome (insertSome named "abi_version" version) "min_version" least)
      "max_version" greatest) r

/-- The report without its correlation, as an object. -/
def members (r : Report) : Dict Json :=
  [("error", .str r.kind.name), ("message", .str r.message), ("error_code", .str r.code),
    ("details", .obj r.details), ("original_error", Json.ofOption .str r.cause)]

end Report
end Canopy
