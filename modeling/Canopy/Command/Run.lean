import Canopy.Ast.Build
import Canopy.Ast.Table
import Canopy.Command.Files
import Canopy.Command.Request
import Canopy.Settings.Basic

namespace Canopy.Command

/-- What a run depends on besides its words: the settings, the grammars with what their parsers
find, and the files. -/
structure World where
  settings : Settings
  build : Ast.World
  read : Path → Except ReadFailure Bytes

/-- What a run leaves behind. Entries of the log are those that the settings let through. -/
structure Outcome where
  code : Nat
  output : String := ""
  errors : String := ""
  logs : List Log.Entry := []

def Outcome.failed (message : String) (logs : List Log.Entry) : Outcome :=
  { code := 1, errors := "Error: " ++ message ++ "\n", logs }

/-- Why a run ends without an outcome. -/
inductive Failure where
  | invalid (issues : List Issue)
  | nullInPath
deriving Repr, DecidableEq

def nullInPathMessage : String := "embedded null byte"

/-- A size on the command line takes the place of both truncation settings. -/
def options (s : Settings) (r : ParseRequest) : Except Failure BuildOptions :=
  match r.size with
  | .octets n => .ok ⟨some n, .head⟩
  | .leftOut => .error (.invalid [Issue.ofField "value_truncation_size" .notInteger])
  | .settings => .ok s.buildOptions

def shown (output : Output) (a : Ast) : String :=
  match output with
  | .table => a.toTable
  | .json => a.recordsJson.write .page ++ "\n"

def failureLog (file : Path) (report : Report) : Log.Entry :=
  Log.error "parse_command_failed" (("path", .str file.text) :: report.members)

/-- The report of a failed build; issues with the nodes have none. -/
def reportOf : Ast.Error → Except Failure Report
  | .unsupported u => .ok u.report
  | .grammar fault => .ok fault.report
  | .parse fault => .ok fault.report
  | .invalid issues => .error (.invalid issues)

/-- A registry together with what is logged when it is first used. -/
structure Ready where
  registry : Registry
  logs : List Log.Entry

/-- The registry of a process that has not used it yet. -/
def ready (w : World) : Ready :=
  let (registry, logs) := Registry.initial w.build.load w.settings.experimental
  ⟨registry, logs⟩

/-- Prints the normalized tree of a file. The language is settled before the file is read, then the
options, and the registry is used after that. -/
def runParse (w : World) (known : Ready) (file : Path) (r : ParseRequest) :
    Except Failure Outcome :=
  match file.language? r.language with
  | none =>
    .ok (Outcome.failed ("cannot infer language of " ++ file.text ++ "; pass --language")
      [Log.error "language_not_detected" [("path", .str file.text)]])
  | some tag =>
    if file.hasNull then .error .nullInPath
    else
      match w.read file with
      | .error failure =>
        let reason := failure.message file
        .ok (Outcome.failed ("cannot read " ++ file.text ++ ": " ++ reason)
          [Log.error "file_read_failed" [("path", .str file.text), ("error", .str reason)]])
      | .ok source => do
        let chosen ← options w.settings r
        let built := Ast.parseSource w.build chosen source tag known.registry
        let logs := known.logs ++ built.logs
        match built.result with
        | .ok a => .ok { code := 0, output := shown r.output a, logs }
        | .error error =>
          let report ← reportOf error
          .ok (Outcome.failed report.message (logs ++ [failureLog file report]))

/-- A line for a language: its name, and its aliases in brackets. -/
def languageLine (r : Registry) (name : String) : String :=
  let aliases := (r.sortedAliases.filter fun e => e.2 = name).map (·.1)
  name ++ (if aliases.isEmpty then "" else " (" ++ ", ".intercalate aliases ++ ")") ++ "\n"

def runLanguages (known : Ready) : Outcome :=
  let r := known.registry
  { code := 0, output := "".intercalate (r.languages.map (languageLine r)), logs := known.logs }

def stopOutcome : Stop → Outcome
  | .shows text => { code := 0, output := text }
  | .refused place fault =>
    { code := 2, errors := place.usage ++ place.name ++ ": error: " ++ fault.message ++ "\n" }

def carryOut (w : World) : Request → Except Failure Outcome
  | .parse file details => runParse w (ready w) file details
  | .languages => .ok (runLanguages (ready w))
  | .nothing => .ok { code := 0, output := Section.top.help }

/-- Runs a command line. -/
def run (w : World) (words : List String) : Except Failure Outcome :=
  match request words with
  | .error stop => .ok (stopOutcome stop)
  | .ok r =>
    (carryOut w r).map fun o =>
      { o with logs := o.logs.filter fun e => w.settings.level.weight ≤ e.level.weight }

end Canopy.Command
