import Canopy.Command.Run
import Canopy.Grammar.Pack
import Canopy.Settings.Sources
import Canopy.Syntax.Rows

namespace Canopy.Command

/-- The names under which a setting is looked for in the environment. -/
def environmentNames : List String :=
  Settings.Field.all.flatMap fun f =>
    let small := Settings.variableName f
    [small, String.ofList (small.toList.map Log.Level.capital)]

def readEnvironment : IO (Dict String) :=
  environmentNames.filterMapM fun name => do
    return (← IO.getEnv name).map fun value => (name, value)

/-- The file with settings, or nothing where there is none. -/
def readEnvFile : IO Bytes := do
  try
    return (← IO.FS.readBinFile ".env").toList
  catch _ => return []

def failureOf : IO.Error → ReadFailure
  | .noFileOrDirectory .. => .absent
  | .inappropriateType _ 20 _ => .notDirectory
  | .inappropriateType _ 21 _ => .directory
  | .invalidArgument _ 36 _ => .nameTooLong
  | .permissionDenied _ code reason => .other code.toNat reason
  | error => .other 5 (toString error)

def readSource (file : Path) : IO (Except ReadFailure Bytes) := do
  try
    return .ok (← IO.FS.readBinFile file.text).toList
  catch error => return .error (failureOf error)

/-- What a grammar finds in the file comes from standard input, as an object with the rows of the
tree. -/
def readFound : IO (Option Parse) := do
  let text ← (← IO.getStdin).readToEnd
  return (Json.parse? text).bind Parse.ofJson?

def lineOf (format : Log.Format) (e : Log.Entry) : String :=
  match e.render format with
  | .str line => line
  | value => value.write .wire

def issueText (i : Issue) : String :=
  let step : PathStep → String
    | .field name => name
    | .index n => toString n
  ".".intercalate (i.path.map step) ++ ": " ++ i.problem.message

def loadErrorText : Settings.LoadError → String
  | .undecodable => "the file with settings is not text in UTF-8"
  | .unreadable field source => Settings.unreadableMessage field source
  | .invalid issues => "\n".intercalate (issues.map issueText)

def failureText : Failure → String
  | .invalid issues => "\n".intercalate (issues.map issueText)
  | .nullInPath => nullInPathMessage

/-- The world of a request: only one that parses needs a file and a tree. -/
def worldOf (settings : Settings) (words : List String) : IO World := do
  let load := Pack.bundled.loader
  match request words with
  | .ok (.parse file _) =>
    let source ← readSource file
    let found ← readFound
    return ⟨settings, ⟨load, found⟩, fun _ => source⟩
  | _ => return ⟨settings, ⟨load, none⟩, fun _ => .error .absent⟩

def report (format : Log.Format) (o : Outcome) : IO UInt32 := do
  for e in o.logs do
    IO.eprintln (lineOf format e)
  IO.eprint o.errors
  IO.print o.output
  return UInt32.ofNat o.code

end Canopy.Command

open Canopy Canopy.Command in
/-- Settings first, then the words of the command line. -/
def main (words : List String) : IO UInt32 := do
  let sources : Settings.Sources := { environment := ← readEnvironment, file := ← readEnvFile }
  match Settings.load sources with
  | .error e =>
    IO.eprintln (loadErrorText e)
    return 1
  | .ok settings =>
    match run (← worldOf settings words) words with
    | .ok o => report settings.format o
    | .error failure =>
      IO.eprintln (failureText failure)
      return 1
