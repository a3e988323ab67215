import Canopy.Json.Reader
import Canopy.Settings.Basic
import Canopy.Settings.EnvFile

namespace Canopy.Settings

/-- Where settings come from, the strongest first: values given by name, variables of the
environment, variables of a file. -/
structure Sources where
  given : Dict Json := []
  environment : Dict String := []
  file : Bytes := []

inductive Source where
  | environment
  | file
deriving Repr, DecidableEq

def Source.name : Source → String
  | .environment => "EnvSettingsSource"
  | .file => "DotEnvSettingsSource"

inductive LoadError where
  | undecodable
  | unreadable (field : Field) (source : Source)
  | invalid (issues : List Issue)
deriving Repr, DecidableEq

/-- What is said of a variable whose text cannot be read. -/
def unreadableMessage (field : Field) (source : Source) : String :=
  "error parsing value for field \"" ++ field.name ++ "\" from source \"" ++ source.name ++ "\""

def variableName (field : Field) : String := "uniast_" ++ field.name

/-- Variables by their names in small letters; of two that differ in case only, the later counts. -/
def foldNames (bound : Dict (Option String)) : Dict (Option String) :=
  Dict.ofList (bound.map fun (name, value) => (Text.lower name, value))

/-- A list is written as JSON text, all else as it is. A null counts as not set. -/
def readVariable (source : Source) (field : Field) (text : String) :
    Except LoadError (Option Json) :=
  match field with
  | .experimental =>
    match Json.parse? text with
    | none => .error (.unreadable field source)
    | some .null => .ok none
    | some value => .ok (some value)
  | _ => .ok (some (.str text))

/-- The settings among the variables of a source. -/
def fromVariables (source : Source) (bound : Dict (Option String)) :
    List Field → Except LoadError (Dict Json)
  | [] => .ok []
  | field :: rest => do
    let value ←
      match (bound.get? (variableName field)).bind id with
      | none => .ok none
      | some text => readVariable source field text
    let others ← fromVariables source bound rest
    match value with
    | none => .ok others
    | some v => .ok ((field.name, v) :: others)

/-- All sources are read before any value is checked, and the file before any variable. -/
def load (s : Sources) : Except LoadError Settings := do
  let text ← (EnvFile.decode? s.file).elim (.error .undecodable) .ok
  let environment ←
    fromVariables .environment (foldNames (s.environment.map fun (n, v) => (n, some v))) Field.all
  let file ← fromVariables .file (foldNames (EnvFile.read s.environment text)) Field.all
  match ofMembers (Dict.merge (Dict.merge file environment) s.given) with
  | .good settings => .ok settings
  | .bad issues => .error (.invalid issues)

end Canopy.Settings
