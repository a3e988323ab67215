import Canopy.Json.Literal
import Canopy.Log.Entry
import Canopy.Text.Blank

namespace Canopy.Log

inductive Format where
  | json
  | console
deriving Repr, DecidableEq

namespace Format

def all : List Format := [.json, .console]

def name : Format → String
  | .json => "json"
  | .console => "console"

def ofName? (text : String) : Option Format := all.find? fun f => f.name = text

end Format

namespace Entry

/-- The fields of an entry, without those whose names a line uses for itself. -/
def ownFields (e : Entry) : Dict Json :=
  e.fields.filter fun f => f.1 ≠ "timestamp" && f.1 ≠ "event" && f.1 ≠ "level"

def members (e : Entry) : Dict Json :=
  e.ownFields ++ [("event", .str e.event), ("level", .str e.level.name)]

/-- Characters for which a text in a line has to be quoted. -/
def needsQuotes (c : Char) : Bool :=
  c = ' ' || c = '\t' || c = '=' || c = '\r' || c = '\n' || c = '"' || c = '\''

def valueText : Json → String
  | .str s => if s.toList.any needsQuotes then Text.quoted s else s
  | value => value.literal

def padded (width : Nat) (text : String) : String :=
  text ++ String.ofList (List.replicate (width - text.length) ' ')

/-- The level, the event and the fields by their names, in columns. -/
def consoleLine (e : Entry) : String :=
  let pairs := e.ownFields.sorted.map fun (key, value) => key ++ "=" ++ valueText value
  let line := " ".intercalate
    (("[" ++ padded 9 e.level.name ++ "]") :: padded 30 e.event :: pairs)
  String.ofList (Text.dropEndWhile (· = ' ') line.toList)

/-- An entry as it is written: an object, or a line of text. -/
def render (format : Format) (e : Entry) : Json :=
  match format with
  | .json => .obj e.members
  | .console => .str e.consoleLine

end Entry
end Canopy.Log
