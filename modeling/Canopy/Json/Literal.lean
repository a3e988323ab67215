import Canopy.Json.Writer

namespace Canopy.Json

def beyondLiteral (name : String) : String :=
  if name = "NaN" then "nan" else if name = "Infinity" then "inf" else "-inf"

mutual

/-- A value as it is written in a line of text: texts are quoted, an absent value and the truth
values are words with a capital. -/
def literal : Json → String
  | .null => "None"
  | .bool true => "True"
  | .bool false => "False"
  | .int n => toString n
  | .dec d => d.write Decimal.shortest
  | .beyond name => beyondLiteral name
  | .str s => Text.quoted s
  | .arr items => "[" ++ ", ".intercalate (itemLiterals items) ++ "]"
  | .obj members => "\x7b" ++ ", ".intercalate (memberLiterals members) ++ "\x7d"

def itemLiterals : List Json → List String
  | [] => []
  | item :: rest => item.literal :: itemLiterals rest

def memberLiterals : List (String × Json) → List String
  | [] => []
  | (key, value) :: rest => (Text.quoted key ++ ": " ++ value.literal) :: memberLiterals rest

end

end Canopy.Json
