import Canopy.Json.Basic

namespace Canopy

/-- Why a value was refused. -/
inductive Problem where
  | missing
  | notInteger
  | integerText
  | integerFraction
  | integerSize
  | notFinite
  | atLeast (bound : Nat)
  | notBoolean
  | booleanText
  | notText
  | emptyText
  | notMember (choices : List String)
  | notLiteral (choices : List String)
  | notList
  | notModel (name : String)
  | refused (text : String)
  | frozen
  | noAttribute (name : String)
deriving Repr, DecidableEq

namespace Problem

def code : Problem → String
  | .missing => "missing"
  | .notInteger => "int_type"
  | .integerText => "int_parsing"
  | .integerFraction => "int_from_float"
  | .integerSize => "int_parsing_size"
  | .notFinite => "finite_number"
  | .atLeast _ => "greater_than_equal"
  | .notBoolean => "bool_type"
  | .booleanText => "bool_parsing"
  | .notText => "string_type"
  | .emptyText => "string_too_short"
  | .notMember _ => "enum"
  | .notLiteral _ => "literal_error"
  | .notList => "list_type"
  | .notModel _ => "model_type"
  | .refused _ => "value_error"
  | .frozen => "frozen_instance"
  | .noAttribute _ => "no_such_attribute"

/-- Quoted choices, divided by commas and, before the last, by a word. -/
def listChoices : List String → String
  | [] => ""
  | [a] => "'" ++ a ++ "'"
  | [a, b] => "'" ++ a ++ "' or '" ++ b ++ "'"
  | a :: rest => "'" ++ a ++ "', " ++ listChoices rest

def message : Problem → String
  | .missing => "Field required"
  | .notInteger => "Input should be a valid integer"
  | .integerText => "Input should be a valid integer, unable to parse string as an integer"
  | .integerFraction => "Input should be a valid integer, got a number with a fractional part"
  | .integerSize => "Unable to parse input string as an integer, exceeded maximum size"
  | .notFinite => "Input should be a finite number"
  | .atLeast bound => "Input should be greater than or equal to " ++ toString bound
  | .notBoolean => "Input should be a valid boolean"
  | .booleanText => "Input should be a valid boolean, unable to interpret input"
  | .notText => "Input should be a valid string"
  | .emptyText => "String should have at least 1 character"
  | .notMember choices => "Input should be " ++ listChoices choices
  | .notLiteral choices => "Input should be " ++ listChoices choices
  | .notList => "Input should be a valid list"
  | .notModel name => "Input should be a valid dictionary or instance of " ++ name
  | .refused text => "Value error, " ++ text
  | .frozen => "Instance is frozen"
  | .noAttribute name => "Object has no attribute '" ++ name ++ "'"

end Problem

/-- One step of the way to a value inside another. -/
inductive PathStep where
  | field (name : String)
  | index (n : Nat)
deriving Repr, DecidableEq

structure Issue where
  path : List PathStep
  problem : Problem
deriving Repr, DecidableEq

namespace Issue

def ofField (name : String) (problem : Problem) : Issue := ⟨[.field name], problem⟩

/-- The same issue, seen from the value around. -/
def below (step : PathStep) (i : Issue) : Issue := ⟨step :: i.path, i.problem⟩

end Issue
end Canopy
