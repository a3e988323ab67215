import Canopy.Text.Quoted

namespace Canopy

/-- The cross-language category of a syntax node. The set is small on purpose: a construct that
fits none keeps its grammar type. -/
inductive Category where
  | functionDeclaration
  | classDeclaration
  | methodDeclaration
  | variableDeclaration
  | functionCall
  | variableReference
  | literal
  | binaryExpression
  | ifStatement
  | loopStatement
  | returnStatement
  | comment
  | importStatement
  | exportStatement
  | unknown
deriving Repr, DecidableEq

namespace Category

/-- Raised whenever the members change, since queries depend on their names. -/
def version : Nat := 1

def all : List Category :=
  [.functionDeclaration, .classDeclaration, .methodDeclaration, .variableDeclaration,
    .functionCall, .variableReference, .literal, .binaryExpression, .ifStatement,
    .loopStatement, .returnStatement, .comment, .importStatement, .exportStatement, .unknown]

def name : Category → String
  | .functionDeclaration => "FUNCTION_DECLARATION"
  | .classDeclaration => "CLASS_DECLARATION"
  | .methodDeclaration => "METHOD_DECLARATION"
  | .variableDeclaration => "VARIABLE_DECLARATION"
  | .functionCall => "FUNCTION_CALL"
  | .variableReference => "VARIABLE_REFERENCE"
  | .literal => "LITERAL"
  | .binaryExpression => "BINARY_EXPRESSION"
  | .ifStatement => "IF_STATEMENT"
  | .loopStatement => "LOOP_STATEMENT"
  | .returnStatement => "RETURN_STATEMENT"
  | .comment => "COMMENT"
  | .importStatement => "IMPORT_STATEMENT"
  | .exportStatement => "EXPORT_STATEMENT"
  | .unknown => "UNKNOWN"

def ofName? (text : String) : Option Category := all.find? fun c => c.name = text

/-- Whether a text is a category's name rather than a grammar type passed through. -/
def isName (text : String) : Bool := (ofName? text).isSome

/-- What is said of a text that is no category's name. -/
def refusal (text : String) : String := Text.quoted text ++ " is not a valid SemanticType"

/-- The name to show for a category or grammar type; nothing and the empty text are unknown. -/
def display : Option String → String
  | none => unknown.name
  | some text => if text = "" then unknown.name else text

end Category

/-- How the name or the value of a node is taken from the source. -/
inductive Strategy where
  | none
  | nodeText
  | findIdentifier
  | findProperty
  | findCallTarget
  | findAssignmentTarget
deriving Repr, DecidableEq

namespace Strategy

def all : List Strategy :=
  [.none, .nodeText, .findIdentifier, .findProperty, .findCallTarget, .findAssignmentTarget]

def name : Strategy → String
  | .none => "none"
  | .nodeText => "node_text"
  | .findIdentifier => "find_identifier"
  | .findProperty => "find_property"
  | .findCallTarget => "find_call_target"
  | .findAssignmentTarget => "find_assignment_target"

def ofName? (text : String) : Option Strategy := all.find? fun s => s.name = text

/-- What is said of a text that is no strategy's name. -/
def refusal (text : String) : String := Text.quoted text ++ " is not a valid ExtractionStrategy"

end Strategy

namespace Flags

/-- Traits of a grammar type are bits of a number. -/
def none : Nat := 0

def declaration : Nat := 1

def publicEligible : Nat := 2

def publicDeclaration : Nat := declaration + publicEligible

/-- The traits with the names they are listed under. -/
def all : List (String × Nat) :=
  [("NONE", none), ("IS_DECLARATION", declaration), ("IS_PUBLIC_ELIGIBLE", publicEligible)]

end Flags

/-- What the table of a language says of one grammar type. -/
structure NodeConfig where
  category : Category
  nameBy : Strategy := .none
  valueBy : Strategy := .none
  flags : Nat := Flags.none
deriving Repr, DecidableEq

namespace NodeConfig

def isDeclaration (c : NodeConfig) : Bool := c.flags.testBit 0

def isPublicEligible (c : NodeConfig) : Bool := c.flags.testBit 1

end NodeConfig
end Canopy
