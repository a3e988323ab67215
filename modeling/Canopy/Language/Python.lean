import Canopy.Language.Catalogue
import Canopy.Language.Profile

namespace Canopy.Language.Python

def table : Dict NodeConfig := Profile.withErrors
  [("function_definition", .outer .functionDeclaration .findIdentifier),
    ("class_definition", .outer .classDeclaration .findIdentifier),
    ("assignment", .outer .variableDeclaration .findAssignmentTarget),
    ("call", .withName .functionCall .findCallTarget),
    ("identifier", .withName .variableReference .nodeText),
    ("binary_operator", .plain .binaryExpression),
    ("boolean_operator", .plain .binaryExpression),
    ("comparison_operator", .plain .binaryExpression),
    ("string", .withValue .literal),
    ("concatenated_string", .withValue .literal),
    ("integer", .withValue .literal),
    ("float", .withValue .literal),
    ("true", .withValue .literal),
    ("false", .withValue .literal),
    ("none", .withValue .literal),
    ("if_statement", .plain .ifStatement),
    ("match_statement", .plain .ifStatement),
    ("for_statement", .plain .loopStatement),
    ("while_statement", .plain .loopStatement),
    ("return_statement", .plain .returnStatement),
    ("comment", .withValue .comment),
    ("import_statement", .withValue .importStatement),
    ("import_from_statement", .withValue .importStatement),
    ("future_import_statement", .withValue .importStatement)]

/-- A name is private if it starts with an underscore, unless it both starts and ends with two. -/
def isPrivateName (name : String) : Bool :=
  Text.startsWith name "_" && !(Text.startsWith name "__" && Text.endsWith name "__")

/-- The parent, or the grandparent where a decorator stands between. -/
def undecorated (ancestors : List Tree) : List Tree :=
  match ancestors with
  | up :: further => if up.type = "decorated_definition" then further else ancestors
  | [] => []

/-- Whether a node stands directly in the body of a class. -/
def inClassBody (p : Place) : Bool :=
  match undecorated p.ancestors with
  | body :: owner :: _ => body.type = "block" && owner.type = "class_definition"
  | _ => false

def context (p : Place) : Option Category :=
  if p.type = "function_definition" && inClassBody p then some .methodDeclaration else none

def profile : Profile where
  name := Language.python.name
  title := "PythonAdapter"
  aliases := Language.python.aliases
  grammar := Language.python.grammar
  table := table
  context := context
  isVisible _ _ name := !isPrivateName name

end Canopy.Language.Python
