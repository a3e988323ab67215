import Canopy.Language.Catalogue
import Canopy.Language.Profile

namespace Canopy.Language.JavaScript

def table : Dict NodeConfig := Profile.withErrors
  [("function_declaration", .outer .functionDeclaration .findIdentifier),
    ("generator_function_declaration", .outer .functionDeclaration .findIdentifier),
    ("function_expression", .inner .functionDeclaration .findIdentifier),
    ("generator_function", .inner .functionDeclaration .findIdentifier),
    ("arrow_function", .inner .functionDeclaration .none),
    ("class_declaration", .outer .classDeclaration .findIdentifier),
    ("method_definition", .outer .methodDeclaration .findProperty),
    ("lexical_declaration", .outer .variableDeclaration .findAssignmentTarget),
    ("variable_declaration", .outer .variableDeclaration .findAssignmentTarget),
    ("call_expression", .withName .functionCall .findCallTarget),
    ("new_expression", .withName .functionCall .findCallTarget),
    ("identifier", .withName .variableReference .nodeText),
    ("binary_expression", .plain .binaryExpression),
    ("string", .withValue .literal),
    ("template_string", .withValue .literal),
    ("number", .withValue .literal),
    ("regex", .withValue .literal),
    ("true", .withValue .literal),
    ("false", .withValue .literal),
    ("null", .withValue .literal),
    ("undefined", .withValue .literal),
    ("if_statement", .plain .ifStatement),
    ("switch_statement", .plain .ifStatement),
    ("for_statement", .plain .loopStatement),
    ("for_in_statement", .plain .loopStatement),
    ("while_statement", .plain .loopStatement),
    ("do_statement", .plain .loopStatement),
    ("return_statement", .plain .returnStatement),
    ("comment", .withValue .comment),
    ("import_statement", .withValue .importStatement),
    ("export_statement", .withValue .exportStatement)]

/-- Types outside the table whose own text is their name. -/
def namedByText : List String := ["property_identifier", "private_property_identifier"]

/-- Members whose name starts with a number sign are private. -/
def profile : Profile where
  name := Language.javascript.name
  title := "JavaScriptAdapter"
  aliases := Language.javascript.aliases
  grammar := Language.javascript.grammar
  table := table
  fallbackName source t := if namedByText.contains t.type then t.text source else ""
  isVisible _ _ name := !Text.startsWith name "#"

end Canopy.Language.JavaScript
