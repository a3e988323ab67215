import Canopy.Language.Catalogue
import Canopy.Language.Profile

namespace Canopy.Language.C

def table : Dict NodeConfig := Profile.withErrors
  [("function_definition", .outer .functionDeclaration .findIdentifier),
    ("preproc_function_def", .inner .functionDeclaration .findIdentifier),
    ("struct_specifier", .outer .classDeclaration .findIdentifier),
    ("union_specifier", .outer .classDeclaration .findIdentifier),
    ("enum_specifier", .outer .classDeclaration .findIdentifier),
    ("type_definition", .outer .classDeclaration .findAssignmentTarget),
    ("declaration", .outer .variableDeclaration .findAssignmentTarget),
    ("field_declaration", .outer .variableDeclaration .findAssignmentTarget),
    ("parameter_declaration", .inner .variableDeclaration .findAssignmentTarget),
    ("enumerator", .inner .variableDeclaration .findIdentifier),
    ("preproc_def", .inner .variableDeclaration .findIdentifier),
    ("call_expression", .withName .functionCall .findCallTarget),
    ("identifier", .withName .variableReference .nodeText),
    ("field_expression", .withName .variableReference .nodeText),
    ("binary_expression", .plain .binaryExpression),
    ("string_literal", .withValue .literal),
    ("concatenated_string", .withValue .literal),
    ("char_literal", .withValue .literal),
    ("number_literal", .withValue .literal),
    ("system_lib_string", .withValue .literal),
    ("true", .withValue .literal),
    ("false", .withValue .literal),
    ("null", .withValue .literal),
    ("if_statement", .plain .ifStatement),
    ("switch_statement", .plain .ifStatement),
    ("for_statement", .plain .loopStatement),
    ("while_statement", .plain .loopStatement),
    ("do_statement", .plain .loopStatement),
    ("return_statement", .plain .returnStatement),
    ("comment", .withValue .comment),
    ("preproc_include", .withValue .importStatement)]

def identifiers : List String := ["identifier", "type_identifier"]

/-- Parts of the types outside the table that are named after an identifier child. -/
def fallbackMarkers : List String := ["declarator", "specifier", "definition"]

/-- Declarators that only wrap the one that holds the name. -/
def wrappers : List String :=
  ["pointer_declarator", "reference_declarator", "parenthesized_declarator",
    "attributed_declarator"]

/-- Names in a function declarator that are more than an identifier. -/
def qualifiedNames : List String :=
  ["qualified_identifier", "destructor_name", "operator_name", "template_function"]

/-- What a wrapper wraps: its declarator field, else its first child that is a declarator. -/
def unwrap? (t : Tree) : Option Tree :=
  match t.childByField? "declarator" with
  | some inner => some inner
  | none => t.namedChildren.find? Tree.isDeclarator

/-- The function declarator at the end of a chain of at most `fuel` declarators. -/
def findFunctionDeclarator? : Nat → Option Tree → Option Tree
  | 0, _ => none
  | _, none => none
  | fuel + 1, some t =>
    if t.type = "function_declarator" then some t
    else if wrappers.contains t.type then findFunctionDeclarator? fuel (unwrap? t)
    else none

def functionDeclarator? (t : Tree) : Option Tree :=
  findFunctionDeclarator? Tree.chainBound (t.childByField? "declarator")

/-- A member name wins over an identifier, and both win over a qualified name. -/
def functionName (source : Bytes) (t : Tree) : String :=
  match functionDeclarator? t with
  | none => ""
  | some d =>
    Tree.orElseText (d.childText source ["field_identifier"])
      (Tree.orElseText (d.childText source ["identifier"]) (d.childText source qualifiedNames))

def innerName (source : Bytes) (t : Tree) : Option String :=
  if t.type = "function_definition" then some (functionName source t) else none

def fallbackName (source : Bytes) (t : Tree) : String :=
  if fallbackMarkers.any (Text.holds t.type) then t.childText source ["identifier"] else ""

def hasStaticChild (source : Bytes) (t : Tree) : Bool :=
  t.children.any fun c => c.type = "storage_class_specifier" && c.text source = "static"

/-- Whether a node or one of its ancestors has static storage. -/
def isStatic (source : Bytes) (p : Place) : Bool :=
  (p.tree :: p.ancestors).any (hasStaticChild source)

def profile : Profile where
  name := Language.c.name
  title := "CAdapter"
  aliases := Language.c.aliases
  grammar := Language.c.grammar
  table := table
  identifiers := identifiers
  innerName := innerName
  fallbackName := fallbackName
  isVisible source p _ := !isStatic source p

end Canopy.Language.C
