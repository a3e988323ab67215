import Canopy.Language.C
import Canopy.Text.Blank

namespace Canopy.Language.Cpp

def table : Dict NodeConfig := Profile.withErrors
  [("function_definition", .outer .functionDeclaration .findIdentifier),
    ("lambda_expression", .inner .functionDeclaration .none),
    ("class_specifier", .outer .classDeclaration .findIdentifier),
    ("struct_specifier", .outer .classDeclaration .findIdentifier),
    ("union_specifier", .outer .classDeclaration .findIdentifier),
    ("enum_specifier", .outer .classDeclaration .findIdentifier),
    ("declaration", .outer .variableDeclaration .findAssignmentTarget),
    ("field_declaration", .outer .variableDeclaration .findAssignmentTarget),
    ("parameter_declaration", .inner .variableDeclaration .findAssignmentTarget),
    ("call_expression", .withName .functionCall .findCallTarget),
    ("identifier", .withName .variableReference .nodeText),
    ("field_expression", .withName .variableReference .nodeText),
    ("binary_expression", .plain .binaryExpression),
    ("string_literal", .withValue .literal),
    ("raw_string_literal", .withValue .literal),
    ("char_literal", .withValue .literal),
    ("number_literal", .withValue .literal),
    ("true", .withValue .literal),
    ("false", .withValue .literal),
    ("null", .withValue .literal),
    ("if_statement", .plain .ifStatement),
    ("for_statement", .plain .loopStatement),
    ("for_range_loop", .plain .loopStatement),
    ("while_statement", .plain .loopStatement),
    ("do_statement", .plain .loopStatement),
    ("return_statement", .plain .returnStatement),
    ("comment", .withValue .comment),
    ("preproc_include", .withValue .importStatement),
    ("using_declaration", .withValue .importStatement)]

def classBody : String := "field_declaration_list"

/-- The direct child of a class body that holds a node, with its ancestors. One template
declaration around the node is looked through. -/
def classMember? (p : Place) : Option Place :=
  let member :=
    match p.parent? with
    | some up => if up.type = "template_declaration" then up else p
    | none => p
  match member.ancestors with
  | body :: _ => if body.type = classBody then some member else none
  | [] => none

/-- A member whose declarator is a function's; a pointer to a function is no method. -/
def declaresFunction (t : Tree) : Bool :=
  match C.functionDeclarator? t with
  | none => false
  | some d =>
    match d.childByField? "declarator" with
    | none => true
    | some inner => inner.type ≠ "parenthesized_declarator"

def context (p : Place) : Option Category :=
  if p.type = "function_definition" && (classMember? p).isSome then some .methodDeclaration
  else if p.type = "field_declaration" && declaresFunction p.tree then some .methodDeclaration
  else none

/-- The access of members that no specifier precedes. -/
def defaultAccess (owner : String) : String :=
  if owner = "class_specifier" then "private" else "public"

/-- The text of an access specifier without closing colons and blanks around it. -/
def accessText (source : Bytes) (t : Tree) : String :=
  Text.trim (String.ofList (Text.dropEndWhile (· = ':') (t.text source).toList))

/-- The access after the siblings that start before the byte `start`. -/
def accessBefore (source : Bytes) (start : Nat) : String → List Tree → String
  | access, [] => access
  | access, t :: rest =>
    if t.startByte ≥ start then access
    else if t.type = "access_specifier" then accessBefore source start (accessText source t) rest
    else accessBefore source start access rest

/-- Members of a class body have the access of the nearest specifier before them; elsewhere the
rule on static storage applies. -/
def isVisible (source : Bytes) (p : Place) : Bool :=
  match classMember? p with
  | none => !C.isStatic source p
  | some member =>
    match member.ancestors with
    | [] => true
    | body :: further =>
      let access := defaultAccess ((further.head?.map Tree.type).getD "")
      accessBefore source member.tree.startByte access body.children = "public"

def profile : Profile where
  name := Language.cpp.name
  title := "CppAdapter"
  aliases := Language.cpp.aliases
  grammar := Language.cpp.grammar
  table := table
  identifiers := C.identifiers
  context := context
  innerName := C.innerName
  fallbackName := C.fallbackName
  isVisible source p _ := isVisible source p

end Canopy.Language.Cpp
