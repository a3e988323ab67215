import Canopy.Language.Catalogue
import Canopy.Language.Profile

namespace Canopy.Language.Rust

def table : Dict NodeConfig := Profile.withErrors
  [("function_item", .outer .functionDeclaration .findIdentifier),
    ("struct_item", .outer .classDeclaration .findIdentifier),
    ("enum_item", .outer .classDeclaration .findIdentifier),
    ("trait_item", .outer .classDeclaration .findIdentifier),
    ("impl_item", .outer .classDeclaration .findIdentifier),
    ("mod_item", .outer .classDeclaration .findIdentifier),
    ("let_declaration", .withName .variableDeclaration .findAssignmentTarget),
    ("const_item", .outer .variableDeclaration .findIdentifier),
    ("static_item", .outer .variableDeclaration .findIdentifier),
    ("call_expression", .withName .functionCall .findCallTarget),
    ("method_call_expression", .withName .functionCall .findCallTarget),
    ("macro_invocation", .withName .functionCall .findCallTarget),
    ("identifier", .withName .variableReference .nodeText),
    ("field_identifier", .withName .variableReference .nodeText),
    ("binary_expression", .plain .binaryExpression),
    ("integer_literal", .withValue .literal),
    ("float_literal", .withValue .literal),
    ("string_literal", .withValue .literal),
    ("raw_string_literal", .withValue .literal),
    ("char_literal", .withValue .literal),
    ("boolean_literal", .withValue .literal),
    ("if_expression", .plain .ifStatement),
    ("match_expression", .plain .ifStatement),
    ("while_expression", .plain .loopStatement),
    ("loop_expression", .plain .loopStatement),
    ("for_expression", .plain .loopStatement),
    ("return_expression", .plain .returnStatement),
    ("line_comment", .withValue .comment),
    ("block_comment", .withValue .comment),
    ("use_declaration", .withValue .importStatement),
    ("extern_crate_declaration", .withValue .importStatement)]

/-- Items are private unless a modifier says otherwise. -/
def isMarkedPublic (source : Bytes) (t : Tree) : Bool :=
  t.children.any fun c => c.type = "visibility_modifier" && Text.startsWith (c.text source) "pub"

def profile : Profile where
  name := Language.rust.name
  title := "RustAdapter"
  aliases := Language.rust.aliases
  grammar := Language.rust.grammar
  table := table
  identifiers := ["identifier", "type_identifier"]
  isVisible source p _ := isMarkedPublic source p.tree

end Canopy.Language.Rust
