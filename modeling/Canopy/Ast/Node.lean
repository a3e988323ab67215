import Canopy.Taxonomy
import Canopy.Validation.Checked

namespace Canopy

/-- One node of the flat tree. Nodes stand in pre-order, so a parent comes before its children;
positions count from zero. -/
structure Node where
  index : Nat
  parent : Option Nat
  semanticType : String
  rawType : String
  name : String
  value : String
  startByte : Nat
  endByte : Nat
  startLine : Nat
  startColumn : Nat
  endLine : Nat
  endColumn : Nat
  depth : Nat
  childCount : Nat
  descendantCount : Nat
  flags : Nat
  isPublic : Option Bool
deriving Repr, DecidableEq

namespace Node

/-- Whether the semantic type is a category and not a grammar type passed through. -/
def isMapped (n : Node) : Bool := Category.isName n.semanticType

/-- Both types of a node have to be there. -/
def issues (n : Node) : List Issue :=
  (if n.semanticType = "" then [Issue.ofField "semantic_type" .emptyText] else []) ++
    (if n.rawType = "" then [Issue.ofField "raw_type" .emptyText] else [])

def ofMembers (members : Dict Json) : Checked Node :=
  let nat (name : String) (absent : Option Nat) : Checked Nat :=
    Checked.field members name absent (Checked.natural 0)
  Checked.good Node.mk
    |>.ap (nat "index" none)
    |>.ap (Checked.field members "parent_index" (some none)
      (Checked.optional (Checked.natural 0)))
    |>.ap (Checked.field members "semantic_type" none Checked.nonEmptyText)
    |>.ap (Checked.field members "raw_type" none Checked.nonEmptyText)
    |>.ap (Checked.field members "name" (some "") Checked.text)
    |>.ap (Checked.field members "value" (some "") Checked.text)
    |>.ap (nat "start_byte" none)
    |>.ap (nat "end_byte" none)
    |>.ap (nat "start_line" (some 0))
    |>.ap (nat "start_column" (some 0))
    |>.ap (nat "end_line" (some 0))
    |>.ap (nat "end_column" (some 0))
    |>.ap (nat "depth" (some 0))
    |>.ap (nat "children_count" (some 0))
    |>.ap (nat "descendant_count" (some 0))
    |>.ap (nat "flags" (some 0))
    |>.ap (Checked.field members "is_public" (some none) (Checked.optional Checked.boolean))

def ofJson : Json → Checked Node
  | .obj members => ofMembers members
  | _ => .bad [⟨[], .notModel "ASTNode"⟩]

/-- The eight columns that queries rely on. -/
def record (n : Node) : Dict Json :=
  [("index", Json.nat n.index), ("parent_index", Json.ofOption Json.nat n.parent),
    ("semantic_type", .str n.semanticType), ("raw_type", .str n.rawType),
    ("name", .str n.name), ("value", .str n.value), ("start_byte", Json.nat n.startByte),
    ("end_byte", Json.nat n.endByte)]

def columns : List String :=
  ["index", "parent_index", "semantic_type", "raw_type", "name", "value", "start_byte",
    "end_byte"]

def members (n : Node) : Dict Json :=
  n.record ++
    [("start_line", Json.nat n.startLine), ("start_column", Json.nat n.startColumn),
      ("end_line", Json.nat n.endLine), ("end_column", Json.nat n.endColumn),
      ("depth", Json.nat n.depth), ("children_count", Json.nat n.childCount),
      ("descendant_count", Json.nat n.descendantCount), ("flags", Json.nat n.flags),
      ("is_public", Json.ofOption .bool n.isPublic)]

end Node

namespace NodeConfig

def ofMembers (members : Dict Json) : Checked NodeConfig :=
  let strategy (name : String) : Checked Strategy :=
    Checked.field members name (some .none)
      (Checked.choice (Strategy.all.map fun s => (s.name, s)) .notMember)
  Checked.good NodeConfig.mk
    |>.ap (Checked.field members "semantic_type" none
      (Checked.choice (Category.all.map fun c => (c.name, c)) .notMember))
    |>.ap (strategy "name_strategy")
    |>.ap (strategy "value_strategy")
    |>.ap (Checked.field members "flags" (some 0) (Checked.natural 0))

def members (c : NodeConfig) : Dict Json :=
  [("semantic_type", .str c.category.name), ("name_strategy", .str c.nameBy.name),
    ("value_strategy", .str c.valueBy.name), ("flags", Json.nat c.flags)]

end NodeConfig
end Canopy
