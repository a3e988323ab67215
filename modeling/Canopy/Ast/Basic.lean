import Canopy.Ast.Node
import Canopy.Json.Writer

namespace Canopy

/-- The normalized tree of one source text. -/
structure Ast where
  language : String
  sourceLength : Nat
  hasErrors : Bool
  nodes : List Node
deriving Repr, DecidableEq

namespace Ast

def root? (a : Ast) : Option Node := a.nodes.head?

/-- The children of the node at a position, in document order. They lie among its descendants,
which directly follow it. A negative position counts from the end; nothing comes of a position
outside the list. -/
def childrenOf? (a : Ast) (position : Int) : Option (List Node) :=
  match position with
  | .ofNat i =>
    (a.nodes[i]?).map fun parent =>
      ((a.nodes.drop (i + 1)).take parent.descendantCount).filter fun n => n.parent = some i
  | .negSucc k => if k < a.nodes.length then some [] else none

/-- The nodes with a semantic type and a name, where these are given. -/
def find (a : Ast) (semanticType name : Option String) : List Node :=
  a.nodes.filter fun n =>
    (match semanticType with
      | none => true
      | some wanted => n.semanticType = wanted) &&
    (match name with
      | none => true
      | some wanted => n.name = wanted)

def mapped (a : Ast) : List Node := a.nodes.filter Node.isMapped

def records (a : Ast) : List (Dict Json) := a.nodes.map Node.record

def recordsJson (a : Ast) : Json := .arr (a.records.map .obj)

def toJson (a : Ast) : String := a.recordsJson.write .line

def ofMembers (members : Dict Json) : Checked Ast :=
  Checked.good Ast.mk
    |>.ap (Checked.field members "language" none Checked.nonEmptyText)
    |>.ap (Checked.field members "source_length" none (Checked.natural 0))
    |>.ap (Checked.field members "has_errors" (some false) Checked.boolean)
    |>.ap (Checked.field members "nodes" (some []) (Checked.list Node.ofJson))

def members (a : Ast) : Dict Json :=
  [("language", .str a.language), ("source_length", Json.nat a.sourceLength),
    ("has_errors", .bool a.hasErrors), ("nodes", .arr (a.nodes.map fun n => .obj n.members))]

end Ast
end Canopy
