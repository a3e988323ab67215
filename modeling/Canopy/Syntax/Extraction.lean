import Canopy.Taxonomy
import Canopy.Syntax.Tree
import Canopy.Text.Affix

namespace Canopy.Tree

/-- Child types that name a member of a type or an object. -/
def propertyTypes : List String :=
  ["property_identifier", "private_property_identifier", "field_identifier"]

/-- Fields that hold what an assignment or a declaration binds, in the order they are tried. -/
def targetFields : List String := ["left", "name", "declarator", "pattern"]

/-- How many nodes a chain of targets or declarators may have. -/
def chainBound : Nat := 16

/-- The text of the first child of one of the types. -/
def childText (source : Bytes) (types : List String) (t : Tree) : String :=
  match t.children.find? fun c => types.contains c.type with
  | some c => c.text source
  | none => ""

def identifierText (source : Bytes) (identifiers : List String) (t : Tree) : String :=
  t.childText source identifiers

/-- The first text, or the second where the first is empty. -/
def orElseText (first second : String) : String := if first = "" then second else first

/-- A member name if there is one, else an identifier. -/
def propertyText (source : Bytes) (identifiers : List String) (t : Tree) : String :=
  orElseText (t.childText source propertyTypes) (t.identifierText source identifiers)

/-- The expression that is called. -/
def callTargetText (source : Bytes) (t : Tree) : String :=
  match t.childByField? "function" with
  | some target => target.text source
  | none =>
    match t.namedChildren.head? with
    | some target => target.text source
    | none => ""

def isDeclarator (t : Tree) : Bool := Text.endsWith t.type "declarator"

def fieldTarget? (t : Tree) : Option Tree := targetFields.findSome? t.childByField?

/-- One step towards the name that is bound: a target field, else a child that is a declarator,
else, inside a declarator, a child that is a name. -/
def nextTarget? (names : List String) (t : Tree) : Option Tree :=
  match t.fieldTarget? with
  | some c => some c
  | none =>
    match t.namedChildren.find? isDeclarator with
    | some c => some c
    | none =>
      if t.isDeclarator then t.namedChildren.find? fun c => names.contains c.type else none

/-- The end of the chain of targets below `t`: a name, or a node without a further target. A chain
that does not end within `fuel` nodes gives nothing. -/
def followTarget (source : Bytes) (names : List String) : Nat → Tree → String
  | 0, _ => ""
  | fuel + 1, t =>
    if names.contains t.type then t.text source
    else
      match t.nextTarget? names with
      | none => t.text source
      | some c => followTarget source names fuel c

/-- The name that an assignment or a declaration binds. The node itself is never the answer. -/
def assignmentTargetText (source : Bytes) (identifiers : List String) (t : Tree) : String :=
  let names := identifiers ++ propertyTypes
  match t.nextTarget? names with
  | none => ""
  | some c => followTarget source names (chainBound - 1) c

def extract (source : Bytes) (identifiers : List String) (t : Tree) : Strategy → String
  | .none => ""
  | .nodeText => t.text source
  | .findIdentifier => t.identifierText source identifiers
  | .findProperty => t.propertyText source identifiers
  | .findCallTarget => t.callTargetText source
  | .findAssignmentTarget => t.assignmentTargetText source identifiers

end Canopy.Tree
