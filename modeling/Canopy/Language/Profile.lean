import Canopy.Dict
import Canopy.Syntax.Extraction

namespace Canopy

/-- What the builder has to know of one language: a table from grammar types to configurations, and
rules for the cases that a table cannot settle. -/
structure Profile where
  name : String
  title : String
  aliases : List String
  grammar : String
  table : Dict NodeConfig := []
  identifiers : List String := ["identifier"]
  /-- A category that follows from where a node stands. -/
  context : Place → Option Category := fun _ => none
  /-- A name that lies deeper than the strategies reach. -/
  innerName : Bytes → Tree → Option String := fun _ _ => none
  /-- The name of a node without a configuration. -/
  fallbackName : Bytes → Tree → String := fun _ _ => ""
  /-- Whether a node is visible outside its scope, given its name. -/
  isVisible : Bytes → Place → String → Bool

namespace Profile

def config? (l : Profile) (type : String) : Option NodeConfig := l.table.get? type

/-- Tokens have no configuration even where they spell a type of the table. -/
def configFor? (l : Profile) (t : Tree) : Option NodeConfig :=
  if t.isNamed then l.config? t.type else none

/-- The category's name of a grammar type, or the type itself. -/
def normalType (l : Profile) (type : String) : String :=
  match l.config? type with
  | some config => config.category.name
  | none => type

def semanticType (l : Profile) (p : Place) : String :=
  match l.context p with
  | some category => category.name
  | none =>
    match l.configFor? p.tree with
    | some config => config.category.name
    | none => p.type

def nodeName (l : Profile) (source : Bytes) (t : Tree) : String :=
  match l.innerName source t with
  | some text => text
  | none =>
    match l.configFor? t with
    | some config => t.extract source l.identifiers config.nameBy
    | none => l.fallbackName source t

def nodeValue (l : Profile) (source : Bytes) (t : Tree) : String :=
  match l.configFor? t with
  | some config => t.extract source l.identifiers config.valueBy
  | none => ""

def isPublic (l : Profile) (source : Bytes) (p : Place) : Bool :=
  l.isVisible source p (l.nodeName source p.tree)

/-- How an adapter of the language presents itself. -/
def describe (l : Profile) : String := l.title ++ "(language='" ++ l.name ++ "')"

end Profile

namespace NodeConfig

def plain (category : Category) : NodeConfig := { category }

def withName (category : Category) (nameBy : Strategy) : NodeConfig := { category, nameBy }

def withValue (category : Category) : NodeConfig := { category, valueBy := .nodeText }

def inner (category : Category) (nameBy : Strategy) : NodeConfig :=
  { category, nameBy, flags := Flags.declaration }

def outer (category : Category) (nameBy : Strategy) : NodeConfig :=
  { category, nameBy, flags := Flags.publicDeclaration }

end NodeConfig

/-- A table with the type that every grammar gives to input it could not parse. -/
def Profile.withErrors (entries : Dict NodeConfig) : Dict NodeConfig :=
  ("ERROR", NodeConfig.plain .unknown) :: entries

end Canopy
