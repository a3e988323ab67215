import Canopy.Text.Utf8

namespace Canopy

structure Point where
  row : Nat
  column : Nat
deriving Repr, DecidableEq

/-- All that a grammar says of one node apart from its children. Tokens without a name of their
own, such as keywords and brackets, are not `named`. -/
structure Label where
  type : String
  named : Bool
  field : Option String
  startByte : Nat
  endByte : Nat
  startPoint : Point
  endPoint : Point
deriving Repr, DecidableEq

/-- A raw syntax tree, children in document order. -/
inductive Tree where
  | node (label : Label) (children : List Tree)
deriving Repr

namespace Tree

def label : Tree → Label
  | node label _ => label

def children : Tree → List Tree
  | node _ children => children

def type (t : Tree) : String := t.label.type

def isNamed (t : Tree) : Bool := t.label.named

def startByte (t : Tree) : Nat := t.label.startByte

def endByte (t : Tree) : Nat := t.label.endByte

def namedChildren (t : Tree) : List Tree := t.children.filter isNamed

def childByField? (t : Tree) (field : String) : Option Tree :=
  t.children.find? fun c => c.label.field = some field

mutual

def size : Tree → Nat
  | node _ children => sizeAll children + 1

/-- How many nodes the trees of a list have together. -/
def sizeAll : List Tree → Nat
  | [] => 0
  | t :: rest => t.size + sizeAll rest

end

theorem sizeAll_append (l r : List Tree) : sizeAll (l ++ r) = sizeAll l + sizeAll r := by
  induction l with
  | nil => simp [sizeAll]
  | cons t l ih => simp [sizeAll, ih, Nat.add_assoc]

/-- The source text that a node covers; none if its range does not belong to the source. -/
def text (source : Bytes) (t : Tree) : String :=
  if t.startByte > t.endByte ∨ t.endByte > source.length then ""
  else Utf8.decodeLossy ((source.drop t.startByte).take (t.endByte - t.startByte))

end Tree

/-- A node where it stands: its own tree and those of its ancestors, nearest first. -/
structure Place where
  tree : Tree
  ancestors : List Tree := []
deriving Repr

namespace Place

def type (p : Place) : String := p.tree.type

def parent? (p : Place) : Option Place :=
  match p.ancestors with
  | [] => none
  | up :: further => some ⟨up, further⟩

def children (p : Place) : List Place :=
  p.tree.children.map fun c => ⟨c, p.tree :: p.ancestors⟩

end Place
end Canopy
