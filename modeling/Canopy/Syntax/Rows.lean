import Canopy.Grammar.Provider

namespace Canopy

/-- A node of a tree that is written as a list: what the grammar says of it, and the positions of
its children in the list. -/
structure Row where
  label : Label
  children : List Nat
deriving Repr

namespace Row

def natOf? : Json → Option Nat
  | .int (.ofNat n) => some n
  | _ => none

def fieldOf? : Json → Option (Option String)
  | .null => some none
  | .str name => some (some name)
  | _ => none

def natsOf? : Json → Option (List Nat)
  | .arr items => items.mapM natOf?
  | _ => none

/-- Type, whether it is named, field, start and end in octets, start and end as row and column,
children. -/
def ofJson? : Json → Option Row
  | .arr [.str type, named, field, start, stop, startRow, startColumn, stopRow, stopColumn,
      children] => do
    let named ← natOf? named
    let field ← fieldOf? field
    let startByte ← natOf? start
    let endByte ← natOf? stop
    let startPoint : Point := ⟨← natOf? startRow, ← natOf? startColumn⟩
    let endPoint : Point := ⟨← natOf? stopRow, ← natOf? stopColumn⟩
    let children ← natsOf? children
    some ⟨⟨type, named = 1, field, startByte, endByte, startPoint, endPoint⟩, children⟩
  | _ => none

/-- The tree below a row. A way down from the first row has at most as many rows as there are, so
that many steps are enough; a row that is absent or lies on a cycle gives nothing. -/
def treeAt (rows : Array Row) : Nat → Nat → Option Tree
  | 0, _ => none
  | fuel + 1, i => do
    let row ← rows[i]?
    let children ← row.children.mapM (treeAt rows fuel)
    some (.node row.label children)

/-- The tree whose root is the first row; the other rows may come in any order. -/
def tree? (rows : Array Row) : Option Tree := treeAt rows rows.size 0

mutual

/-- The places of a tree that was read from rows, each with the row it came from. -/
def placesAt (rows : Array Row) (i : Nat) (ancestors : List Tree) : Tree → List (Nat × Place)
  | .node label children =>
    (i, ⟨.node label children, ancestors⟩) ::
      placesBelow rows (((rows[i]?).map Row.children).getD []) (.node label children :: ancestors)
        children

def placesBelow (rows : Array Row) (positions : List Nat) (ancestors : List Tree) :
    List Tree → List (Nat × Place)
  | [] => []
  | t :: rest =>
    match positions with
    | [] => []
    | i :: others =>
      placesAt rows i ancestors t ++ placesBelow rows others ancestors rest

end

/-- The place of each row. -/
def places (rows : Array Row) : Array (Option Place) :=
  match tree? rows with
  | none => Array.replicate rows.size none
  | some t =>
    (placesAt rows 0 [] t).foldl (fun found (i, p) => found.set! i (some p))
      (Array.replicate rows.size none)

/-- The rows of a tree that is written as an object. -/
def ofTreeJson? (value : Json) : Option (Array Row) :=
  match value.member? "nodes" with
  | some (.arr items) => (items.mapM ofJson?).map List.toArray
  | _ => none

end Row

/-- What a parser found, from an object with the rows of the tree and a mark for errors. -/
def Parse.ofJson? (value : Json) : Option Parse := do
  let rows ← Row.ofTreeJson? value
  let tree ← Row.tree? rows
  some ⟨tree, match value.member? "has_error" with
    | some (.bool b) => b
    | _ => false⟩

end Canopy
