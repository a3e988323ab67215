import Canopy.Ast.Basic
import Canopy.Json.Literal
import Canopy.Text.Blank

namespace Canopy.Ast

/-- The most characters that a cell shows. -/
def cellBound : Nat := 40

/-- Line feeds are spelled out, and a long text ends in three points. -/
def cellText (text : String) : String :=
  let cs := text.toList.flatMap fun c => if c = '\n' then ['\\', 'n'] else [c]
  if cs.length > cellBound then String.ofList (cs.take (cellBound - 3) ++ ['.', '.', '.'])
  else String.ofList cs

/-- A hyphen stands for an absent value. -/
def cell : Json → String
  | .null => "-"
  | .str text => cellText text
  | value => cellText value.literal

/-- A node's record as cells. -/
def cells (n : Node) : List String := n.record.map fun m => cell m.2

def rows (a : Ast) : List (List String) := Node.columns :: a.nodes.map cells

/-- The greatest length of a cell in each column. -/
def widths (table : List (List String)) : List Nat :=
  (List.range Node.columns.length).map fun i =>
    table.foldl (fun w row => max w ((row[i]?).getD "").length) 0

def padTo (width : Nat) (cell : String) : List Char :=
  cell.toList ++ List.replicate (width - cell.length) ' '

/-- A row without the blanks at its end. -/
def rowLine (ws : List Nat) (row : List String) : List Char :=
  Text.dropEndWhile Text.isBlank
    (List.intercalate [' ', ' '] ((row.zip ws).map fun (cell, width) => padTo width cell))

/-- The records as a table of fixed width, two blanks between columns. -/
def toTable (a : Ast) : String :=
  let table := a.rows
  let ws := widths table
  String.ofList (table.flatMap fun row => rowLine ws row ++ ['\n'])

end Canopy.Ast
