namespace Canopy

/-- Bindings in the order in which their keys first came; a key occurs once. -/
abbrev Dict (α : Type) := List (String × α)

namespace Dict

variable {α β : Type}

def get? : Dict α → String → Option α
  | [], _ => none
  | (k, v) :: rest, key => if k = key then some v else get? rest key

def contains (d : Dict α) (key : String) : Bool := (get? d key).isSome

def getD (d : Dict α) (key : String) (fallback : α) : α := (get? d key).getD fallback

/-- A key that is bound already keeps its position and changes its value. -/
def insert : Dict α → String → α → Dict α
  | [], key, v => [(key, v)]
  | (k, w) :: rest, key, v => if k = key then (key, v) :: rest else (k, w) :: insert rest key v

def erase (d : Dict α) (key : String) : Dict α := d.filter fun e => e.1 ≠ key

def keys (d : Dict α) : List String := d.map (·.1)

/-- The bindings of `e` after those of `d`; where both bind a key, `e` decides its value. -/
def merge (d e : Dict α) : Dict α := e.foldl (fun acc b => insert acc b.1 b.2) d

def ofList (bindings : List (String × α)) : Dict α := merge [] bindings

/-- The bindings by the code points of their keys. -/
def sorted (d : Dict α) : Dict α := d.mergeSort fun a b => a.1 ≤ b.1

end Dict

/-- Texts in the order of their code points. -/
def sortTexts (texts : List String) : List String := texts.mergeSort (· ≤ ·)

end Canopy
