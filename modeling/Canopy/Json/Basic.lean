import Canopy.Dict

namespace Canopy

/-- A number that was written with a fraction or an exponent: the digits times a power of ten. The
sign stands apart, since a zero has one too. -/
structure Decimal where
  negative : Bool
  digits : Nat
  exponent : Int
deriving Repr, DecidableEq

/-- A value of the interchange format. Objects keep the order of their members, integers have any
size, and `beyond` holds the names of the numbers that are not finite. -/
inductive Json where
  | null
  | bool (b : Bool)
  | int (n : Int)
  | dec (d : Decimal)
  | beyond (name : String)
  | str (s : String)
  | arr (items : List Json)
  | obj (members : List (String × Json))
deriving Repr, Inhabited

namespace Decimal

def isZero (d : Decimal) : Bool := d.digits == 0

end Decimal

namespace Json

def member? : Json → String → Option Json
  | .obj members, key => Dict.get? members key
  | _, _ => none

def texts (items : List String) : Json := .arr (items.map .str)

def nat (n : Nat) : Json := .int n

def ofOption (f : α → Json) : Option α → Json
  | none => .null
  | some a => f a

end Json
end Canopy
