import Canopy.Text.Blank
import Canopy.Text.Digit

namespace Canopy.Text

/-- The digits that follow `acc`; an underscore may stand between two digits. -/
def moreDigits (acc : Nat) : List Char → Option Nat
  | [] => some acc
  | '_' :: c :: rest => (digitValue? c).bind fun d => moreDigits (acc * 10 + d) rest
  | c :: rest => (digitValue? c).bind fun d => moreDigits (acc * 10 + d) rest

def digitsValue? : List Char → Option Nat
  | [] => none
  | c :: rest => (digitValue? c).bind fun d => moreDigits d rest

/-- The most digits that an integer is read from. -/
def digitBound : Nat := 4300

def signed (negative : Bool) (n : Nat) : Int := if negative then -(n : Int) else n

/-- Whether a text begins with a minus, and what follows its sign. -/
def splitSign : List Char → Bool × List Char
  | '-' :: rest => (true, rest)
  | '+' :: rest => (false, rest)
  | cs => (false, cs)

def trimWhite (s : String) : List Char := dropEndWhile isWhite (s.toList.dropWhile isWhite)

/-- Why a text is no integer. -/
inductive IntegerFault where
  | form
  | digits (count : Nat)
deriving Repr, DecidableEq

/-- An integer in decimal digits of any script, between white space, with an optional sign and
single underscores between digits. Too many digits are refused whatever comes after them. -/
def integer (s : String) : Except IntegerFault Int :=
  let (negative, cs) := splitSign (s.toList.dropWhile isWhite)
  let isPart (c : Char) : Bool := (digitValue? c).isSome || c = '_'
  let run := cs.takeWhile isPart
  let count := (run.filter (· ≠ '_')).length
  match digitsValue? run with
  | none => .error .form
  | some n =>
    if digitBound < count then .error (.digits count)
    else if (cs.dropWhile isPart).all isWhite then .ok (signed negative n)
    else .error .form

end Canopy.Text
