import Canopy.Text.Integer
import Canopy.Text.Quoted

namespace Canopy.Command

/-- Why a text is no size. -/
inductive SizeFault where
  | notInteger (text : String)
  | tooManyDigits (count : Nat)
  | tooSmall (text : String)
deriving Repr, DecidableEq

/-- The most characters of a refused text that are shown, quotes included. -/
def shownBound : Nat := 200

def SizeFault.message : SizeFault → String
  | .notInteger text =>
    "invalid literal for int() with base 10: " ++
      String.ofList ((Text.quoted text).toList.take shownBound)
  | .tooManyDigits count =>
    "Exceeds the limit (" ++ toString Text.digitBound ++
      " digits) for integer string conversion: value has " ++ toString count ++
      " digits; use sys.set_int_max_str_digits() to increase the limit"
  | .tooSmall text => "must be >= 1, got " ++ text

/-- A positive integer. -/
def size (text : String) : Except SizeFault Nat :=
  match Text.integer text with
  | .error .form => .error (.notInteger text)
  | .error (.digits count) => .error (.tooManyDigits count)
  | .ok n => if n < 1 then .error (.tooSmall text) else .ok n.toNat

end Canopy.Command
