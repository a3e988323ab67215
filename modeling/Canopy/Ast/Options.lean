import Canopy.Validation.Checked

namespace Canopy

/-- How node values are shortened. -/
inductive TruncationMode where
  | head
  | none
deriving Repr, DecidableEq

namespace TruncationMode

def all : List TruncationMode := [.head, .none]

def name : TruncationMode → String
  | .head => "head"
  | .none => "none"

def choices : List (String × TruncationMode) := all.map fun m => (m.name, m)

end TruncationMode

/-- The most octets to keep of each value, and whether to shorten at all. -/
structure BuildOptions where
  size : Option Nat := none
  mode : TruncationMode := .head
deriving Repr, DecidableEq

namespace BuildOptions

/-- The size that values are cut to, if they are cut. -/
def limit? (o : BuildOptions) : Option Nat :=
  match o.mode with
  | .head => o.size
  | .none => none

def truncates (o : BuildOptions) : Bool := o.limit?.isSome

def ofMembers (members : Dict Json) : Checked BuildOptions :=
  Checked.good BuildOptions.mk
    |>.ap (Checked.field members "value_truncation_size" (some none)
      (Checked.optional (Checked.natural 1)))
    |>.ap (Checked.field members "truncation_mode" (some .head)
      (Checked.choice TruncationMode.choices .notMember))

def members (o : BuildOptions) : Dict Json :=
  [("value_truncation_size", Json.ofOption Json.nat o.size),
    ("truncation_mode", .str o.mode.name)]

end BuildOptions
end Canopy
