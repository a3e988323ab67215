namespace Canopy

/-- Source text as a grammar sees it: octets, not always well formed. -/
abbrev Bytes := List UInt8

namespace Utf8

/-- One to four octets, by the size of the code point. -/
def encodeChar (c : Char) : Bytes :=
  let v := c.toNat
  if v < 0x80 then [UInt8.ofNat v]
  else if v < 0x800 then [UInt8.ofNat (0xC0 + v / 64), UInt8.ofNat (0x80 + v % 64)]
  else if v < 0x10000 then
    [UInt8.ofNat (0xE0 + v / 4096), UInt8.ofNat (0x80 + v / 64 % 64),
      UInt8.ofNat (0x80 + v % 64)]
  else
    [UInt8.ofNat (0xF0 + v / 262144), UInt8.ofNat (0x80 + v / 4096 % 64),
      UInt8.ofNat (0x80 + v / 64 % 64), UInt8.ofNat (0x80 + v % 64)]

def encode (s : String) : Bytes := s.toList.flatMap encodeChar

/-- A character with octets still owed: `more` of them after the next one, which has to lie
between `low` and `high`. The bits read so far are `bits`. -/
structure Begun where
  more : Nat
  low : Nat
  high : Nat
  bits : Nat
deriving Repr, DecidableEq

inductive Reading where
  | refused
  | whole (c : Char)
  | begun (s : Begun)
deriving Repr, DecidableEq

/-- The first octet of a character. The bounds on the second octet shut out overlong forms,
surrogates and codes above the last one. -/
def lead (b : UInt8) : Reading :=
  let n := b.toNat
  if n < 0x80 then .whole (Char.ofNat n)
  else if n < 0xC2 then .refused
  else if n < 0xE0 then .begun ⟨0, 0x80, 0xBF, n - 0xC0⟩
  else if n = 0xE0 then .begun ⟨1, 0xA0, 0xBF, 0⟩
  else if n = 0xED then .begun ⟨1, 0x80, 0x9F, 0xD⟩
  else if n < 0xF0 then .begun ⟨1, 0x80, 0xBF, n - 0xE0⟩
  else if n = 0xF0 then .begun ⟨2, 0x90, 0xBF, 0⟩
  else if n < 0xF4 then .begun ⟨2, 0x80, 0xBF, n - 0xF0⟩
  else if n = 0xF4 then .begun ⟨2, 0x80, 0x8F, 4⟩
  else .refused

def Begun.next (s : Begun) (b : UInt8) : Reading :=
  let n := b.toNat
  if s.low ≤ n ∧ n ≤ s.high then
    let bits := s.bits * 64 + (n - 0x80)
    match s.more with
    | 0 => .whole (Char.ofNat bits)
    | more + 1 => .begun ⟨more, 0x80, 0xBF, bits⟩
  else .refused

/-- One octet: the characters it settles and what it leaves open. An octet that cannot go on with
a character ends an ill-formed stretch, for which `bad` is written, and is read afresh. -/
def step (bad : List Char) : Option Begun → UInt8 → List Char × Option Begun
  | none, b =>
    match lead b with
    | .refused => (bad, none)
    | .whole c => ([c], none)
    | .begun s => ([], some s)
  | some s, b =>
    match s.next b with
    | .whole c => ([c], none)
    | .begun s => ([], some s)
    | .refused =>
      match lead b with
      | .refused => (bad ++ bad, none)
      | .whole c => (bad ++ [c], none)
      | .begun s => (bad, some s)

def decodeFrom (bad : List Char) : Option Begun → Bytes → List Char
  | none, [] => []
  | some _, [] => bad
  | state, b :: rest =>
    let moved := step bad state b
    moved.1 ++ decodeFrom bad moved.2 rest

/-- Each ill-formed stretch, taken as long as a character could still have come of it, becomes one
replacement character. -/
def decodeLossy (octets : Bytes) : String :=
  String.ofList (decodeFrom [Char.ofNat 0xFFFD] none octets)

/-- Ill-formed stretches vanish. -/
def decodeDropping (octets : Bytes) : String :=
  String.ofList (decodeFrom [] none octets)

/-- The characters of octets that are all well formed. -/
def decodeFrom? : Option Begun → Bytes → Option (List Char)
  | none, [] => some []
  | some _, [] => none
  | state, b :: rest =>
    let reading :=
      match state with
      | none => lead b
      | some s => s.next b
    match reading with
    | .refused => none
    | .whole c => (decodeFrom? none rest).map (c :: ·)
    | .begun s => decodeFrom? (some s) rest

def decode? (octets : Bytes) : Option String := (decodeFrom? none octets).map String.ofList

/-- How many of `length` octets a size keeps; a negative size counts from the end. -/
def kept (length : Nat) (size : Int) : Nat :=
  if size < 0 then (length + size).toNat else size.toNat

/-- At most `size` octets of a text. A character across the cut is dropped. -/
def truncate (value : String) : Option Int → String
  | none => value
  | some size =>
    let octets := encode value
    if (octets.length : Int) ≤ size then value
    else decodeDropping (octets.take (kept octets.length size))

end Utf8
end Canopy
