import Canopy.Json.Basic
import Canopy.Text.Quoted

namespace Canopy

namespace Decimal

/-- Where positional notation ends and which mark the exponent has. -/
structure Format where
  leastExponent : Int
  pastExponent : Int

/-- Positional from 10^-4 up to 10^16. -/
def shortest : Format := ⟨-4, 16⟩

/-- The digits without closing zeros, and the exponent that goes with them. -/
def reduce (fuel digits : Nat) (exponent : Int) : Nat × Int :=
  match fuel with
  | 0 => (digits, exponent)
  | fuel + 1 =>
    if digits ≠ 0 ∧ digits % 10 = 0 then reduce fuel (digits / 10) (exponent + 1)
    else (digits, exponent)

def exponentText (e : Int) : String :=
  let size := toString e.natAbs
  (if e < 0 then "-" else "+") ++ (if size.length < 2 then "0" ++ size else size)

/-- A decimal with at least one digit on each side of its point, or in scientific notation. -/
def write (format : Format) (d : Decimal) : String :=
  let sign := if d.negative then "-" else ""
  let (digits, exponent) :=
    if d.digits = 0 then (0, 0) else reduce (toString d.digits).length d.digits d.exponent
  let text := toString digits
  let leading := text.length + exponent - 1
  let places (n : Nat) : String := String.ofList (List.replicate n '0')
  sign ++
    if leading < format.leastExponent ∨ format.pastExponent ≤ leading then
      let rest := text.drop 1
      (text.take 1).toString ++ (if rest.isEmpty then "" else "." ++ rest.toString) ++ "e" ++
        exponentText leading
    else if 0 ≤ exponent then text ++ places exponent.toNat ++ ".0"
    else
      let before := (text.length + exponent).toNat
      if 0 < text.length + exponent then
        (text.take before).toString ++ "." ++ (text.drop before).toString
      else "0." ++ places (-(text.length + exponent)).toNat ++ text

end Decimal

namespace Json

/-- Line breaks with `indent` blanks for each level, or none; characters above ASCII as they are,
or by their UTF-16 units. -/
structure Layout where
  indent : Option Nat
  ascii : Bool

/-- One line, all characters as they are. -/
def Layout.line : Layout := ⟨none, false⟩

/-- Two blanks for each level, all characters as they are. -/
def Layout.page : Layout := ⟨some 2, false⟩

/-- One line of ASCII. -/
def Layout.wire : Layout := ⟨none, true⟩

def unitEscape (n : Nat) : List Char := '\\' :: 'u' :: Text.hexDigits 4 n

def asciiEscape (c : Char) : List Char :=
  let n := c.toNat
  if n < 0x10000 then unitEscape n
  else unitEscape (0xD800 + (n - 0x10000) / 0x400) ++ unitEscape (0xDC00 + (n - 0x10000) % 0x400)

/-- The double quote, the backslash and the characters below the space are escaped, five of them by
a letter. -/
def escapeChar (layout : Layout) (c : Char) : List Char :=
  if c = '"' then ['\\', '"']
  else if c = '\\' then ['\\', '\\']
  else if c = '\n' then ['\\', 'n']
  else if c = '\r' then ['\\', 'r']
  else if c = '\t' then ['\\', 't']
  else if c.toNat = 8 then ['\\', 'b']
  else if c.toNat = 12 then ['\\', 'f']
  else if c.toNat < 0x20 then unitEscape c.toNat
  else if layout.ascii && 0x7F ≤ c.toNat then asciiEscape c
  else [c]

def writeText (layout : Layout) (s : String) : List Char :=
  '"' :: s.toList.flatMap (escapeChar layout) ++ ['"']

def lineBreak (layout : Layout) (level : Nat) : List Char :=
  match layout.indent with
  | none => []
  | some width => '\n' :: List.replicate (width * level) ' '

/-- What divides two items: a comma and a blank, or a comma and a new line. -/
def divide (layout : Layout) (level : Nat) : List Char :=
  match layout.indent with
  | none => [',', ' ']
  | some _ => ',' :: lineBreak layout level

mutual

def writeAt (layout : Layout) (level : Nat) : Json → List Char
  | .null => "null".toList
  | .bool true => "true".toList
  | .bool false => "false".toList
  | .int n => (toString n).toList
  | .dec d => (d.write Decimal.shortest).toList
  | .beyond name => name.toList
  | .str s => writeText layout s
  | .arr [] => ['[', ']']
  | .arr (item :: rest) =>
    '[' :: lineBreak layout (level + 1) ++ writeAt layout (level + 1) item ++
      writeItems layout (level + 1) rest ++ lineBreak layout level ++ [']']
  | .obj [] => ['{', '}']
  | .obj ((key, value) :: rest) =>
    '{' :: lineBreak layout (level + 1) ++ writeText layout key ++ [':', ' '] ++
      writeAt layout (level + 1) value ++ writeMembers layout (level + 1) rest ++
      lineBreak layout level ++ ['}']

def writeItems (layout : Layout) (level : Nat) : List Json → List Char
  | [] => []
  | item :: rest => divide layout level ++ writeAt layout level item ++ writeItems layout level rest

def writeMembers (layout : Layout) (level : Nat) : List (String × Json) → List Char
  | [] => []
  | (key, value) :: rest =>
    divide layout level ++ writeText layout key ++ [':', ' '] ++ writeAt layout level value ++
      writeMembers layout level rest

end

def write (layout : Layout) (value : Json) : String := String.ofList (writeAt layout 0 value)

end Json
end Canopy
