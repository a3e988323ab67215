import Canopy.Json.Binary
import Canopy.Json.Reader
import Canopy.Validation.Issue

namespace Canopy

/-- A value that passed its checks, or all issues that were found. -/
inductive Checked (α : Type) where
  | good (a : α)
  | bad (issues : List Issue)

namespace Checked

variable {α β : Type}

def map (f : α → β) : Checked α → Checked β
  | .good a => .good (f a)
  | .bad issues => .bad issues

/-- Both sides are checked, whatever the first one gives. -/
def ap : Checked (α → β) → Checked α → Checked β
  | .good f, .good a => .good (f a)
  | .good _, .bad issues => .bad issues
  | .bad issues, .good _ => .bad issues
  | .bad issues, .bad more => .bad (issues ++ more)

def below (step : PathStep) : Checked α → Checked α
  | .good a => .good a
  | .bad issues => .bad (issues.map (Issue.below step))

def ofExcept : Except Problem α → Checked α
  | .ok a => .good a
  | .error problem => .bad [⟨[], problem⟩]

def toExcept : Checked α → Except (List Issue) α
  | .good a => .ok a
  | .bad issues => .error issues

/-- The member `name`, or what stands for it where it is absent. -/
def field (members : Dict Json) (name : String) (absent : Option α) (read : Json → Checked α) :
    Checked α :=
  match members.get? name, absent with
  | some value, _ => (read value).below (.field name)
  | none, some a => .good a
  | none, none => .bad [Issue.ofField name .missing]

/-- The items of a list from position `n` on, each checked. -/
def eachFrom (n : Nat) (read : Json → Checked α) : List Json → Checked (List α)
  | [] => .good []
  | item :: rest =>
    ap (map List.cons ((read item).below (.index n))) (eachFrom (n + 1) read rest)

def list (read : Json → Checked α) : Json → Checked (List α)
  | .arr items => eachFrom 0 read items
  | _ => .bad [⟨[], .notList⟩]

def optional (read : Json → Checked α) : Json → Checked (Option α)
  | .null => .good none
  | value => map some (read value)

/-- Zeros in front go, and underscores among them. One zero stays where nothing or a point comes
next. A text begins with a digit or a minus, and what follows a minus stays as it is. -/
def dropZeros (cs : List Char) : Option (List Char) :=
  match cs with
  | [] => none
  | c :: rest =>
    if c = '0' then
      let isZero (c : Char) : Bool := c = '0' || c = '_'
      let last := ((rest.takeWhile isZero).getLast?).getD '0'
      match rest.dropWhile isZero with
      | [] => some [last]
      | d :: more =>
        if d = '.' then some (last :: d :: more)
        else if Json.isDigit d || d = '-' then some (d :: more)
        else none
    else if Json.isDigit c || c = '-' then some cs
    else none

/-- The part before a point that zeros follow, at least one and nothing else. -/
def dropZeroPlaces (cs : List Char) : List Char :=
  match cs.dropWhile (· ≠ '.') with
  | _ :: places =>
    if !places.isEmpty && places.all (· = '0') then cs.takeWhile (· ≠ '.') else cs
  | [] => cs

/-- Single underscores go, unless one stands at either end or beside another. -/
def dropUnderscores (cs : List Char) : List Char :=
  let misplaced :=
    cs.head? = some '_' || cs.getLast? = some '_' ||
      (cs.zip cs.tail).any fun (a, b) => a = '_' && b = '_'
  if misplaced then cs else cs.filter (· ≠ '_')

/-- A plus in front goes. -/
def dropPlus : List Char → List Char
  | '+' :: rest => rest
  | cs => cs

/-- A text that begins with more digits than are read, after an optional minus. -/
def startsTooLong (cs : List Char) : Bool :=
  let digits := (if cs.head? = some '-' then cs.tail else cs).takeWhile Json.isDigit
  digits.head? ≠ some '0' && Text.digitBound < digits.length

/-- Digits after an optional minus. Zeros in front do not count among them. -/
def plainInteger? (cs : List Char) : Option Int :=
  let negative := cs.head? = some '-'
  let digits := if negative then cs.tail else cs
  let counted := digits.dropWhile (· = '0')
  if digits.isEmpty || !digits.all Json.isDigit || Text.digitBound < counted.length then none
  else some (Text.signed negative (Json.digitsNat counted))

/-- An integer in ASCII digits, between white space, with a sign, zeros in front, underscores
between digits and a fraction of zeros. -/
def integerOfText (s : String) : Except Problem Int :=
  if startsTooLong s.toList then .error .integerSize
  else
    let plain := (dropZeros (dropPlus (Text.trimWhite s))).map fun cs =>
      dropUnderscores (dropZeroPlaces cs)
    match plain.bind plainInteger? with
    | some n => .ok n
    | none => .error .integerText

/-- The first integer beyond 64 bits with a sign. -/
def wordBound : Int := 9223372036854775808

/-- Decimals count as the nearest binary numbers. Those without a fraction are integers, within 64
bits only. -/
def integerOfDecimal (d : Decimal) : Except Problem Int :=
  match d.units? with
  | none => .error .notFinite
  | some units =>
    if units % Decimal.one ≠ 0 then .error .integerFraction
    else
      let n := Text.signed d.negative (units / Decimal.one)
      if -wordBound < n ∧ n < wordBound then .ok n else .error .integerSize

/-- Integers, truth values as zero and one, decimals without a fraction, and texts of integers. -/
def integer : Json → Except Problem Int
  | .int n => .ok n
  | .bool b => .ok (if b then 1 else 0)
  | .dec d => integerOfDecimal d
  | .beyond _ => .error .notFinite
  | .str s => integerOfText s
  | _ => .error .notInteger

/-- An integer that is not below the bound. -/
def natural (bound : Nat) (value : Json) : Checked Nat :=
  ofExcept <| (integer value).bind fun n =>
    if (bound : Int) ≤ n then .ok n.toNat else .error (.atLeast bound)

def asciiLower (c : Char) : Char :=
  if 'A' ≤ c ∧ c ≤ 'Z' then Char.ofNat (c.toNat + 32) else c

def trueTexts : List String := ["true", "t", "yes", "y", "on", "1"]

def falseTexts : List String := ["false", "f", "no", "n", "off", "0"]

def booleanOfInteger (n : Int) : Except Problem Bool :=
  if n = 0 then .ok false else if n = 1 then .ok true else .error .booleanText

def boolean (value : Json) : Checked Bool :=
  ofExcept <|
    match value with
    | .bool b => .ok b
    | .int n => if -wordBound ≤ n ∧ n < wordBound then booleanOfInteger n else .error .notBoolean
    | .dec d =>
      match integerOfDecimal d with
      | .ok n => booleanOfInteger n
      | .error _ => .error .notBoolean
    | .str s =>
      let small := String.ofList (s.toList.map asciiLower)
      if trueTexts.contains small then .ok true
      else if falseTexts.contains small then .ok false
      else .error .booleanText
    | _ => .error .notBoolean

def text : Json → Checked String
  | .str s => .good s
  | _ => .bad [⟨[], .notText⟩]

def nonEmptyText : Json → Checked String
  | .str s => if s = "" then .bad [⟨[], .emptyText⟩] else .good s
  | _ => .bad [⟨[], .notText⟩]

/-- One of a few texts, each standing for a value; `problem` reports any other input. -/
def choice (choices : List (String × α)) (problem : List String → Problem) (value : Json) :
    Checked α :=
  let refused : Checked α := .bad [⟨[], problem (choices.map (·.1))⟩]
  match value with
  | .str s =>
    match Dict.get? choices s with
    | some a => .good a
    | none => refused
  | _ => refused

end Checked
end Canopy
