import Canopy.Json.Basic
import Canopy.Text.Integer

namespace Canopy.Json

def isGap (c : Char) : Bool := c = ' ' || c = '\t' || c = '\n' || c = '\r'

def skipGap (cs : List Char) : List Char := cs.dropWhile isGap

def hexValue? (c : Char) : Option Nat :=
  if '0' ≤ c ∧ c ≤ '9' then some (c.toNat - 48)
  else if 'a' ≤ c ∧ c ≤ 'f' then some (c.toNat - 87)
  else if 'A' ≤ c ∧ c ≤ 'F' then some (c.toNat - 55)
  else none

/-- Four hexadecimal digits: one UTF-16 unit. -/
def unit? (a b c d : Char) : Option Nat := do
  let a ← hexValue? a
  let b ← hexValue? b
  let c ← hexValue? c
  let d ← hexValue? d
  some (((a * 16 + b) * 16 + c) * 16 + d)

def isHighSurrogate (n : Nat) : Bool := 0xD800 ≤ n && n < 0xDC00

def isLowSurrogate (n : Nat) : Bool := 0xDC00 ≤ n && n < 0xE000

/-- The replacement character stands for a surrogate without its partner. -/
def loneUnit (n : Nat) : Char :=
  if isHighSurrogate n || isLowSurrogate n then Char.ofNat 0xFFFD else Char.ofNat n

def pairedUnits (high low : Nat) : Char :=
  Char.ofNat (0x10000 + (high - 0xD800) * 0x400 + (low - 0xDC00))

/-- The characters read so far, last first, once it is clear that no partner comes for `high`. -/
def settle (high : Option Nat) (acc : List Char) : List Char :=
  match high with
  | none => acc
  | some n => loneUnit n :: acc

def escape? (c : Char) : Option Char :=
  if c = '"' then some '"'
  else if c = '\\' then some '\\'
  else if c = '/' then some '/'
  else if c = 'n' then some '\n'
  else if c = 'r' then some '\r'
  else if c = 't' then some '\t'
  else if c = 'b' then some (Char.ofNat 8)
  else if c = 'f' then some (Char.ofNat 12)
  else none

/-- The rest of a text after its opening quote. What was read is in `acc`, last character first,
and `high` is the first half of a pair of units whose second half may follow. -/
def readText (high : Option Nat) (acc : List Char) : List Char → Option (String × List Char)
  | [] => none
  | '"' :: rest => some (String.ofList (settle high acc).reverse, rest)
  | '\\' :: 'u' :: a :: b :: c :: d :: rest =>
    match unit? a b c d, high with
    | none, _ => none
    | some n, some first =>
      if isLowSurrogate n then readText none (pairedUnits first n :: acc) rest
      else if isHighSurrogate n then readText (some n) (settle high acc) rest
      else readText none (loneUnit n :: settle high acc) rest
    | some n, none =>
      if isHighSurrogate n then readText (some n) acc rest
      else readText none (loneUnit n :: acc) rest
  | '\\' :: c :: rest =>
    match escape? c with
    | none => none
    | some c => readText none (c :: settle high acc) rest
  | c :: rest =>
    if c.toNat < 0x20 ∨ c = '\\' then none else readText none (c :: settle high acc) rest

def isDigit (c : Char) : Bool := '0' ≤ c && c ≤ '9'

def digitsNat (cs : List Char) : Nat := cs.foldl (fun n c => n * 10 + (c.toNat - 48)) 0

/-- A fraction: a point and at least one digit. -/
def readFraction (cs : List Char) : List Char × List Char :=
  match cs with
  | '.' :: rest =>
    let digits := rest.takeWhile isDigit
    if digits.isEmpty then ([], cs) else (digits, rest.dropWhile isDigit)
  | _ => ([], cs)

def readExponent (cs : List Char) : Option Int × List Char :=
  match cs with
  | e :: rest =>
    if e = 'e' ∨ e = 'E' then
      let (negative, after) :=
        match rest with
        | '-' :: after => (true, after)
        | '+' :: after => (false, after)
        | _ => (false, rest)
      let digits := after.takeWhile isDigit
      if digits.isEmpty then (none, cs)
      else
        let n : Int := digitsNat digits
        (some (if negative then -n else n), after.dropWhile isDigit)
    else (none, cs)
  | [] => (none, [])

/-- The integer part has no zero in front unless it is zero. -/
def readInteger (cs : List Char) : Option (List Char × List Char) :=
  match cs with
  | '0' :: rest => some (['0'], rest)
  | _ =>
    let digits := cs.takeWhile isDigit
    if digits.isEmpty then none else some (digits, cs.dropWhile isDigit)

/-- Integers have no more digits than the limit, where there is one. Decimals have any number of
them. -/
def readNumber (limit : Option Nat) (negative : Bool) (cs : List Char) :
    Option (Json × List Char) := do
  let (whole, rest) ← readInteger cs
  let (fraction, rest) := readFraction rest
  let (exponent, rest) := readExponent rest
  if fraction.isEmpty ∧ exponent.isNone then
    if limit.any (· < whole.length) then none
    else some (.int (Text.signed negative (digitsNat whole)), rest)
  else
    some (.dec ⟨negative, digitsNat (whole ++ fraction), exponent.getD 0 - fraction.length⟩, rest)

/-- The rest of `cs` after the letters of `word`. -/
def afterWord : List Char → List Char → Option (List Char)
  | [], cs => some cs
  | w :: word, c :: cs => if w = c then afterWord word cs else none
  | _ :: _, [] => none

def readWord (cs : List Char) : Option (Json × List Char) :=
  match afterWord "null".toList cs with
  | some rest => some (.null, rest)
  | none =>
    match afterWord "true".toList cs with
    | some rest => some (.bool true, rest)
    | none =>
      match afterWord "false".toList cs with
      | some rest => some (.bool false, rest)
      | none =>
        match afterWord "NaN".toList cs with
        | some rest => some (.beyond "NaN", rest)
        | none => (afterWord "Infinity".toList cs).map fun rest => (.beyond "Infinity", rest)

mutual

/-- One value, after blanks. -/
def readValue (limit : Option Nat) (fuel : Nat) (cs : List Char) : Option (Json × List Char) :=
  match fuel with
  | 0 => none
  | fuel + 1 =>
    match skipGap cs with
    | [] => none
    | '"' :: rest => (readText none [] rest).map fun (s, rest) => (.str s, rest)
    | '[' :: rest =>
      match skipGap rest with
      | ']' :: rest => some (.arr [], rest)
      | rest => (readItems limit fuel rest).map fun (items, rest) => (.arr items, rest)
    | '{' :: rest =>
      match skipGap rest with
      | '}' :: rest => some (.obj [], rest)
      | rest =>
        (readMembers limit fuel rest).map fun (members, rest) => (.obj (Dict.ofList members), rest)
    | '-' :: rest =>
      match afterWord "Infinity".toList rest with
      | some rest => some (.beyond "-Infinity", rest)
      | none => readNumber limit true rest
    | c :: rest => if isDigit c then readNumber limit false (c :: rest) else readWord (c :: rest)

/-- At least one item and the closing bracket. -/
def readItems (limit : Option Nat) (fuel : Nat) (cs : List Char) :
    Option (List Json × List Char) :=
  match fuel with
  | 0 => none
  | fuel + 1 => do
    let (item, rest) ← readValue limit fuel cs
    match skipGap rest with
    | ']' :: rest => some ([item], rest)
    | ',' :: rest =>
      let (items, rest) ← readItems limit fuel rest
      some (item :: items, rest)
    | _ => none

/-- At least one member and the closing brace. -/
def readMembers (limit : Option Nat) (fuel : Nat) (cs : List Char) :
    Option (List (String × Json) × List Char) :=
  match fuel with
  | 0 => none
  | fuel + 1 =>
    match skipGap cs with
    | '"' :: rest => do
      let (key, rest) ← readText none [] rest
      match skipGap rest with
      | ':' :: rest => do
        let (value, rest) ← readValue limit fuel rest
        match skipGap rest with
        | '}' :: rest => some ([(key, value)], rest)
        | ',' :: rest =>
          let (members, rest) ← readMembers limit fuel rest
          some ((key, value) :: members, rest)
        | _ => none
      | _ => none
    | _ => none

end

/-- A text that holds one value and nothing after it but blanks. Where an object binds a name
twice, the later value counts. The format itself sets no limit to the digits of an integer. -/
def decode? (limit : Option Nat) (s : String) : Option Json :=
  let cs := s.toList
  match readValue limit (2 * cs.length + 2) cs with
  | some (value, rest) => if (skipGap rest).isEmpty then some value else none
  | none => none

/-- The same, with the limit that holds for integers in texts from outside. -/
def parse? (s : String) : Option Json := decode? (some Text.digitBound) s

end Canopy.Json
