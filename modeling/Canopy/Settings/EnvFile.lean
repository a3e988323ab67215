import Canopy.Dict
import Canopy.Text.Blank
import Canopy.Text.Utf8

namespace Canopy.EnvFile

/-- A variable with its value; a name without an equals sign has none. -/
abbrev Binding := String × Option String

/-- Blank, but no line feed. -/
def isGap (c : Char) : Bool := Text.isBlank c && c ≠ '\n'

/-- One way to end a line. -/
def joinLineEnds : List Char → List Char
  | '\r' :: '\n' :: rest => '\n' :: joinLineEnds rest
  | '\r' :: rest => '\n' :: joinLineEnds rest
  | c :: rest => c :: joinLineEnds rest
  | [] => []

def isNameChar (c : Char) : Bool := c ≠ '=' && c ≠ '#' && !Text.isBlank c

/-- What follows the word `export` and at least one blank. -/
def skipExport (cs : List Char) : List Char :=
  match cs with
  | 'e' :: 'x' :: 'p' :: 'o' :: 'r' :: 't' :: c :: rest =>
    if isGap c then rest.dropWhile isGap else cs
  | _ => cs

/-- The name of a variable, bare or in single quotes; none where a comment begins. What is left is
given back also where there is no name. -/
def readName (cs : List Char) : Except Unit (Option String × List Char) :=
  match cs with
  | '#' :: _ => .ok (none, cs)
  | '\'' :: rest =>
    let name := rest.takeWhile (· ≠ '\'')
    match rest.dropWhile (· ≠ '\'') with
    | _ :: after => if name.isEmpty then .error () else .ok (some (String.ofList name), after)
    | [] => .error ()
  | _ =>
    let name := cs.takeWhile isNameChar
    if name.isEmpty then .error ()
    else .ok (some (String.ofList name), cs.dropWhile isNameChar)

/-- The text up to the closing quote. A character after a backslash closes nothing. -/
def closeQuote (quote : Char) : List Char → Option (List Char × List Char)
  | [] => none
  | '\\' :: c :: rest =>
    (closeQuote quote rest).map fun (body, after) => ('\\' :: c :: body, after)
  | c :: rest =>
    if c = quote then some ([], rest)
    else (closeQuote quote rest).map fun (body, after) => (c :: body, after)

def escapeIn (quote c : Char) : Option Char :=
  if c = '\\' ∨ c = '\'' then some c
  else if quote = '"' then
    if c = '"' then some c
    else if c = 'a' then some (Char.ofNat 7)
    else if c = 'b' then some (Char.ofNat 8)
    else if c = 'f' then some (Char.ofNat 12)
    else if c = 'n' then some '\n'
    else if c = 'r' then some '\r'
    else if c = 't' then some '\t'
    else if c = 'v' then some (Char.ofNat 11)
    else none
  else none

def unescape (quote : Char) : List Char → List Char
  | '\\' :: c :: rest =>
    match escapeIn quote c with
    | some d => d :: unescape quote rest
    | none => '\\' :: unescape quote (c :: rest)
  | c :: rest => c :: unescape quote rest
  | [] => []

/-- Text before a comment that has a blank in front. -/
def dropComment : List Char → List Char
  | [] => []
  | c :: rest =>
    if Text.isBlank c && (rest.dropWhile Text.isBlank).head? = some '#' then []
    else c :: dropComment rest

/-- A value; `spaced` if a blank stands before it, after which it may be a comment at once. -/
def readValue (spaced : Bool) (cs : List Char) : Except Unit (String × List Char) :=
  match cs with
  | [] => .ok ("", [])
  | '\n' :: _ => .ok ("", cs)
  | c :: rest =>
    if spaced && c = '#' then .ok ("", cs)
    else if c = '\'' ∨ c = '"' then
      match closeQuote c rest with
      | some (body, after) => .ok (String.ofList (unescape c body), after)
      | none => .error ()
    else
      let line := cs.takeWhile (· ≠ '\n')
      .ok (String.ofList (Text.dropEndWhile Text.isBlank (dropComment line)),
        cs.dropWhile (· ≠ '\n'))

def skipLine (cs : List Char) : List Char := (cs.dropWhile (· ≠ '\n')).drop 1

/-- What follows a line on which only blanks and a comment are left. -/
def endLine (cs : List Char) : Except Unit (List Char) :=
  let rest :=
    match cs.dropWhile isGap with
    | '#' :: comment => comment.dropWhile (· ≠ '\n')
    | rest => rest
  match rest with
  | [] => .ok []
  | '\n' :: after => .ok after
  | _ => .error ()

/-- One statement that starts at a character that is not blank. A statement that cannot be read is
skipped from where it fails to the end of that line. -/
def readStatement (cs : List Char) : Option Binding × List Char :=
  let start := skipExport cs
  match readName start with
  | .error _ => (none, skipLine start)
  | .ok (name, afterName) =>
    let place := afterName.dropWhile isGap
    let valued : Except (List Char) (Option String × List Char) :=
      match place with
      | '=' :: more =>
        let begun := more.dropWhile isGap
        match readValue (begun.length < more.length) begun with
        | .ok (value, after) => .ok (some value, after)
        | .error _ => .error begun
      | _ => .ok (none, place)
    match valued with
    | .error failed => (none, skipLine failed)
    | .ok (value, after) =>
      match endLine after with
      | .error _ => (none, skipLine after)
      | .ok rest => (name.map fun n => (n, value), rest)

/-- The statements of a file. Each takes at least one character. -/
def readStatements : Nat → List Char → List Binding
  | 0, _ => []
  | fuel + 1, cs =>
    match cs.dropWhile Text.isBlank with
    | [] => []
    | start =>
      let (binding, rest) := readStatement start
      binding.toList ++ readStatements fuel rest

/-- A reference at the beginning of a text, after the opening brace: the name, what stands for it
where it is unbound, and the rest. -/
def readReference (cs : List Char) : Option (String × String × List Char) :=
  let name := String.ofList (cs.takeWhile fun c => c ≠ '}' && c ≠ ':')
  match cs.dropWhile fun c => c ≠ '}' && c ≠ ':' with
  | '}' :: rest => some (name, "", rest)
  | ':' :: '-' :: more =>
    match more.dropWhile (· ≠ '}') with
    | _ :: rest => some (name, String.ofList (more.takeWhile (· ≠ '}')), rest)
    | [] => none
  | _ => none

/-- References in braces after a dollar sign stand for the values of variables. -/
def interpolate (bound : Dict (Option String)) : Nat → List Char → List Char
  | 0, cs => cs
  | _ + 1, [] => []
  | fuel + 1, c :: rest =>
    match c, rest with
    | '$', '{' :: inner =>
      match readReference inner with
      | some (name, fallback, after) =>
        ((bound.getD name (some fallback)).getD "").toList ++ interpolate bound fuel after
      | none => c :: interpolate bound fuel rest
    | _, _ => c :: interpolate bound fuel rest

/-- The values with their references resolved, one after the other, so that a value may refer to
those before it. The file's own values come before those of the environment. -/
def resolve (environment : Dict (Option String)) (known : Dict (Option String)) :
    List Binding → Dict (Option String)
  | [] => known
  | (name, value) :: rest =>
    let resolved := value.map fun text =>
      String.ofList (interpolate (environment.merge known) text.length text.toList)
    resolve environment (known.insert name resolved) rest

/-- The text of a file in UTF-8, without the mark that may stand at its beginning. -/
def decode? (octets : Bytes) : Option String :=
  (Utf8.decode? octets).map fun text =>
    match text.toList with
    | c :: rest => if c.toNat = 0xFEFF then String.ofList rest else text
    | [] => text

/-- The variables of a file: statements `NAME=value`, with comments, quotes and an optional
`export`. A later statement wins. -/
def read (environment : Dict String) (text : String) : Dict (Option String) :=
  let cs := joinLineEnds text.toList
  resolve (environment.map fun (name, value) => (name, some value)) []
    (readStatements (cs.length + 1) cs)

end Canopy.EnvFile
