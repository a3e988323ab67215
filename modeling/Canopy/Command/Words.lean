import Canopy.Text.Affix
import Canopy.Text.Digit
import Canopy.Text.Quoted

namespace Canopy.Command

/-- An option of a command line, by all its spellings; `meaning` says what it is for. -/
structure Switch (α : Type) where
  spellings : List String
  takesValue : Bool
  meaning : α

namespace Switch

variable {α : Type}

def label (s : Switch α) : String := "/".intercalate s.spellings

def find? (switches : List (Switch α)) (spelling : String) : Option (Switch α) :=
  switches.find? fun s => s.spellings.contains spelling

/-- All spellings with their options, in the order in which they were declared. -/
def spelled (switches : List (Switch α)) : List (String × Switch α) :=
  switches.flatMap fun s => s.spellings.map fun n => (n, s)

end Switch

/-- An option that was found in a word, and the text after it in the same word. -/
structure Hit (α : Type) where
  switch : Switch α
  spelling : String
  joined : Option String

/-- What a word of the command line is taken for. -/
inductive Word (α : Type) where
  | divider
  | plain (text : String)
  | option (text : String) (hit : Option (Hit α))

namespace Word

variable {α : Type}

def text : Word α → String
  | .divider => "--"
  | .plain text => text
  | .option text _ => text

def isOption : Word α → Bool
  | .option .. => true
  | _ => false

def isDivider : Word α → Bool
  | .divider => true
  | _ => false

end Word

/-- What is wrong with the words, whatever their meaning. -/
inductive WordFault where
  | ambiguous (word : String) (spellings : List String)
  | valueMissing (label : String)
  | valueIgnored (label text : String)
  | positionalMissing (name : String)
deriving Repr, DecidableEq

def WordFault.message : WordFault → String
  | .ambiguous word spellings =>
    "ambiguous option: " ++ word ++ " could match " ++ ", ".intercalate spellings
  | .valueMissing label => "argument " ++ label ++ ": expected one argument"
  | .valueIgnored label text =>
    "argument " ++ label ++ ": ignored explicit argument " ++ Text.quoted text
  | .positionalMissing name => "the following arguments are required: " ++ name

variable {α : Type}

/-- A word at its first equals sign. -/
def splitMark (word : String) : Option (String × String) :=
  let cs := word.toList
  match cs.dropWhile (· ≠ '=') with
  | _ :: rest => some (String.ofList (cs.takeWhile (· ≠ '=')), String.ofList rest)
  | [] => none

/-- Digits, with a point among them or in front, after a hyphen. -/
def isNegativeNumber (word : String) : Bool :=
  match word.toList with
  | '-' :: rest =>
    let cs := if rest.getLast? = some '\n' then rest.dropLast else rest
    let isDigit (c : Char) : Bool := (Text.digitValue? c).isSome
    match cs.dropWhile isDigit with
    | [] => !cs.isEmpty
    | '.' :: places => !places.isEmpty && places.all isDigit
    | _ => false
  | _ => false

/-- The options that a word may be short for. A word with two hyphens is short for every spelling
that it begins; one with a single hyphen is a letter with its value. -/
def candidates (switches : List (Switch α)) (word : String) : List (Hit α) :=
  if Text.startsWith word "--" then
    let (start, joined) :=
      match splitMark word with
      | some (start, value) => (start, some value)
      | none => (word, none)
    (Switch.spelled switches).filterMap fun (spelling, switch) =>
      if Text.startsWith spelling start then some ⟨switch, spelling, joined⟩ else none
  else
    let letter := String.ofList (word.toList.take 2)
    (Switch.spelled switches).filterMap fun (spelling, switch) =>
      if spelling = letter then
        some ⟨switch, spelling, some (String.ofList (word.toList.drop 2))⟩
      else if Text.startsWith spelling word then some ⟨switch, spelling, none⟩
      else none

/-- The option that a word with an equals sign names in full. -/
def markedHit? (switches : List (Switch α)) (word : String) : Option (Hit α) := do
  let (start, value) ← splitMark word
  let switch ← Switch.find? switches start
  some ⟨switch, start, some value⟩

/-- Words without a hyphen in front, a single hyphen, negative numbers and words with a blank are
plain. All other words are options, known or not. -/
def classify (switches : List (Switch α)) (word : String) : Except WordFault (Word α) :=
  if !Text.startsWith word "-" then .ok (.plain word)
  else
    match Switch.find? switches word with
    | some switch => .ok (.option word (some ⟨switch, word, none⟩))
    | none =>
      if word = "-" then .ok (.plain word)
      else
        match markedHit? switches word with
        | some hit => .ok (.option word (some hit))
        | none =>
          match candidates switches word with
          | [hit] => .ok (.option word (some hit))
          | [] =>
            if isNegativeNumber word || word.toList.contains ' ' then .ok (.plain word)
            else .ok (.option word none)
          | hits => .error (.ambiguous word (hits.map Hit.spelling))

/-- After two hyphens alone, all words are plain. -/
def classifyAll (switches : List (Switch α)) : List String → Except WordFault (List (Word α))
  | [] => .ok []
  | word :: rest =>
    if word = "--" then .ok (.divider :: rest.map .plain)
    else do
      let first ← classify switches word
      let others ← classifyAll switches rest
      .ok (first :: others)

/-- What the words ask for, one after the other. -/
inductive Event (α : Type) where
  | option (switch : Switch α) (value : Option String)
  | positional (texts : List String)

/-- How much the positional argument takes: nothing, one word, or one and all that follow. -/
inductive Extent where
  | nothing
  | one
  | rest
deriving Repr, DecidableEq

/-- The words that the positional argument takes at the beginning, and the others. -/
def takePositional (extent : Extent) (words : List (Word α)) :
    Option (List String × List (Word α)) :=
  let (front, after) := (words.takeWhile Word.isDivider, words.dropWhile Word.isDivider)
  match after with
  | .plain text :: others =>
    match extent with
    | .nothing => none
    | .rest => some (words.map Word.text, [])
    | .one =>
      let (back, left) := (others.takeWhile Word.isDivider, others.dropWhile Word.isDivider)
      let texts := front.map Word.text ++ text :: back.map Word.text
      some (texts.erase "--", left)
  | _ => none

/-- The value that a text gives: two hyphens alone give none. -/
def givenValue (text : String) : Option String := if text = "--" then none else some text

/-- An option without text in its own word takes its value from the next one. -/
def takeValue (switch : Switch α) (following : List (Word α)) :
    Except WordFault (Event α × List (Word α)) :=
  if switch.takesValue then
    match following with
    | .plain text :: rest => .ok (.option switch (givenValue text), rest)
    | _ => .error (.valueMissing switch.label)
  else .ok (.option switch none, following)

/-- What one word of options asks for, and the words that are left. -/
abbrev Unpacked (α : Type) := List (Event α) × List (Word α)

/-- An option with text in its own word: a value, or further letters, all of which are options. -/
def unpackJoined (switches : List (Switch α)) (following : List (Word α)) (switch : Switch α)
    (short : Bool) : List Char → Except WordFault (Unpacked α)
  | [] =>
    if switch.takesValue then .ok ([.option switch (some "")], following)
    else .error (.valueIgnored switch.label "")
  | c :: rest =>
    let text := String.ofList (c :: rest)
    let next := if short then Switch.find? switches (String.ofList ['-', c]) else none
    if switch.takesValue then .ok ([.option switch (givenValue text)], following)
    else
      match next with
      | none => .error (.valueIgnored switch.label text)
      | some next =>
        let unpacked : Except WordFault (Unpacked α) :=
          match rest with
          | [] => (takeValue next following).map fun (event, left) => ([event], left)
          | more => unpackJoined switches following next true more
        unpacked.map fun (events, left) => (.option switch none :: events, left)

def unpack (switches : List (Switch α)) (hit : Hit α) (following : List (Word α)) :
    Except WordFault (Unpacked α) :=
  match hit.joined with
  | none => (takeValue hit.switch following).map fun (event, left) => ([event], left)
  | some text =>
    unpackJoined switches following hit.switch (!Text.startsWith hit.spelling "--") text.toList

/-- All events in order, and how the words end: with those that nobody asked for, or a fault. -/
structure Scan (α : Type) where
  events : List (Event α) := []
  ending : Except WordFault (List String)

namespace Scan

def before (events : List (Event α)) (s : Scan α) : Scan α := { s with events := events ++ s.events }

def leaving (extras : List String) (s : Scan α) : Scan α :=
  { s with ending := s.ending.map (extras ++ ·) }

end Scan

/-- Goes through the words. Plain words go to the positional argument as soon as there are any;
`fuel` is more than the number of words. -/
def scan (switches : List (Switch α)) : Nat → Extent → List (Word α) → Scan α
  | 0, _, _ => { ending := .ok [] }
  | _ + 1, _, [] => { ending := .ok [] }
  | fuel + 1, extent, .option text none :: rest =>
    (scan switches fuel extent rest).leaving [text]
  | fuel + 1, extent, .option _ (some hit) :: rest =>
    match unpack switches hit rest with
    | .error fault => { ending := .error fault }
    | .ok (events, left) => (scan switches fuel extent left).before events
  | fuel + 1, extent, words =>
    match takePositional extent words with
    | some (texts, left) => (scan switches fuel .nothing left).before [.positional texts]
    | none =>
      let plain := words.takeWhile fun w => !w.isOption
      (scan switches fuel extent (words.drop plain.length)).leaving (plain.map Word.text)

/-- The words of a command line, read with the options that the command has. -/
def read (switches : List (Switch α)) (extent : Extent) (words : List String) : Scan α :=
  match classifyAll switches words with
  | .error fault => { ending := .error fault }
  | .ok classes => scan switches (classes.length + 1) extent classes

end Canopy.Command
