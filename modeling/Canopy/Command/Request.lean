import Canopy.Command.Help
import Canopy.Command.Path
import Canopy.Command.Size
import Canopy.Command.Words

namespace Canopy.Command

inductive Output where
  | json
  | table
deriving Repr, DecidableEq

namespace Output

def all : List Output := [.json, .table]

def name : Output → String
  | .json => "json"
  | .table => "table"

def ofName? (text : String) : Option Output := all.find? fun o => o.name = text

end Output

/-- What is asked of the size of values: what the settings say, a number of octets, or a number
that was left out. -/
inductive SizeChoice where
  | settings
  | octets (n : Nat)
  | leftOut
deriving Repr, DecidableEq

/-- A file to parse and how. -/
structure ParseRequest where
  file : Option Path := none
  language : Option String := none
  size : SizeChoice := .settings
  output : Output := .json
deriving Repr, DecidableEq

inductive Request where
  | parse (file : Path) (details : ParseRequest)
  | languages
  | nothing
deriving Repr, DecidableEq

/-- What is wrong with a command line. -/
inductive Fault where
  | words (fault : WordFault)
  | choice (label text : String) (choices : List String)
  | size (label text : String) (fault : SizeFault)
  | unrecognized (texts : List String)
deriving Repr, DecidableEq

def Fault.message : Fault → String
  | .words fault => fault.message
  | .choice label text choices =>
    "argument " ++ label ++ ": invalid choice: " ++ Text.quoted text ++ " (choose from " ++
      ", ".intercalate (choices.map Text.quoted) ++ ")"
  | .size label _ (.tooSmall text) =>
    "argument " ++ label ++ ": " ++ (SizeFault.tooSmall text).message
  | .size label text _ =>
    "argument " ++ label ++ ": invalid _positive_int value: " ++ Text.quoted text
  | .unrecognized texts => "unrecognized arguments: " ++ " ".intercalate texts

/-- Why a command line is not carried out: it asks for a text, or it is refused. -/
inductive Stop where
  | shows (text : String)
  | refused (place : Section) (fault : Fault)
deriving Repr, DecidableEq

/-- What an option of the program itself is for. -/
inductive TopOption where
  | help
  | version
deriving Repr, DecidableEq

/-- What an option of a command is for. -/
inductive CommandOption where
  | help
  | language
  | truncate
  | format
deriving Repr, DecidableEq

def topSwitches : List (Switch TopOption) :=
  [⟨["-h", "--help"], false, .help⟩, ⟨["--version"], false, .version⟩]

def helpSwitch : Switch CommandOption := ⟨["-h", "--help"], false, .help⟩

def parseSwitches : List (Switch CommandOption) :=
  [helpSwitch, ⟨["--language", "-l"], true, .language⟩, ⟨["--truncate"], true, .truncate⟩,
    ⟨["--format"], true, .format⟩]

def languagesSwitches : List (Switch CommandOption) := [helpSwitch]

/-- One event of the command that parses. The last value of an option counts; an option for which
a value was left out counts too. -/
def parseEvent (r : ParseRequest) : Event CommandOption → Except Stop ParseRequest
  | .positional texts => .ok { r with file := (texts.head?).map Path.ofText }
  | .option switch value =>
    match switch.meaning, value with
    | .help, _ => .error (.shows Section.parse.help)
    | .language, language => .ok { r with language }
    | .truncate, none => .ok { r with size := .leftOut }
    | .truncate, some text =>
      match size text with
      | .ok n => .ok { r with size := .octets n }
      | .error fault => .error (.refused .parse (.size switch.label text fault))
    | .format, none => .ok { r with output := .json }
    | .format, some text =>
      match Output.ofName? text with
      | some output => .ok { r with output }
      | none =>
        .error (.refused .parse (.choice switch.label text (Output.all.map Output.name)))

/-- A request, and the words that it leaves over. -/
abbrev Answer := Except Stop (Request × List String)

def parseRequest (words : List String) : Answer := do
  let found := read parseSwitches .one words
  let r ← found.events.foldlM parseEvent {}
  match found.ending, r.file with
  | .error fault, _ => .error (.refused .parse (.words fault))
  | .ok _, none => .error (.refused .parse (.words (.positionalMissing "file")))
  | .ok extras, some file => .ok (.parse file r, extras)

/-- The command that lists languages has no positional argument: all plain words are left over. -/
def languagesRequest (words : List String) : Answer := do
  let found := read languagesSwitches .nothing words
  match found.events, found.ending with
  | _ :: _, _ => .error (.shows Section.languages.help)
  | [], .error fault => .error (.refused .languages (.words fault))
  | [], .ok extras => .ok (.languages, extras)

/-- The commands by their names. -/
def commands : List (String × (List String → Answer)) :=
  [("parse", parseRequest), ("languages", languagesRequest)]

def topEvent (answer : Request × List String) : Event TopOption → Answer
  | .option switch _ =>
    match switch.meaning with
    | .help => .error (.shows Section.top.help)
    | .version => .error (.shows versionText)
  | .positional [] => .ok answer
  | .positional (name :: words) =>
    match commands.find? fun c => c.1 = name with
    | some (_, command) => command words
    | none => .error (.refused .top (.choice "command" name (commands.map (·.1))))

/-- The request of a command line. What a command is asked is settled before words are refused
that nobody asked for. -/
def request (words : List String) : Except Stop Request := do
  let found := read topSwitches .rest words
  let (r, left) ← found.events.foldlM topEvent (.nothing, [])
  match found.ending with
  | .error fault => .error (.refused .top (.words fault))
  | .ok extras =>
    match extras ++ left with
    | [] => .ok r
    | texts => .error (.refused .top (.unrecognized texts))

end Canopy.Command
