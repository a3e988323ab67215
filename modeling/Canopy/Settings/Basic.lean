import Canopy.Ast.Options
import Canopy.Log.Service

namespace Canopy

/-- What a user can set. -/
structure Settings where
  level : Log.Level := .info
  format : Log.Format := .json
  size : Option Nat := none
  mode : TruncationMode := .head
  experimental : List String := []
deriving Repr, DecidableEq

namespace Settings

/-- Language names without blanks around them, in small letters; those that are blank are left
out. -/
def tidyNames (names : List String) : List String :=
  (names.map fun n => Text.lower (Text.trim n)).filter (· ≠ "")

def readLevel (value : Json) : Checked Log.Level :=
  match value with
  | .str text =>
    match Log.Level.ofLabel? text with
    | some level => .good level
    | none => .bad [⟨[], .refused (Log.Level.refusal text)⟩]
  | _ => .bad [⟨[], .notText⟩]

def readFormat : Json → Checked Log.Format :=
  Checked.choice (Log.Format.all.map fun f => (f.name, f)) .notLiteral

def readSize : Json → Checked (Option Nat) := Checked.optional (Checked.natural 1)

def readMode : Json → Checked TruncationMode :=
  Checked.choice TruncationMode.choices .notLiteral

def readNames (value : Json) : Checked (List String) :=
  (Checked.list Checked.text value).map tidyNames

/-- The fields, in the order in which they are checked. -/
inductive Field where
  | level
  | format
  | size
  | mode
  | experimental
deriving Repr, DecidableEq

namespace Field

def all : List Field := [.level, .format, .size, .mode, .experimental]

def name : Field → String
  | .level => "log_level"
  | .format => "log_format"
  | .size => "value_truncation_size"
  | .mode => "truncation_mode"
  | .experimental => "experimental_languages"

def ofName? (text : String) : Option Field := all.find? fun f => f.name = text

end Field

def ofMembers (members : Dict Json) : Checked Settings :=
  Checked.good Settings.mk
    |>.ap (Checked.field members Field.level.name (some .info) readLevel)
    |>.ap (Checked.field members Field.format.name (some .json) readFormat)
    |>.ap (Checked.field members Field.size.name (some none) readSize)
    |>.ap (Checked.field members Field.mode.name (some .head) readMode)
    |>.ap (Checked.field members Field.experimental.name (some []) readNames)

def members (s : Settings) : Dict Json :=
  [(Field.level.name, .str s.level.label), (Field.format.name, .str s.format.name),
    (Field.size.name, Json.ofOption Json.nat s.size), (Field.mode.name, .str s.mode.name),
    (Field.experimental.name, Json.texts s.experimental)]

/-- Sets one field to a value that passes the field's check; the others stay as they are. -/
def assign (name : String) (value : Json) (s : Settings) : Checked Settings :=
  match Field.ofName? name with
  | none => .bad [Issue.ofField name (.noAttribute name)]
  | some field =>
    Checked.below (.field name)
      (match field with
        | .level => (readLevel value).map fun level => { s with level }
        | .format => (readFormat value).map fun format => { s with format }
        | .size => (readSize value).map fun size => { s with size }
        | .mode => (readMode value).map fun mode => { s with mode }
        | .experimental => (readNames value).map fun names => { s with experimental := names })

/-- The settings by concern. -/
def summary (s : Settings) : Json :=
  .obj
    [("logging", .obj [("level", .str s.level.label), ("format", .str s.format.name)]),
      ("output", .obj
        [("value_truncation_size", Json.ofOption Json.nat s.size),
          ("truncation_mode", .str s.mode.name)]),
      ("languages", .obj [("experimental", Json.texts s.experimental)])]

def buildOptions (s : Settings) : BuildOptions := ⟨s.size, s.mode⟩

end Settings
end Canopy
