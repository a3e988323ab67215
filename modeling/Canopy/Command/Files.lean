import Canopy.Command.Path
import Canopy.Syntax.Tree
import Canopy.Text.Quoted

namespace Canopy

/-- Why a file cannot be read. -/
inductive ReadFailure where
  | absent
  | notDirectory
  | directory
  | nameTooLong
  | other (code : Nat) (reason : String)
deriving Repr, DecidableEq

namespace ReadFailure

def code : ReadFailure → Nat
  | .absent => 2
  | .notDirectory => 20
  | .directory => 21
  | .nameTooLong => 36
  | .other code _ => code

def reason : ReadFailure → String
  | .absent => "No such file or directory"
  | .notDirectory => "Not a directory"
  | .directory => "Is a directory"
  | .nameTooLong => "File name too long"
  | .other _ reason => reason

def message (f : ReadFailure) (p : Path) : String :=
  "[Errno " ++ toString f.code ++ "] " ++ f.reason ++ ": " ++ Text.quoted p.text

end ReadFailure

inductive FileEntry where
  | file (contents : Bytes)
  | directory
deriving Repr

/-- A working directory: what is in it and below, by the names on the way to it. Directories on
the way to an entry need not be listed. -/
abbrev Files := List (List String × FileEntry)

namespace Files

def entry? (files : Files) (place : List String) : Option FileEntry :=
  match files.find? fun e => e.1 = place with
  | some e => some e.2
  | none =>
    if place.isEmpty || files.any fun e => place.isPrefixOf e.1 then some .directory else none

/-- The most octets of a name. -/
def nameBound : Nat := 255

/-- The most octets of a path. -/
def pathBound : Nat := 4095

def isTooLong (name : String) : Bool := nameBound < name.utf8ByteSize

/-- Where names lead outside the working directory, of which only the directories around it are
known. -/
def walkOutside : List String → Except ReadFailure FileEntry
  | [] => .ok .directory
  | name :: rest =>
    if name = ".." then walkOutside rest
    else if isTooLong name then .error .nameTooLong
    else .error .absent

/-- Where a path leads from a place. Each name on the way has to be that of a directory. -/
def walk (files : Files) (place : List String) : List String → Except ReadFailure FileEntry
  | [] =>
    match files.entry? place with
    | some e => .ok e
    | none => .error .absent
  | name :: rest =>
    match files.entry? place with
    | none => .error .absent
    | some (.file _) => .error .notDirectory
    | some .directory =>
      if name = ".." then
        if place.isEmpty then walkOutside rest else walk files place.dropLast rest
      else if isTooLong name then .error .nameTooLong
      else walk files (place ++ [name]) rest

def read (files : Files) (p : Path) : Except ReadFailure Bytes :=
  let found :=
    if pathBound < p.text.utf8ByteSize then .error .nameTooLong
    else if p.slashes = 0 then files.walk [] p.names
    else walkOutside p.names
  match found with
  | .ok (.file contents) => .ok contents
  | .ok .directory => .error .directory
  | .error failure => .error failure

end Files
end Canopy
