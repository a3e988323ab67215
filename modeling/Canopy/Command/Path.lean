import Canopy.Language.Catalogue

namespace Canopy

/-- A path of a file: none, one or two slashes at its root, and the names after them. -/
structure Path where
  slashes : Nat
  names : List String
deriving Repr, DecidableEq

namespace Path

/-- Names that are empty or a single dot are dropped; two dots stay. More than two slashes in
front count as one. -/
def ofText (text : String) : Path :=
  let front := (text.toList.takeWhile (· = '/')).length
  { slashes := if 2 < front then 1 else front
    names := (text.splitOn "/").filter fun n => n ≠ "" && n ≠ "." }

/-- The path as it is shown; a single dot where nothing is left. -/
def text (p : Path) : String :=
  let shown :=
    String.ofList (List.replicate p.slashes '/') ++ "/".intercalate p.names
  if shown = "" then "." else shown

def hasNull (p : Path) : Bool := p.text.toList.any fun c => c.toNat = 0

/-- The last dot of a name and what follows it, unless the dot is at either end. -/
def suffixOf (name : String) : String :=
  let cs := name.toList
  let after := (cs.reverse.takeWhile (· ≠ '.')).reverse
  let before := cs.length - after.length
  if after.isEmpty ∨ before ≤ 1 then "" else String.ofList ('.' :: after)

def suffix (p : Path) : String :=
  match p.names.getLast? with
  | some name => suffixOf name
  | none => ""

/-- The language of a file: the tag that is asked for, else by the suffix of its path. An empty tag
asks for nothing. -/
def language? (p : Path) (tag : Option String) : Option String :=
  match tag with
  | some "" => (Language.ofExtension? p.suffix).map Language.name
  | some text => some text
  | none => (Language.ofExtension? p.suffix).map Language.name

end Path
end Canopy
