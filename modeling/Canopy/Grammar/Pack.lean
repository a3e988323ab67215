import Canopy.Grammar.Handle
import Canopy.Language.Catalogue

namespace Canopy

/-- The grammars that a process has at hand, by their names. -/
abbrev Pack := Dict LoadAnswer

namespace Pack

def ofVersion (n : Int) : LoadAnswer := .loaded { attributes := [("abi_version", .int n)] }

/-- The grammars that come with the runtime. That of C++ is one version behind. -/
def bundled : Pack :=
  Language.all.map fun l => (l.grammar, ofVersion (if l = .cpp then 14 else 15))

def absentMessage (name : String) : String := "Could not find language library for " ++ name

def loader (p : Pack) : Loader := fun name => p.getD name (.failed (absentMessage name))

def optionalText? : Option Json → Option String
  | some (.str text) => some text
  | _ => none

/-- What a description of a grammar stands for: a null for a missing one, a text of a failure for
one that does not load, and otherwise the attributes of a handle. -/
def answerOf (description : Json) : LoadAnswer :=
  match description with
  | .obj members =>
    match Dict.get? members "raise" with
    | some _ => .failed ((optionalText? (Dict.get? members "message")).getD "")
    | none =>
      .loaded
        { attributes := members
          rejection := optionalText? (Dict.get? members "reject")
          parseFailure := optionalText? (Dict.get? members "parse_error") }
  | _ => .missing

end Pack
end Canopy
