import Canopy.Language.C
import Canopy.Language.Cpp
import Canopy.Language.JavaScript
import Canopy.Language.Python
import Canopy.Language.Rust

namespace Canopy

def Language.profile : Language → Profile
  | .python => Language.Python.profile
  | .javascript => Language.JavaScript.profile
  | .cpp => Language.Cpp.profile
  | .c => Language.C.profile
  | .rust => Language.Rust.profile

/-- A language with an empty table, known by its name alone. The aliases and the grammar of the
catalogue apply where the name is in it. -/
def Profile.custom (name : String) (aliases : Option (List String)) : Profile where
  name := name
  title := "CustomAdapter"
  aliases := aliases.getD (Language.aliasesOf name)
  grammar := (Language.grammarOf? name).getD name
  isVisible _ _ _ := true

end Canopy
