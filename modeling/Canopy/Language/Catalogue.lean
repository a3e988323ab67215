import Canopy.Text.Affix
import Canopy.Text.Case

namespace Canopy

inductive Language where
  | python
  | javascript
  | cpp
  | c
  | rust
deriving Repr, DecidableEq

namespace Language

def all : List Language := [.python, .javascript, .cpp, .c, .rust]

def name : Language → String
  | .python => "python"
  | .javascript => "javascript"
  | .cpp => "cpp"
  | .c => "c"
  | .rust => "rust"

def aliases : Language → List String
  | .python => ["py"]
  | .javascript => ["js"]
  | .cpp => ["c++", "cxx"]
  | .c => []
  | .rust => ["rs"]

def grammar : Language → String := name

/-- The header suffix `.h` belongs to C; C++ headers have suffixes of their own. -/
def extensions : Language → List String
  | .python => [".py", ".pyw", ".pyi"]
  | .javascript => [".js", ".jsx", ".mjs", ".cjs"]
  | .cpp => [".cpp", ".cc", ".cxx", ".hpp", ".hxx", ".hh"]
  | .c => [".c", ".h"]
  | .rust => [".rs"]

def ofName? (text : String) : Option Language := all.find? fun l => l.name = text

/-- The languages that a registry offers unasked, in the order of their registration. -/
def defaults : List Language := [.python, .javascript, .cpp, .c]

/-- Languages that are offered only on request. -/
def reserved : List Language := [.rust]

def aliasesOf (text : String) : List String :=
  match ofName? text with
  | some l => l.aliases
  | none => []

def grammarOf? (text : String) : Option String := (ofName? text).map grammar

/-- Whether a tag is the name or an alias of some language; it need not be registered. -/
def isKnown (tag : String) : Bool :=
  (ofName? tag).isSome || all.any fun l => l.aliases.contains tag

def extensionTable : List (String × Language) :=
  all.flatMap fun l => l.extensions.map fun e => (e, l)

/-- The language of a file extension, in either case, with or without its dot. -/
def ofExtension? (extension : String) : Option Language :=
  let dotted := if Text.startsWith extension "." then extension else "." ++ extension
  let small := Text.lower dotted
  (extensionTable.find? fun e => e.1 = small).map (·.2)

end Language
end Canopy
