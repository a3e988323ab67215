import Canopy.Json.Basic

namespace Canopy.Log

inductive Level where
  | debug
  | info
  | warning
  | error
  | critical
deriving Repr, DecidableEq

namespace Level

def all : List Level := [.debug, .info, .warning, .error, .critical]

def name : Level → String
  | .debug => "debug"
  | .info => "info"
  | .warning => "warning"
  | .error => "error"
  | .critical => "critical"

def ofName? (text : String) : Option Level := all.find? fun l => l.name = text

/-- How much a level weighs; entries below a threshold are not written. -/
def weight : Level → Nat
  | .debug => 10
  | .info => 20
  | .warning => 30
  | .error => 40
  | .critical => 50

end Level

/-- One event with the fields that describe it. -/
structure Entry where
  level : Level
  event : String
  fields : Dict Json := []
deriving Repr

def debug (event : String) (fields : Dict Json) : Entry := ⟨.debug, event, fields⟩

def info (event : String) (fields : Dict Json) : Entry := ⟨.info, event, fields⟩

def warning (event : String) (fields : Dict Json) : Entry := ⟨.warning, event, fields⟩

def error (event : String) (fields : Dict Json) : Entry := ⟨.error, event, fields⟩

end Canopy.Log
