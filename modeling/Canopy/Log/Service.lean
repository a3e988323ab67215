import Canopy.Log.Line
import Canopy.Text.Case

namespace Canopy.Log

namespace Level

/-- The name in capitals, as configurations spell it. -/
def label : Level → String
  | .debug => "DEBUG"
  | .info => "INFO"
  | .warning => "WARNING"
  | .error => "ERROR"
  | .critical => "CRITICAL"

/-- The capital of a letter from a to z, and of the dotless i, which shares that of the dotted one.
What other letters have for a capital, such as the `S` of the long s, is in no name of a level. -/
def capital (c : Char) : Char :=
  if 'a' ≤ c ∧ c ≤ 'z' then Char.ofNat (c.toNat - 32)
  else if c.toNat = 0x131 then 'I'
  else c

/-- The level of a name in either case. -/
def ofLabel? (text : String) : Option Level :=
  all.find? fun l => l.label = String.ofList (text.toList.map capital)

def refusal (text : String) : String :=
  "Invalid log level: " ++ text ++ ". Must be one of: " ++ ", ".intercalate (all.map label)

end Level

/-- A configuration as it was given. Its texts need not name a level or a format. -/
structure Configuration where
  level : String := "INFO"
  format : String := "json"
deriving Repr, DecidableEq

namespace Configuration

/-- The weight below which entries are dropped. -/
def threshold? (text : String) : Option Nat :=
  match Level.all.find? fun l => l.label = text with
  | some l => some l.weight
  | none =>
    if text = "WARN" then some Level.warning.weight
    else if text = "FATAL" then some Level.critical.weight
    else if text = "NOTSET" then some 0
    else none

/-- Any format that is not the console's is that of objects. -/
def layout (c : Configuration) : Format :=
  if c.format = Format.console.name then .console else .json

end Configuration

/-- Why the service refuses. -/
inductive Fault where
  | alreadyConfigured
  | notConfigured
  | badLevel (text : String)
  | badFormat (text : String)
  | levelIsCall (text : String)
  | levelUnknown (text : String)
  | unnamedLogger
  | longLoggerName
  | unnamedOperation
  | durationKind
  | negativeDuration
  | reservedField (name : String)
deriving Repr, DecidableEq

/-- Names of calls that write an entry. They are known, but are no threshold. -/
def callNames : List String :=
  ["debug", "info", "warning", "warn", "error", "critical", "fatal", "exception", "log"]

/-- The longest name of a logger. -/
def nameBound : Nat := 200

def Fault.message : Fault → String
  | .alreadyConfigured => "Logging already configured"
  | .notConfigured => "Logging not configured. Call configure_logging() first."
  | .badLevel text => Level.refusal text
  | .badFormat text => "Invalid format: " ++ text ++ ". Must be 'json' or 'console'"
  | .levelIsCall text => text ++ " writes entries and is no log level"
  | .levelUnknown text => text ++ " is no log level"
  | .unnamedLogger => "Logger name cannot be empty"
  | .longLoggerName =>
    "Logger name exceeds maximum length (" ++ toString nameBound ++ ")"
  | .unnamedOperation => "operation cannot be empty"
  | .durationKind => "duration_ms is not a number"
  | .negativeDuration => "duration_ms cannot be negative"
  | .reservedField name => "a field cannot be named " ++ name

/-- The logging of a process. Loggers are numbered in the order in which they were made. -/
structure Service where
  configured : Bool := false
  level : String := "INFO"
  configuration : Option Configuration := none
  loggers : Dict Nat := []
  made : Nat := 0
deriving Repr

namespace Service

/-- Takes a configuration over. Where its level is no threshold, the service keeps the
configuration but does not count as configured. -/
def adopt (c : Configuration) (s : Service) : Except Fault Unit × Service :=
  let taken := { s with configuration := some c, level := c.level }
  match Configuration.threshold? c.level with
  | some _ => (.ok (), { taken with configured := true })
  | none =>
    if callNames.contains c.level then (.error (.levelIsCall c.level), taken)
    else (.error (.levelUnknown c.level), taken)

/-- Configures a service that is not configured yet. A level and a format are checked, the level
first; a configuration given as a whole is not. -/
def configure (level format : String) (whole : Option Configuration) (s : Service) :
    Except Fault Unit × Service :=
  if s.configured then (.error .alreadyConfigured, s)
  else
    match whole with
    | some c => s.adopt c
    | none =>
      match Level.ofLabel? level with
      | none => (.error (.badLevel level), s)
      | some l =>
        match Format.ofName? (Text.lower format) with
        | none => (.error (.badFormat format), s)
        | some f => s.adopt ⟨l.label, f.name⟩

/-- Nothing happens where the service is configured already. -/
def configureOnce (level : Level) (format : Format) (s : Service) : Except Fault Unit × Service :=
  if s.configured then (.ok (), s) else s.configure level.label format.name none

/-- The number of the logger of a name, which is made on first use. -/
def getLogger (name : String) (s : Service) : Except Fault Nat × Service :=
  if !s.configured then (.error .notConfigured, s)
  else if name = "" then (.error .unnamedLogger, s)
  else if nameBound < name.length then (.error .longLoggerName, s)
  else
    match s.loggers.get? name with
    | some number => (.ok number, s)
    | none =>
      (.ok s.made, { s with loggers := s.loggers.insert name s.made, made := s.made + 1 })

def passes (s : Service) (e : Entry) : Bool :=
  (Configuration.threshold? s.level).getD 0 ≤ e.level.weight

/-- The names of a call's own arguments, which no field can have. The last of them is an argument
only of a call that writes. -/
def argumentNames (writes : Bool) : List String :=
  ["self", "event"] ++ (if writes then ["method_name"] else [])

/-- The entries to write for one entry: itself, or none if it is below the threshold. -/
def emit (name : String) (e : Entry) (s : Service) : Except Fault (List Entry) × Service :=
  let (found, s) := s.getLogger name
  match found with
  | .error fault => (.error fault, s)
  | .ok _ =>
    let writes := s.passes e
    match (argumentNames writes).find? fun field => e.fields.contains field with
    | some field => (.error (.reservedField field), s)
    | none => (.ok (if writes then [e] else []), s)

/-- The logger of those who name none. -/
def defaultLogger : String := "uniast"

/-- Whether a number is below zero; nothing for a value that is no number. -/
def isNegative? : Json → Option Bool
  | .bool _ => some false
  | .int n => some (n < 0)
  | .dec d => some (d.negative && !d.isZero)
  | .beyond name => some (name = "-Infinity")
  | _ => none

/-- Notes how long an operation took. The metadata may take the place of both fields. -/
def performance (operation : String) (duration : Json) (metadata : Dict Json) (name : String)
    (s : Service) : Except Fault (List Entry) × Service :=
  if operation = "" then (.error .unnamedOperation, s)
  else
    match isNegative? duration with
    | none => (.error .durationKind, s)
    | some true => (.error .negativeDuration, s)
    | some false =>
      s.emit name (info "performance_metric"
        (Dict.merge [("operation", .str operation), ("duration_ms", duration)] metadata))

/-- Forgets the configuration and all loggers. -/
def reset (s : Service) : Service := { made := s.made }

/-- An entry in the layout of the configuration. -/
def render (s : Service) (e : Entry) : Json :=
  e.render ((s.configuration.map Configuration.layout).getD .json)

end Service
end Canopy.Log
