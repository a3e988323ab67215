import Canopy.Grammar.Provider
import Canopy.Language.Builtin

namespace Canopy

/-- A language together with its grammar. -/
structure Adapter where
  profile : Profile
  provider : Provider

namespace Adapter

def name (a : Adapter) : String := a.profile.name

def ofProfile (l : Profile) : Adapter := ⟨l, { language := l.name, grammar := l.grammar }⟩

def ofLanguage (l : Language) : Adapter := ofProfile l.profile

/-- A profile without a name has no adapter. -/
def create? (l : Profile) : Option Adapter := if l.name = "" then none else some (ofProfile l)

def unnamedMessage (l : Profile) : String := l.title ++ " must define language_name"

/-- The aliases to register: sorted, each once, the name itself left out. -/
def ownAliases (a : Adapter) : List String :=
  sortTexts (a.profile.aliases.eraseDups.filter (· ≠ a.name))

end Adapter

/-- Adapters whose grammar is usable, by their names, and the names that aliases stand for. -/
structure Registry where
  adapters : Dict Adapter := []
  aliases : Dict String := []

namespace Registry

/-- Why an adapter's names are refused. -/
inductive Conflict where
  | nameIsAlias (name owner : String)
  | aliasIsName (name tag : String)
  | aliasIsTaken (name tag owner : String)
deriving Repr, DecidableEq

namespace Conflict

def message : Conflict → String
  | .nameIsAlias name owner =>
    "Language name '" ++ name ++ "' is already an alias of '" ++ owner ++ "'"
  | .aliasIsName name tag =>
    "Alias '" ++ tag ++ "' of '" ++ name ++ "' is a registered language name"
  | .aliasIsTaken _ tag owner =>
    "Alias '" ++ tag ++ "' is already registered to '" ++ owner ++ "'"

def language : Conflict → String
  | .nameIsAlias name _ => name
  | .aliasIsName name _ => name
  | .aliasIsTaken name _ _ => name

end Conflict

inductive RegisterError where
  | conflict (c : Conflict)
  | grammar (fault : GrammarFault)
deriving Repr, DecidableEq

def RegisterError.report : RegisterError → Report
  | .conflict c => Report.configuration c.language none none none { message := some c.message }
  | .grammar fault => fault.report

/-- An operation on a registry: its result, the registry afterwards, and what was logged. -/
structure Outcome (ε α : Type) where
  result : Except ε α
  registry : Registry
  logs : List Log.Entry

/-- The first of an adapter's aliases that cannot be registered. -/
def aliasConflict? (r : Registry) (name : String) : List String → Option Conflict
  | [] => none
  | tag :: rest =>
    if r.adapters.contains tag then some (.aliasIsName name tag)
    else
      match r.aliases.get? tag with
      | some owner =>
        if owner ≠ name then some (.aliasIsTaken name tag owner) else r.aliasConflict? name rest
      | none => r.aliasConflict? name rest

def conflict? (r : Registry) (name : String) (tags : List String) : Option Conflict :=
  match r.aliases.get? name with
  | some owner =>
    if owner ≠ name then some (.nameIsAlias name owner) else r.aliasConflict? name tags
  | none => r.aliasConflict? name tags

/-- Adds an adapter under its name and aliases, once its names are free and a parser could be made.
An adapter of the same name is replaced; aliases that only the replaced one had stay. -/
def register (load : Loader) (a : Adapter) (r : Registry) : Outcome RegisterError Unit :=
  let tags := a.ownAliases
  match r.conflict? a.name tags with
  | some c => ⟨.error (.conflict c), r, []⟩
  | none =>
    let made := a.provider.createParser (load a.provider.grammar)
    match made.result with
    | .error fault =>
      let report := fault.report
      ⟨.error (.grammar fault), r, made.logs ++
        [Log.warning "adapter_validation_failed"
          [("language", .str a.name), ("error", .str report.message),
            ("details", .obj report.details)]]⟩
    | .ok _ =>
      let added : Registry :=
        { adapters := r.adapters.insert a.name { a with provider := made.provider },
          aliases := r.aliases.merge (tags.map fun tag => (tag, a.name)) }
      ⟨.ok (), added, made.logs ++
        [Log.debug "adapter_registered"
          [("language", .str a.name), ("aliases", Json.texts tags)]]⟩

/-- Removes an adapter and the aliases that stand for it; says whether there was one. -/
def unregister (name : String) (r : Registry) : Outcome Empty Bool :=
  if r.adapters.contains name then
    ⟨.ok true,
      { adapters := r.adapters.erase name, aliases := r.aliases.filter fun e => e.2 ≠ name },
      [Log.debug "adapter_unregistered" [("language", .str name)]]⟩
  else ⟨.ok false, r, []⟩

/-- The names to register: those asked for, then the reserved ones among the experimental. -/
def wanted (languages : List String) : List String → List String × List Log.Entry
  | [] => (languages, [])
  | tag :: rest =>
    if languages.contains tag then wanted languages rest
    else if (Language.reserved.map Language.name).contains tag then
      wanted (languages ++ [tag]) rest
    else
      let (names, logs) := wanted languages rest
      (names, Log.warning "unknown_experimental_language" [("language", .str tag)] :: logs)

/-- The names that were registered and those that were passed over, so far. -/
structure Tally where
  registered : List String := []
  skipped : List String := []

/-- Registers built-in languages one after the other. Those that fail are passed over. -/
def registerEach (load : Loader) (r : Registry) (tally : Tally) :
    List String → Registry × Tally × List Log.Entry
  | [] => (r, tally, [])
  | name :: rest =>
    match Language.ofName? name with
    | none =>
      let (r, tally, logs) :=
        registerEach load r { tally with skipped := tally.skipped ++ [name] } rest
      (r, tally, Log.warning "no_adapter_for_language" [("language", .str name)] :: logs)
    | some language =>
      let step := r.register load (Adapter.ofLanguage language)
      let tally :=
        match step.result with
        | .ok () => { tally with registered := tally.registered ++ [name] }
        | .error _ => { tally with skipped := tally.skipped ++ [name] }
      let (r, tally, logs) := registerEach load step.registry tally rest
      (r, tally, step.logs ++ logs)

/-- Registers built-in languages and says which ones it has added. -/
def registerDefaults (load : Loader) (languages experimental : List String) (r : Registry) :
    Outcome Empty (List String) :=
  let (names, asked) := wanted languages experimental
  let (r, tally, logs) := r.registerEach load {} names
  ⟨.ok tally.registered, r, asked ++ logs ++
    [Log.info "adapter_registry_initialized"
      [("registered", Json.texts tally.registered), ("skipped", Json.texts tally.skipped)]]⟩

/-- The registry of a process, as it is made on first use. -/
def initial (load : Loader) (experimental : List String) : Registry × List Log.Entry :=
  let made := registerDefaults load (Language.defaults.map Language.name) experimental {}
  (made.registry, made.logs)

/-- The adapter of a name, else of the name that an alias stands for. Case counts. -/
def resolve? (r : Registry) (tag : String) : Option Adapter :=
  match r.adapters.get? tag with
  | some a => some a
  | none => (r.aliases.get? tag).bind r.adapters.get?

/-- Whether a tag has an adapter. -/
def contains (r : Registry) (tag : String) : Bool := (r.resolve? tag).isSome

/-- A tag that is neither a name nor an alias is noted in the log. -/
def resolveLogs (r : Registry) (tag : String) : List Log.Entry :=
  if r.adapters.contains tag || r.aliases.contains tag then []
  else [Log.debug "language_not_resolved" [("language", .str tag)]]

def languages (r : Registry) : List String := sortTexts r.adapters.keys

def sortedAliases (r : Registry) : Dict String := r.aliases.sorted

/-- A tag for which there is no adapter, and the languages for which there is one. -/
structure Unsupported where
  tag : String
  available : List String
deriving Repr, DecidableEq

def Unsupported.report (u : Unsupported) : Report := Report.unsupported u.tag u.available {}

def require (r : Registry) (tag : String) : Except Unsupported Adapter :=
  match r.resolve? tag with
  | some a => .ok a
  | none => .error ⟨tag, r.languages⟩

end Registry
end Canopy
