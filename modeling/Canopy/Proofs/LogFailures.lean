import Canopy.Log.Service
import Canopy.Proofs.Dict

namespace Canopy.Log

/-- A fault that is found before anything is written into the service. -/
def Fault.IsEarly : Fault → Prop
  | .levelIsCall _ => False
  | .levelUnknown _ => False
  | .reservedField _ => False
  | _ => True

theorem Configuration.threshold?_label (l : Level) : threshold? l.label = some l.weight := by
  cases l <;> decide

namespace Service

/-- What can be asked of the service. -/
inductive Operation where
  | configure (level format : String) (whole : Option Configuration)
  | configureOnce (level : Level) (format : Format)
  | getLogger (name : String)
  | performance (operation : String) (duration : Json) (metadata : Dict Json) (name : String)
  | reset

/-- What an operation gives back or writes. -/
inductive Reply where
  | done
  | logger (number : Nat)
  | lines (written : List Json)

/-- Brings the outcomes of all operations to one type. -/
def relay {α : Type} (reply : Service → α → Reply) (o : Except Fault α × Service) :
    Except Fault Reply × Service :=
  (o.1.map (reply o.2), o.2)

def Operation.apply (s : Service) : Operation → Except Fault Reply × Service
  | .configure level format whole => relay (fun _ _ => .done) (s.configure level format whole)
  | .configureOnce level format => relay (fun _ _ => .done) (s.configureOnce level format)
  | .getLogger name => relay (fun _ => .logger) (s.getLogger name)
  | .performance operation duration metadata name =>
    relay (fun s entries => .lines (entries.map s.render))
      (s.performance operation duration metadata name)
  | .reset => (.ok .done, s.reset)

/-- The service after some operations, those that fail included. -/
def run (ops : List Operation) : Service := ops.foldl (fun s op => (op.apply s).2) {}

/-- What a list of operations gives back, one after the other. -/
def outcomes (s : Service) : List Operation → List (Except Fault Reply)
  | [] => []
  | op :: ops => (op.apply s).1 :: outcomes (op.apply s).2 ops

/-- The service with the level and the whole of a configuration, whether it can be used or not. -/
def taking (c : Configuration) (s : Service) : Service :=
  { s with configuration := some c, level := c.level }

def withLogger (name : String) (s : Service) : Service :=
  { s with loggers := s.loggers.insert name s.made, made := s.made + 1 }

/-- What a failed operation leaves of a service. -/
inductive Leaves (s : Service) : Operation → Fault → Service → Prop where
  | unchanged {op : Operation} {fault : Fault} (early : fault.IsEarly) : Leaves s op fault s
  /-- A configuration given as a whole is taken over before its level turns out to be unknown. -/
  | configuration {level format : String} {c : Configuration} {fault : Fault}
    (unconfigured : s.configured = false) (unknown : Configuration.threshold? c.level = none)
    (late : ¬ fault.IsEarly) : Leaves s (.configure level format (some c)) fault (s.taking c)
  /-- A logger is there before the entry for it is refused. -/
  | logger {operation name field : String} {duration : Json} {metadata : Dict Json}
    (found : ∃ number, (s.getLogger name).1 = .ok number) :
    Leaves s (.performance operation duration metadata name) (.reservedField field)
      (s.getLogger name).2

section Steps

variable (s : Service)

theorem relay_eq_error {α : Type} {reply : Service → α → Reply} {o : Except Fault α × Service}
    {fault : Fault} (h : (relay reply o).1 = .error fault) : o.1 = .error fault := by
  obtain ⟨result, s⟩ := o
  cases result with
  | error found => simpa [relay, Except.map] using h
  | ok a => simp [relay, Except.map] at h

theorem adopt_of_known {c : Configuration} {n : Nat}
    (h : Configuration.threshold? c.level = some n) :
    s.adopt c = (.ok (), { s.taking c with configured := true }) := by
  simp only [adopt, h]
  rfl

theorem adopt_of_unknown {c : Configuration} (h : Configuration.threshold? c.level = none) :
    ∃ fault : Fault, ¬ fault.IsEarly ∧ s.adopt c = (.error fault, s.taking c) := by
  simp only [adopt, h]
  split_ifs
  · exact ⟨.levelIsCall c.level, id, rfl⟩
  · exact ⟨.levelUnknown c.level, id, rfl⟩

/-- The ways in which a configuration ends. Only one given as a whole can fail late. -/
theorem configure_cases (level format : String) (whole : Option Configuration) :
    (∃ fault : Fault, fault.IsEarly ∧ s.configure level format whole = (.error fault, s)) ∨
    s.configured = false ∧ ∃ c : Configuration,
      (∃ n, Configuration.threshold? c.level = some n) ∧
        s.configure level format whole = (.ok (), { s.taking c with configured := true }) ∨
      Configuration.threshold? c.level = none ∧ whole = some c ∧ ∃ fault : Fault,
        ¬ fault.IsEarly ∧ s.configure level format whole = (.error fault, s.taking c) := by
  unfold configure
  cases hconfigured : s.configured with
  | true => exact .inl ⟨.alreadyConfigured, trivial, rfl⟩
  | false =>
    cases whole with
    | some c =>
      right
      refine ⟨rfl, c, ?_⟩
      cases hlevel : Configuration.threshold? c.level with
      | some n => exact .inl ⟨⟨n, rfl⟩, s.adopt_of_known hlevel⟩
      | none => exact .inr ⟨rfl, rfl, s.adopt_of_unknown hlevel⟩
    | none =>
      cases Level.ofLabel? level with
      | none => exact .inl ⟨.badLevel level, trivial, rfl⟩
      | some l =>
        cases Format.ofName? (Text.lower format) with
        | none => exact .inl ⟨.badFormat format, trivial, rfl⟩
        | some f =>
          -- arguments that pass their checks name a level, so nothing is left to fail
          have hlevel := Configuration.threshold?_label l
          right
          exact ⟨rfl, ⟨l.label, f.name⟩, .inl ⟨⟨_, hlevel⟩, s.adopt_of_known hlevel⟩⟩

theorem configure_eq_error {level format : String} {whole : Option Configuration} {fault : Fault}
    (h : (s.configure level format whole).1 = .error fault) :
    fault.IsEarly ∧ (s.configure level format whole).2 = s ∨
    s.configured = false ∧ ¬ fault.IsEarly ∧ ∃ c, whole = some c ∧
      Configuration.threshold? c.level = none ∧
      (s.configure level format whole).2 = s.taking c := by
  rcases s.configure_cases level format whole with
    ⟨found, hearly, heq⟩ | ⟨hconfigured, c, ⟨-, heq⟩ | ⟨hunknown, hwhole, found, hlate, heq⟩⟩
  · rw [heq] at h ⊢
    cases h
    exact .inl ⟨hearly, rfl⟩
  · rw [heq] at h
    cases h
  · rw [heq] at h ⊢
    cases h
    exact .inr ⟨hconfigured, hlate, c, hwhole, hunknown, rfl⟩

theorem getLogger_cases (name : String) :
    (∃ fault : Fault, fault.IsEarly ∧ s.getLogger name = (.error fault, s)) ∨
    s.configured = true ∧
      ((∃ number, s.loggers.get? name = some number ∧ s.getLogger name = (.ok number, s)) ∨
        s.loggers.get? name = none ∧ s.getLogger name = (.ok s.made, s.withLogger name)) := by
  cases hconfigured : s.configured with
  | false => exact .inl ⟨.notConfigured, trivial, by simp [getLogger, hconfigured]⟩
  | true =>
    by_cases hempty : name = ""
    · exact .inl ⟨.unnamedLogger, trivial, by simp [getLogger, hconfigured, hempty]⟩
    by_cases hlong : nameBound < name.length
    · exact .inl ⟨.longLoggerName, trivial, by simp [getLogger, hconfigured, hempty, hlong]⟩
    right
    refine ⟨rfl, ?_⟩
    cases hfound : s.loggers.get? name with
    | some number =>
      exact .inl ⟨number, rfl, by simp [getLogger, hconfigured, hempty, hlong, hfound]⟩
    | none =>
      exact .inr ⟨rfl, by simp [getLogger, hconfigured, hempty, hlong, hfound, withLogger]⟩

theorem getLogger_eq_error {name : String} {fault : Fault}
    (h : (s.getLogger name).1 = .error fault) :
    fault.IsEarly ∧ (s.getLogger name).2 = s := by
  rcases s.getLogger_cases name with ⟨found, hearly, heq⟩ | ⟨-, ⟨number, -, heq⟩ | ⟨-, heq⟩⟩
  · rw [heq] at h ⊢
    cases h
    exact ⟨hearly, rfl⟩
  · rw [heq] at h
    cases h
  · rw [heq] at h
    cases h

/-- Whatever becomes of an entry, the service is what the look-up of its logger leaves. -/
theorem emit_snd (name : String) (e : Entry) : (s.emit name e).2 = (s.getLogger name).2 := by
  rcases hfound : s.getLogger name with ⟨found, after⟩
  cases found with
  | error fault => simp only [emit, hfound]
  | ok number =>
    simp only [emit, hfound]
    split <;> rfl

theorem emit_eq_error {name : String} {e : Entry} {fault : Fault}
    (h : (s.emit name e).1 = .error fault) :
    (s.getLogger name).1 = .error fault ∨
      (∃ number, (s.getLogger name).1 = .ok number) ∧ ∃ field, fault = .reservedField field := by
  rcases hfound : s.getLogger name with ⟨found, after⟩
  simp only [emit, hfound] at h
  cases found with
  | error refused =>
    cases h
    exact .inl rfl
  | ok number =>
    right
    refine ⟨⟨number, rfl⟩, ?_⟩
    cases hfield : (argumentNames (after.passes e)).find? fun field => e.fields.contains field with
    | some field =>
      simp only [hfield] at h
      exact ⟨field, (Except.error.inj h).symm⟩
    | none => simp [hfield] at h

/-- A note on an operation fails before its logger is looked up, or as the entry for it does. -/
theorem performance_cases (operation : String) (duration : Json) (metadata : Dict Json)
    (name : String) :
    (∃ fault : Fault, fault.IsEarly ∧
      s.performance operation duration metadata name = (.error fault, s)) ∨
    ∃ e, s.performance operation duration metadata name = s.emit name e := by
  unfold performance
  split_ifs
  · exact .inl ⟨.unnamedOperation, trivial, rfl⟩
  · cases isNegative? duration with
    | none => exact .inl ⟨.durationKind, trivial, rfl⟩
    | some negative =>
      cases negative with
      | true => exact .inl ⟨.negativeDuration, trivial, rfl⟩
      | false => exact .inr ⟨_, rfl⟩

end Steps

/-- All that one operation can do to a service. -/
inductive Moves (s : Service) : Service → Prop where
  | stays : Moves s s
  | configures {c : Configuration} {n : Nat} (unconfigured : s.configured = false)
    (known : Configuration.threshold? c.level = some n) :
    Moves s { s.taking c with configured := true }
  | takes {c : Configuration} (unconfigured : s.configured = false)
    (unknown : Configuration.threshold? c.level = none) : Moves s (s.taking c)
  | makesLogger {name : String} (configured : s.configured = true)
    (new : s.loggers.get? name = none) : Moves s (s.withLogger name)
  | resets : Moves s s.reset

section Steps

variable (s : Service)

theorem moves_configure (level format : String) (whole : Option Configuration) :
    Moves s (s.configure level format whole).2 := by
  rcases s.configure_cases level format whole with
    ⟨fault, -, heq⟩ | ⟨hconfigured, c, ⟨⟨n, hknown⟩, heq⟩ | ⟨hunknown, -, fault, -, heq⟩⟩
  · rw [heq]
    exact .stays
  · rw [heq]
    exact .configures hconfigured hknown
  · rw [heq]
    exact .takes hconfigured hunknown

theorem moves_getLogger (name : String) : Moves s (s.getLogger name).2 := by
  rcases s.getLogger_cases name with
    ⟨fault, -, heq⟩ | ⟨hconfigured, ⟨number, -, heq⟩ | ⟨hnew, heq⟩⟩
  · rw [heq]
    exact .stays
  · rw [heq]
    exact .stays
  · rw [heq]
    exact .makesLogger hconfigured hnew

theorem moves_apply (op : Operation) : Moves s (op.apply s).2 := by
  cases op with
  | configure level format whole => exact s.moves_configure level format whole
  | configureOnce level format =>
    change Moves s (s.configureOnce level format).2
    unfold configureOnce
    split_ifs
    · exact .stays
    · exact s.moves_configure level.label format.name none
  | getLogger name => exact s.moves_getLogger name
  | performance operation duration metadata name =>
    change Moves s (s.performance operation duration metadata name).2
    rcases s.performance_cases operation duration metadata name with ⟨fault, -, heq⟩ | ⟨e, heq⟩
    · rw [heq]
      exact .stays
    · rw [heq, emit_snd]
      exact s.moves_getLogger name
  | reset => exact .resets

/-- Where an operation fails, its fault tells what is left. -/
theorem leaves_apply {op : Operation} {fault : Fault} (h : (op.apply s).1 = .error fault) :
    Leaves s op fault (op.apply s).2 := by
  cases op with
  | configure level format whole =>
    change Leaves s _ fault (s.configure level format whole).2
    rcases s.configure_eq_error (relay_eq_error h) with
      ⟨hearly, heq⟩ | ⟨hconfigured, hlate, c, rfl, hunknown, heq⟩
    · rw [heq]
      exact .unchanged hearly
    · rw [heq]
      exact .configuration hconfigured hunknown hlate
  | configureOnce level format =>
    have hfails := relay_eq_error h
    change Leaves s _ fault (s.configureOnce level format).2
    unfold configureOnce at hfails ⊢
    split_ifs at hfails ⊢
    -- the settings are passed on as arguments, never as a whole
    rcases s.configure_eq_error hfails with ⟨hearly, heq⟩ | ⟨-, -, c, hnone, -⟩
    · rw [heq]
      exact .unchanged hearly
    · cases hnone
  | getLogger name =>
    obtain ⟨hearly, heq⟩ := s.getLogger_eq_error (relay_eq_error h)
    change Leaves s _ fault (s.getLogger name).2
    rw [heq]
    exact .unchanged hearly
  | performance operation duration metadata name =>
    have hfails := relay_eq_error h
    change Leaves s _ fault (s.performance operation duration metadata name).2
    rcases s.performance_cases operation duration metadata name with
      ⟨found, hearly, heq⟩ | ⟨e, heq⟩
    · rw [heq] at hfails ⊢
      cases hfails
      exact .unchanged hearly
    · rw [heq] at hfails ⊢
      rw [emit_snd]
      rcases s.emit_eq_error hfails with hlookup | ⟨hfound, field, rfl⟩
      · obtain ⟨hearly, hsame⟩ := s.getLogger_eq_error hlookup
        rw [hsame]
        exact .unchanged hearly
      · exact .logger hfound
  | reset => cases h

end Steps

/-- The level is that of the configuration, or the one that a service starts with. -/
def Levelled (s : Service) : Prop :=
  s.level = (s.configuration.map Configuration.level).getD "INFO"

theorem Moves.levelled {s t : Service} (h : Moves s t) (hs : s.Levelled) : t.Levelled := by
  cases h with
  | stays => exact hs
  | configures => rfl
  | takes => rfl
  | makesLogger => exact hs
  | resets => rfl

theorem levelled_run (ops : List Operation) : (run ops).Levelled := by
  have hfrom : ∀ (ops : List Operation) (s : Service), s.Levelled →
      (ops.foldl (fun s op => (op.apply s).2) s).Levelled := by
    intro ops
    induction ops with
    | nil =>
      intro s hs
      exact hs
    | cons op ops ih =>
      intro s hs
      exact ih _ ((s.moves_apply op).levelled hs)
  exact hfrom ops {} rfl

/-- Services that no operation tells apart: as long as they are not configured, their levels and
configurations may differ. -/
structure Alike (s t : Service) : Prop where
  configured_eq : s.configured = t.configured
  loggers_eq : s.loggers = t.loggers
  made_eq : s.made = t.made
  eq_of_configured : s.configured = true → s = t

namespace Alike

variable {s t : Service}

theorem refl (s : Service) : Alike s s := ⟨rfl, rfl, rfl, fun _ => rfl⟩

theorem adopt_eq (h : Alike s t) (c : Configuration) : s.adopt c = t.adopt c := by
  obtain ⟨configured, level, configuration, loggers, made⟩ := s
  obtain ⟨configured', level', configuration', loggers', made'⟩ := t
  obtain ⟨rfl, rfl, rfl, -⟩ := h
  rfl

theorem configure (h : Alike s t) (hs : s.configured = false) (level format : String)
    (whole : Option Configuration) :
    (s.configure level format whole).1 = (t.configure level format whole).1 ∧
      Alike (s.configure level format whole).2 (t.configure level format whole).2 := by
  have ht : t.configured = false := h.configured_eq.symm.trans hs
  simp only [Service.configure, hs, ht, Bool.false_eq_true, if_false, h.adopt_eq]
  cases whole with
  | some c => exact ⟨rfl, refl _⟩
  | none =>
    cases Level.ofLabel? level with
    | none => exact ⟨rfl, h⟩
    | some l =>
      cases Format.ofName? (Text.lower format) with
      | none => exact ⟨rfl, h⟩
      | some f => exact ⟨rfl, refl _⟩

theorem getLogger (h : Alike s t) (hs : s.configured = false) (name : String) :
    s.getLogger name = (.error .notConfigured, s) ∧
      t.getLogger name = (.error .notConfigured, t) := by
  have ht : t.configured = false := h.configured_eq.symm.trans hs
  simp [Service.getLogger, hs, ht]

theorem performance (h : Alike s t) (hs : s.configured = false) (operation : String)
    (duration : Json) (metadata : Dict Json) (name : String) :
    ∃ fault, s.performance operation duration metadata name = (.error fault, s) ∧
      t.performance operation duration metadata name = (.error fault, t) := by
  obtain ⟨hlogger, hlogger'⟩ := h.getLogger hs name
  unfold Service.performance
  split_ifs
  · exact ⟨_, rfl, rfl⟩
  · cases isNegative? duration with
    | none => exact ⟨_, rfl, rfl⟩
    | some negative =>
      cases negative with
      | true => exact ⟨_, rfl, rfl⟩
      | false => exact ⟨.notConfigured, by simp [emit, hlogger], by simp [emit, hlogger']⟩

/-- No operation tells the services apart, and they stay as alike as they were. -/
theorem apply (h : Alike s t) (op : Operation) :
    (op.apply s).1 = (op.apply t).1 ∧ Alike (op.apply s).2 (op.apply t).2 := by
  cases hs : s.configured with
  | true =>
    -- once configured, alike services are the same one
    obtain rfl := h.eq_of_configured hs
    exact ⟨rfl, refl _⟩
  | false =>
    have ht : t.configured = false := h.configured_eq.symm.trans hs
    cases op with
    | configure level format whole =>
      obtain ⟨hresult, halike⟩ := h.configure hs level format whole
      exact ⟨congrArg (Except.map _) hresult, halike⟩
    | configureOnce level format =>
      obtain ⟨hresult, halike⟩ := h.configure hs level.label format.name none
      simp only [Operation.apply, configureOnce, hs, ht, Bool.false_eq_true, if_false]
      exact ⟨congrArg (Except.map _) hresult, halike⟩
    | getLogger name =>
      obtain ⟨hlogger, hlogger'⟩ := h.getLogger hs name
      simp only [Operation.apply, hlogger, hlogger']
      exact ⟨rfl, h⟩
    | performance operation duration metadata name =>
      obtain ⟨fault, hfails, hfails'⟩ := h.performance hs operation duration metadata name
      simp only [Operation.apply, hfails, hfails']
      exact ⟨rfl, h⟩
    | reset =>
      refine ⟨rfl, ?_⟩
      change Alike { made := s.made } { made := t.made }
      rw [h.made_eq]
      exact refl _

theorem outcomes_eq (h : Alike s t) (later : List Operation) :
    outcomes s later = outcomes t later := by
  induction later generalizing s t with
  | nil => rfl
  | cons op later ih =>
    obtain ⟨hresult, halike⟩ := h.apply op
    rw [outcomes, outcomes, hresult, ih halike]

end Alike

/-- What can be said of a service after an operation that failed. -/
structure Failed (s : Service) (op : Operation) (fault : Fault) (after : Service) : Prop where
  leaves : Leaves s op fault after
  /-- No failure configures the service, and none takes its configuration away. -/
  configured_eq : after.configured = s.configured
  eq_of_early : fault.IsEarly → after = s
  eq_of_arguments : ∀ level format, op = .configure level format none → after = s
  /-- There are two ways to leave something behind. -/
  ne_iff : after ≠ s ↔ ¬ fault.IsEarly ∧
    ((∃ level format c, op = .configure level format (some c) ∧ s.configuration ≠ some c) ∨
      ∃ operation duration metadata name, op = .performance operation duration metadata name ∧
        s.loggers.get? name = none)
  /-- What is left of a refused configuration is not noticed by any later operation. -/
  unnoticed : ∀ level format c, op = .configure level format (some c) →
    ∀ later, outcomes after later = outcomes s later

section Failures

variable {s after : Service} {op : Operation} {fault : Fault}

theorem configured_getLogger (s : Service) (name : String) :
    (s.getLogger name).2.configured = s.configured := by
  rcases s.getLogger_cases name with ⟨fault, -, heq⟩ | ⟨-, ⟨number, -, heq⟩ | ⟨-, heq⟩⟩
  · rw [heq]
  · rw [heq]
  · rw [heq]
    rfl

/-- A look-up changes the service exactly if it makes a logger. -/
theorem getLogger_ne_iff {name : String} (h : ∃ number, (s.getLogger name).1 = .ok number) :
    (s.getLogger name).2 ≠ s ↔ s.loggers.get? name = none := by
  obtain ⟨n, hn⟩ := h
  rcases s.getLogger_cases name with
    ⟨fault, -, heq⟩ | ⟨-, ⟨number, hfound, heq⟩ | ⟨hnew, heq⟩⟩
  · rw [heq] at hn
    cases hn
  · rw [heq, hfound]
    simp
  · rw [heq]
    refine iff_of_true ?_ hnew
    intro hsame
    have hmade : s.made + 1 = s.made := congrArg Service.made hsame
    omega

/-- A configuration that is taken over changes a service exactly if it had another one. -/
theorem Levelled.taking_ne_iff (hs : s.Levelled) (c : Configuration) :
    s.taking c ≠ s ↔ s.configuration ≠ some c := by
  rw [not_iff_not]
  constructor
  · intro hsame
    exact (congrArg Service.configuration hsame).symm
  · intro hsame
    -- the level is written as well, but it is already that of the configuration
    have hlevel : s.level = c.level := by
      rw [hs, hsame]
      rfl
    obtain ⟨configured, level, configuration, loggers, made⟩ := s
    obtain rfl : level = c.level := hlevel
    obtain rfl : configuration = some c := hsame
    rfl

theorem Leaves.failed (h : Leaves s op fault after) (hs : s.Levelled) :
    Failed s op fault after := by
  cases h with
  | unchanged early =>
    exact
      { leaves := .unchanged early
        configured_eq := rfl
        eq_of_early := fun _ => rfl
        eq_of_arguments := fun _ _ _ => rfl
        ne_iff := iff_of_false (fun hne => hne rfl) (fun hlate => hlate.1 early)
        unnoticed := fun _ _ _ _ _ => rfl }
  | @configuration level format c fault unconfigured unknown late =>
    refine ⟨.configuration unconfigured unknown late, rfl, fun early => absurd early late, nofun,
      ?_, ?_⟩
    · rw [hs.taking_ne_iff]
      constructor
      · intro hne
        exact ⟨late, .inl ⟨level, format, c, rfl, hne⟩⟩
      · rintro ⟨-, ⟨_, _, _, hop, hne⟩ | ⟨_, _, _, _, hop, -⟩⟩
        · cases hop
          exact hne
        · cases hop
    · intro _ _ _ _ later
      have halike : Alike (s.taking c) s :=
        ⟨rfl, rfl, rfl, fun hconfigured => by cases unconfigured.symm.trans hconfigured⟩
      exact halike.outcomes_eq later
  | @logger operation name field duration metadata found =>
    refine ⟨.logger found, s.configured_getLogger name, fun early => early.elim, nofun, ?_, nofun⟩
    rw [getLogger_ne_iff found]
    constructor
    · intro hnew
      exact ⟨id, .inr ⟨operation, duration, metadata, name, rfl, hnew⟩⟩
    · rintro ⟨-, ⟨_, _, _, hop, -⟩ | ⟨_, _, _, _, hop, hnew⟩⟩
      · cases hop
      · cases hop
        exact hnew

end Failures

/-- After every run, an operation that fails leaves the service as it was, but for two cases: a
configuration given as a whole stays when its level is refused, and a logger stays when the entry
for it is refused. -/
theorem run_failed_operation_exact (ops : List Operation) (op : Operation) (fault : Fault)
    (h : (op.apply (run ops)).1 = .error fault) :
    Failed (run ops) op fault (op.apply (run ops)).2 :=
  ((run ops).leaves_apply h).failed (levelled_run ops)

/-- A configured service that writes to the console. -/
def toConsole : List Operation := [.configure "INFO" "json" (some ⟨"DEBUG", "console"⟩)]

/-- A note whose metadata have a field with the name of an argument. -/
def misnamed : Operation := .performance "build" (.int 3) [("event", .str "done")] defaultLogger

theorem run_failed_operation_exact_misnamed :
    (misnamed.apply (run toConsole)).1 = .error (.reservedField "event") ∧
      (misnamed.apply (run toConsole)).2 ≠ run toConsole ∧
      (misnamed.apply (run toConsole)).2.configured = true := by
  have hfails : (misnamed.apply (run toConsole)).1 = .error (.reservedField "event") := by rfl
  have hconfigured : (run toConsole).configured = true := by rfl
  have hnew : (run toConsole).loggers.get? defaultLogger = none := by rfl
  have hafter := run_failed_operation_exact toConsole misnamed _ hfails
  refine ⟨hfails, hafter.ne_iff.mpr ⟨id, .inr ⟨_, _, _, _, rfl, hnew⟩⟩, ?_⟩
  rw [hafter.configured_eq, hconfigured]

/-- A new service that refuses a configuration for its level has that level from then on. -/
theorem refused_configuration_stays :
    (Operation.apply (run []) (.configure "INFO" "json" (some ⟨"BOGUS", "json"⟩))).1 =
        .error (.levelUnknown "BOGUS") ∧
      (run []).level = "INFO" ∧ (run []).configuration = none ∧
      (Operation.apply (run []) (.configure "INFO" "json" (some ⟨"BOGUS", "json"⟩))).2.level =
        "BOGUS" ∧
      (Operation.apply (run []) (.configure "INFO" "json"
        (some ⟨"BOGUS", "json"⟩))).2.configuration = some ⟨"BOGUS", "json"⟩ := by
  exact ⟨rfl, rfl, rfl, rfl, rfl⟩

end Service
end Canopy.Log
