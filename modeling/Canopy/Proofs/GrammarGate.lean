import Canopy.Proofs.Readiness

namespace Canopy

/-- Why nothing is parsed with what the loader answers. -/
inductive LoadAnswer.Refused (w : Window) : LoadAnswer → Prop where
  | failed (text : String) : Refused w (.failed text)
  | missing : Refused w .missing
  | unversioned {g : Grammar} (unversioned : ∀ n, ¬ g.HasVersion n) : Refused w (.loaded g)
  | outside {g : Grammar} {n : Int} (version : g.HasVersion n)
    (outside : n < w.least ∨ w.greatest < n) : Refused w (.loaded g)
  | rejected {g : Grammar} {text : String} (rejection : g.rejection = some text) :
    Refused w (.loaded g)

/-- The reasons to refuse an answer are all there is against it. -/
theorem LoadAnswer.not_refused_iff {w : Window} {answer : LoadAnswer} :
    ¬ answer.Refused w ↔ ∃ g, answer = .loaded g ∧ g.Usable w := by
  constructor
  · intro h
    cases answer with
    | failed text => exact absurd (.failed text) h
    | missing => exact absurd .missing h
    | loaded g =>
      refine ⟨g, rfl, Grammar.usable_iff.mpr ⟨?_, ?_⟩⟩
      · by_contra hnone
        push Not at hnone
        apply h
        by_cases hversion : ∃ n, g.HasVersion n
        · obtain ⟨n, hn⟩ := hversion
          refine .outside hn ?_
          have := hnone n hn
          omega
        · exact .unversioned (not_exists.mp hversion)
      · by_contra hrejected
        obtain ⟨text, htext⟩ := Option.ne_none_iff_exists'.mp hrejected
        exact h (.rejected htext)
  · rintro ⟨g, rfl, husable⟩ h
    obtain ⟨⟨n, hn, hleast, hgreatest⟩, haccepted⟩ := Grammar.usable_iff.mp husable
    cases h with
    | unversioned hnone => exact hnone n hn
    | outside hm houtside =>
      rw [hm.unique hn] at houtside
      omega
    | rejected htext => simp [haccepted] at htext

namespace Provider

/-- A failure that is reported as one of this kind. -/
def EndsIn {α : Type} (kind : Report.Kind) (result : Except Fault α) : Prop :=
  ∃ fault, result = .error fault ∧ fault.report.kind = kind

theorem endsIn_configuration {α : Type} {result : Except Fault α} :
    EndsIn .configuration result ↔ ∃ fault, result = .error (.grammar fault) := by
  constructor
  · rintro ⟨fault, hresult, hkind⟩
    cases fault with
    | grammar fault => exact ⟨fault, hresult⟩
    | parse fault => cases fault <;> cases hkind
  · rintro ⟨fault, hresult⟩
    exact ⟨_, hresult, rfl⟩

theorem endsIn_parse {α : Type} {result : Except Fault α} :
    EndsIn .parse result ↔ ∃ fault, result = .error (.parse fault) := by
  constructor
  · rintro ⟨fault, hresult, hkind⟩
    cases fault with
    | grammar fault => cases hkind
    | parse fault => exact ⟨fault, hresult⟩
  · rintro ⟨fault, hresult⟩
    exact ⟨_, hresult, by cases fault <;> rfl⟩

/-- What comes of running a parser over a grammar that it has taken. -/
def runParser (p : Provider) (g : Grammar) (found : Option Parse) : Except Fault Parse :=
  match g.parseFailure, found with
  | some text, _ => .error (.parse (.failed p.language text))
  | none, none => .error (.parse (.noTree p.language))
  | none, some parse => .ok parse

theorem runParser_eq_ok {p : Provider} {g : Grammar} {found : Option Parse} {parse : Parse} :
    p.runParser g found = .ok parse ↔ g.parseFailure = none ∧ found = some parse := by
  unfold runParser
  cases g.parseFailure with
  | some text => simp
  | none => cases found <;> simp

theorem runParser_eq_error {p : Provider} {g : Grammar} {found : Option Parse} :
    (∃ fault, p.runParser g found = .error (.parse fault)) ↔
      (∃ text, g.parseFailure = some text) ∨ found = none := by
  unfold runParser
  cases g.parseFailure with
  | some text => simp
  | none => cases found <;> simp

theorem runParser_ne_grammar (p : Provider) (g : Grammar) (found : Option Parse)
    (fault : GrammarFault) : p.runParser g found ≠ .error (.grammar fault) := by
  unfold runParser
  cases g.parseFailure with
  | some text => simp
  | none => cases found <;> simp

theorem result_parse (answer : LoadAnswer) (found : Option Parse) (length : Nat) (p : Provider) :
    (p.parse answer found length).result =
      match (p.createParser answer).result with
      | .error fault => .error (.grammar fault)
      | .ok g => p.runParser g found := by
  cases hmade : (p.createParser answer).result with
  | error fault => simp [parse, hmade]
  | ok g =>
    cases hfailure : g.parseFailure with
    | some text => simp [parse, runParser, hmade, hfailure]
    | none => cases found <;> simp [parse, runParser, hmade, hfailure]

theorem result_check (o : Outcome GrammarFault Grammar)
    (test : Provider → Grammar → Except GrammarFault Grammar) :
    (o.check test).result = o.result.bind (test o.provider) := by
  unfold Outcome.check
  cases hresult : o.result with
  | error fault => simp [hresult, Except.bind]
  | ok g => cases htest : test o.provider g <;> simp [htest, Except.bind]

/-- Loading changes nothing but the grammar that is held. -/
theorem provider_load (answer : LoadAnswer) (p : Provider) :
    ∃ held, (p.load answer).provider = { p with held := held } := by
  unfold load
  split
  · exact ⟨p.held, rfl⟩
  · split
    · exact ⟨p.held, rfl⟩
    · exact ⟨p.held, rfl⟩
    · exact ⟨_, rfl⟩

theorem result_validate (answer : LoadAnswer) (p : Provider) :
    (p.validate answer).result = (p.load answer).result.bind p.checkVersion := by
  obtain ⟨held, hprovider⟩ := provider_load answer p
  rw [validate, result_check, hprovider]
  rfl

theorem result_createParser (answer : LoadAnswer) (p : Provider) :
    (p.createParser answer).result =
      ((p.load answer).result.bind p.checkVersion).bind p.acceptGrammar := by
  obtain ⟨held, hprovider⟩ := provider_load answer p
  rw [createParser, result_check, result_validate, validate, provider_check, hprovider]
  rfl

theorem checkVersion_eq_error {p : Provider} {g : Grammar} {n : Int} (hn : g.HasVersion n)
    (houtside : n < p.window.least ∨ p.window.greatest < n) :
    ∃ fault, p.checkVersion g = .error fault := by
  cases hcheck : p.checkVersion g with
  | error fault => exact ⟨fault, rfl⟩
  | ok h =>
    obtain ⟨-, v, hv, hleast, hgreatest⟩ := checkVersion_eq_ok.mp hcheck
    have hversion : v.toInt = n := (Grammar.hasVersion_iff.mpr ⟨v, hv, rfl⟩).unique hn
    omega

/-- The check reads nothing of a grammar but its attributes. -/
theorem checkVersion_congr {p : Provider} {g h : Grammar} {fault : GrammarFault}
    (hfault : p.checkVersion g = .error fault) (hsame : h.attributes = g.attributes) :
    p.checkVersion h = .error fault := by
  have hversion : h.version? = g.version? := by rw [Grammar.version?, Grammar.version?, hsame]
  unfold checkVersion at hfault ⊢
  rw [hversion]
  cases hv : g.version? with
  | none => simpa [hv] using hfault
  | some v =>
    simp only [hv] at hfault ⊢
    split_ifs at hfault ⊢
    · exact hfault
    · exact hfault

theorem held_of_create? {language : String} {grammar : Option String} {window : Window}
    {p : Provider} (h : create? language grammar window = some p) :
    p.held = none ∧ p.window = window := by
  unfold create? at h
  split_ifs at h
  rw [← Option.some.inj h]
  exact ⟨rfl, rfl⟩

theorem load_eq_ok_of_not_held {p : Provider} (hheld : p.held = none) {answer : LoadAnswer}
    {g : Grammar} : (p.load answer).result = .ok g ↔ answer = .loaded g := by
  unfold load
  rw [hheld]
  cases answer <;> simp

theorem createParser_eq_ok_of_not_held {p : Provider} (hheld : p.held = none)
    {answer : LoadAnswer} {g : Grammar} :
    (p.createParser answer).result = .ok g ↔ answer = .loaded g ∧ g.Usable p.window := by
  rw [createParser_eq_ok, load_eq_ok_of_not_held hheld]

/-- Without a grammar of its own, a provider makes a parser of every answer that is not refused. -/
theorem createParser_eq_error_of_not_held {p : Provider} (hheld : p.held = none)
    {answer : LoadAnswer} :
    (∃ fault, (p.createParser answer).result = .error fault) ↔ answer.Refused p.window := by
  rw [← not_iff_not, LoadAnswer.not_refused_iff]
  simp only [← createParser_eq_ok_of_not_held hheld]
  cases (p.createParser answer).result with
  | error fault => simp
  | ok g => simp

/-- What is done to a parser: it is given a grammar, and it is run over one. -/
inductive ParserUse where
  | given (g : Grammar)
  | run (g : Grammar)

def ParserUse.grammar : ParserUse → Grammar
  | .given g => g
  | .run g => g

/-- Gives a parser a grammar. What comes back is the text of its rejection, if there is one. -/
def giveParser (g : Grammar) : StateM (List ParserUse) (Option String) := do
  modify (· ++ [.given g])
  return g.rejection

/-- A parse that keeps a record of what is done to the parser. -/
def recordedParse (answer : LoadAnswer) (found : Option Parse) (p : Provider) :
    StateM (List ParserUse) (Except Fault Parse) := do
  match (p.validate answer).result with
  | .error fault => return .error (.grammar fault)
  | .ok g =>
    match ← giveParser g with
    | some text => return .error (.grammar (.rejected p.language g.version? p.window text))
    | none =>
      modify (· ++ [.run g])
      return p.runParser g found

theorem validate_eq_ok_of_not_held {p : Provider} (hheld : p.held = none) {answer : LoadAnswer}
    {g : Grammar} :
    (p.validate answer).result = .ok g ↔ answer = .loaded g ∧
      ∃ n, g.HasVersion n ∧ p.window.least ≤ n ∧ n ≤ p.window.greatest := by
  simp only [validate, result_check_eq_ok, checkVersion_eq_ok, window_load,
    load_eq_ok_of_not_held hheld, Grammar.hasVersion_iff]
  constructor
  · rintro ⟨h, hload, rfl, v, hv, hleast, hgreatest⟩
    exact ⟨hload, v.toInt, ⟨v, hv, rfl⟩, hleast, hgreatest⟩
  · rintro ⟨hload, n, ⟨v, hv, rfl⟩, hleast, hgreatest⟩
    exact ⟨g, hload, rfl, v, hv, hleast, hgreatest⟩

/-- The record changes nothing about the parse. -/
theorem recordedParse_fst (answer : LoadAnswer) (found : Option Parse) (length : Nat)
    (p : Provider) (uses : List ParserUse) :
    ((p.recordedParse answer found).run uses).1 = (p.parse answer found length).result := by
  rw [result_parse, result_createParser, ← result_validate]
  unfold recordedParse giveParser acceptGrammar
  cases (p.validate answer).result with
  | error fault => rfl
  | ok g =>
    simp only [Except.bind]
    cases g.rejection with
    | some text => rfl
    | none => rfl

/-- All that is done to the parser, in order. -/
theorem recordedParse_snd (answer : LoadAnswer) (found : Option Parse) (p : Provider) :
    ((p.recordedParse answer found).run []).2 =
      match (p.validate answer).result with
      | .error _ => []
      | .ok g =>
        match g.rejection with
        | some _ => [.given g]
        | none => [.given g, .run g] := by
  unfold recordedParse giveParser
  cases (p.validate answer).result with
  | error fault => rfl
  | ok g =>
    dsimp only
    cases g.rejection with
    | some text => rfl
    | none => rfl

/-- What comes of a parse with a provider that holds no grammar yet, given what its loader
answers. -/
structure GatesParse (window : Window) (answer : LoadAnswer) (found : Option Parse) (length : Nat)
    (p : Provider) : Prop where
  configuration_iff : EndsIn .configuration (p.parse answer found length).result ↔
    answer.Refused window
  parse_iff : EndsIn .parse (p.parse answer found length).result ↔
    ¬ answer.Refused window ∧
      ((∃ g text, answer = .loaded g ∧ g.parseFailure = some text) ∨ found = none)
  ok_iff : ∀ parse, (p.parse answer found length).result = .ok parse ↔
    ¬ answer.Refused window ∧ (∀ g, answer = .loaded g → g.parseFailure = none) ∧
      found = some parse
  /-- The same parse can be recorded. -/
  recorded_eq : ((p.recordedParse answer found).run []).1 = (p.parse answer found length).result
  given_iff : ∀ g, .given g ∈ ((p.recordedParse answer found).run []).2 ↔
    answer = .loaded g ∧ ∃ n, g.HasVersion n ∧ window.least ≤ n ∧ n ≤ window.greatest
  run_iff : ∀ g, .run g ∈ ((p.recordedParse answer found).run []).2 ↔
    answer = .loaded g ∧ ¬ answer.Refused window
  /-- No grammar with a version outside the window comes to the parser. -/
  inside : ∀ use ∈ ((p.recordedParse answer found).run []).2, ∀ n, use.grammar.HasVersion n →
    window.least ≤ n ∧ n ≤ window.greatest
  /-- What the parser would say to such a grammar has no part in the result. -/
  unheard : ∀ g n, answer = .loaded g → g.HasVersion n → n < window.least ∨ window.greatest < n →
    ∀ rejection failure other,
      (p.parse (.loaded { g with rejection := rejection, parseFailure := failure }) other
        length).result = (p.parse answer found length).result

section NotHeld

variable {p : Provider} (hheld : p.held = none)
include hheld

theorem mem_given_iff {answer : LoadAnswer} {found : Option Parse} {g : Grammar} :
    .given g ∈ ((p.recordedParse answer found).run []).2 ↔
      answer = .loaded g ∧
        ∃ n, g.HasVersion n ∧ p.window.least ≤ n ∧ n ≤ p.window.greatest := by
  rw [recordedParse_snd, ← validate_eq_ok_of_not_held hheld]
  cases (p.validate answer).result with
  | error fault => simp
  | ok h =>
    dsimp only
    cases h.rejection <;> simp [eq_comm]

theorem mem_run_iff {answer : LoadAnswer} {found : Option Parse} {g : Grammar} :
    .run g ∈ ((p.recordedParse answer found).run []).2 ↔
      answer = .loaded g ∧ g.Usable p.window := by
  rw [recordedParse_snd, Grammar.usable_iff, ← and_assoc, ← validate_eq_ok_of_not_held hheld]
  cases (p.validate answer).result with
  | error fault => simp
  | ok h =>
    dsimp only
    cases hrejection : h.rejection with
    | some text =>
      refine iff_of_false (by simp) ?_
      rintro ⟨heq, haccepted⟩
      rw [← Except.ok.inj heq, hrejection] at haccepted
      cases haccepted
    | none =>
      constructor
      · intro hmem
        obtain rfl : g = h := by simpa using hmem
        exact ⟨rfl, hrejection⟩
      · rintro ⟨heq, -⟩
        rw [Except.ok.inj heq]
        simp

theorem result_parse_of_refused {answer : LoadAnswer} (h : answer.Refused p.window)
    (found : Option Parse) (length : Nat) :
    ∃ fault, (p.parse answer found length).result = .error (.grammar fault) := by
  obtain ⟨fault, hmade⟩ := (createParser_eq_error_of_not_held hheld).mpr h
  exact ⟨fault, by rw [result_parse, hmade]⟩

theorem result_parse_of_usable {g : Grammar} (h : g.Usable p.window) (found : Option Parse)
    (length : Nat) : (p.parse (.loaded g) found length).result = p.runParser g found := by
  rw [result_parse, (createParser_eq_ok_of_not_held hheld).mpr ⟨rfl, h⟩]

theorem result_parse_of_checkVersion {g : Grammar} {fault : GrammarFault}
    (h : p.checkVersion g = .error fault) (found : Option Parse) (length : Nat) :
    (p.parse (.loaded g) found length).result = .error (.grammar fault) := by
  have hload : (p.load (.loaded g)).result = .ok g := (load_eq_ok_of_not_held hheld).mpr rfl
  rw [result_parse, result_createParser, hload]
  simp [Except.bind, h]

theorem gatesParse_of_not_held (answer : LoadAnswer) (found : Option Parse) (length : Nat) :
    GatesParse p.window answer found length p where
  configuration_iff := by
    rw [endsIn_configuration]
    constructor
    · rintro ⟨fault, hresult⟩
      by_contra h
      obtain ⟨g, rfl, husable⟩ := LoadAnswer.not_refused_iff.mp h
      rw [result_parse_of_usable hheld husable] at hresult
      exact runParser_ne_grammar p g found fault hresult
    · intro h
      exact result_parse_of_refused hheld h found length
  parse_iff := by
    rw [endsIn_parse]
    by_cases h : answer.Refused p.window
    · obtain ⟨fault, hresult⟩ := result_parse_of_refused hheld h found length
      simp [hresult, h]
    · obtain ⟨g, rfl, husable⟩ := LoadAnswer.not_refused_iff.mp h
      rw [result_parse_of_usable hheld husable, runParser_eq_error]
      simp [h]
  ok_iff := by
    intro parse
    by_cases h : answer.Refused p.window
    · obtain ⟨fault, hresult⟩ := result_parse_of_refused hheld h found length
      simp [hresult, h]
    · obtain ⟨g, rfl, husable⟩ := LoadAnswer.not_refused_iff.mp h
      rw [result_parse_of_usable hheld husable, runParser_eq_ok]
      simp [h]
  recorded_eq := recordedParse_fst answer found length p []
  given_iff g := mem_given_iff hheld
  run_iff g := by
    rw [mem_run_iff hheld, LoadAnswer.not_refused_iff]
    constructor
    · rintro ⟨rfl, husable⟩
      exact ⟨rfl, g, rfl, husable⟩
    · rintro ⟨rfl, h, heq, husable⟩
      obtain rfl : g = h := LoadAnswer.loaded.inj heq
      exact ⟨rfl, husable⟩
  inside use huse n hn := by
    obtain ⟨m, hm, hleast, hgreatest⟩ : ∃ m, use.grammar.HasVersion m ∧
        p.window.least ≤ m ∧ m ≤ p.window.greatest := by
      cases use with
      | given g => exact ((mem_given_iff hheld).mp huse).2
      | run g => exact (Grammar.usable_iff.mp ((mem_run_iff hheld).mp huse).2).1
    rw [hn.unique hm]
    exact ⟨hleast, hgreatest⟩
  unheard g n hanswer hn houtside rejection failure other := by
    obtain ⟨fault, hfault⟩ := checkVersion_eq_error hn houtside
    have hsame : p.checkVersion { g with rejection := rejection, parseFailure := failure } =
        .error fault := checkVersion_congr hfault rfl
    rw [hanswer, result_parse_of_checkVersion hheld hfault,
      result_parse_of_checkVersion hheld hsame]

end NotHeld

/-- A new provider parses exactly with the grammars that load, state a version inside the window
and are not rejected. A grammar outside the window is kept from the parser. -/
theorem create?_gates_parse {language : String} {grammar : Option String} {window : Window}
    {p : Provider} (h : create? language grammar window = some p) (load : Loader)
    (found : Option Parse) (source : Bytes) :
    GatesParse window (load p.grammar) found source.length p := by
  obtain ⟨hheld, rfl⟩ := held_of_create? h
  exact gatesParse_of_not_held hheld (load p.grammar) found source.length

/-- A handle from after the runtime, which states its version in the older way. -/
def newerGrammar : Grammar := { attributes := [("abi_version", .null), ("version", .int 16)] }

theorem create?_gates_parse_newer :
    ∃ p, create? "python" none .runtime = some p ∧
      EndsIn .configuration (p.parse (.loaded newerGrammar) none 0).result ∧
      ∀ g, .given g ∉ ((p.recordedParse (.loaded newerGrammar) none).run []).2 := by
  have hversion : newerGrammar.HasVersion 16 := .inl (.inr ⟨.inr rfl, rfl⟩)
  have hgates := @create?_gates_parse "python" none .runtime _ rfl
    (fun _ => .loaded newerGrammar) none []
  refine ⟨_, rfl, ?_, ?_⟩
  · exact hgates.configuration_iff.mpr (.outside hversion (.inr (by decide)))
  · intro g hgiven
    obtain ⟨hloaded, n, hn, -, hgreatest⟩ := (hgates.given_iff g).mp hgiven
    rw [← LoadAnswer.loaded.inj hloaded] at hn
    rw [hn.unique hversion] at hgreatest
    exact absurd hgreatest (by decide)

end Provider
end Canopy
