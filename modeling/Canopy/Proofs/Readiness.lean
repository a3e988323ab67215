import Canopy.Grammar.Pack
import Canopy.Proofs.RegistryLookup

namespace Canopy

namespace Grammar

/-- The value that a handle states for its version: that of `abi_version`, or that of `version`
where the first is absent or null. -/
def States (g : Grammar) (value : Json) : Prop :=
  g.attributes.get? "abi_version" = some value ∧ value ≠ .null ∨
    (g.attributes.get? "abi_version" = none ∨ g.attributes.get? "abi_version" = some .null) ∧
      g.attributes.get? "version" = some value

/-- Integers are versions. Truth values are integers too, zero and one. -/
def HasVersion (g : Grammar) (n : Int) : Prop :=
  g.States (.int n) ∨ n = 1 ∧ g.States (.bool true) ∨ n = 0 ∧ g.States (.bool false)

theorem version?_eq_some {g : Grammar} {v : AbiVersion} :
    g.version? = some v ↔ g.States v.toJson := by
  have hversion : ∀ value, AbiVersion.ofJson? value = some v ↔ value = v.toJson := by
    intro value
    cases v <;> cases value <;> simp [AbiVersion.ofJson?, AbiVersion.toJson]
  have hnull : v.toJson ≠ .null := by cases v <;> simp [AbiVersion.toJson]
  unfold version? States
  split
  · next habi => simp [habi, Option.bind_eq_some_iff, hversion, hnull.symm]
  · next habi => simp [habi, Option.bind_eq_some_iff, hversion]
  · next value hvalue habi =>
    have hvalue' : ¬ value = .null := hvalue
    simp [habi, hversion, hnull, hvalue']

theorem hasVersion_iff {g : Grammar} {n : Int} :
    g.HasVersion n ↔ ∃ v, g.version? = some v ∧ v.toInt = n := by
  simp only [version?_eq_some]
  constructor
  · rintro (hint | ⟨rfl, htrue⟩ | ⟨rfl, hfalse⟩)
    · exact ⟨.number n, hint, rfl⟩
    · exact ⟨.flag true, htrue, rfl⟩
    · exact ⟨.flag false, hfalse, rfl⟩
  · rintro ⟨v, hstates, rfl⟩
    cases v with
    | number n => exact .inl hstates
    | flag b =>
      cases b with
      | true => exact .inr (.inl ⟨rfl, hstates⟩)
      | false => exact .inr (.inr ⟨rfl, hstates⟩)

end Grammar

theorem Grammar.HasVersion.unique {g : Grammar} {m n : Int} (hm : g.HasVersion m)
    (hn : g.HasVersion n) : m = n := by
  obtain ⟨v, hv, rfl⟩ := hasVersion_iff.mp hm
  obtain ⟨v', hv', rfl⟩ := hasVersion_iff.mp hn
  rw [Option.some.inj (hv.symm.trans hv')]

/-- What a parser can be made of: a grammar whose version lies in the window and that the runtime
does not reject. -/
structure Grammar.Usable (w : Window) (g : Grammar) : Prop where
  version : ∃ v, g.version? = some v ∧ w.least ≤ v.toInt ∧ v.toInt ≤ w.greatest
  accepted : g.rejection = none

theorem Grammar.usable_iff {w : Window} {g : Grammar} :
    g.Usable w ↔ (∃ n, g.HasVersion n ∧ w.least ≤ n ∧ n ≤ w.greatest) ∧ g.rejection = none := by
  simp only [hasVersion_iff]
  constructor
  · rintro ⟨⟨v, hv, hleast, hgreatest⟩, haccepted⟩
    exact ⟨⟨v.toInt, ⟨v, hv, rfl⟩, hleast, hgreatest⟩, haccepted⟩
  · rintro ⟨⟨n, ⟨v, hv, rfl⟩, hleast, hgreatest⟩, haccepted⟩
    exact ⟨⟨v, hv, hleast, hgreatest⟩, haccepted⟩

namespace Provider

/-- A usable grammar is held, so nothing has to be loaded any more. -/
def Ready (p : Provider) : Prop := ∃ g, p.held = some g ∧ g.Usable p.window

theorem checkVersion_eq_ok {p : Provider} {g h : Grammar} :
    p.checkVersion g = .ok h ↔ g = h ∧
      ∃ v, g.version? = some v ∧ p.window.least ≤ v.toInt ∧ v.toInt ≤ p.window.greatest := by
  unfold checkVersion
  cases hv : g.version? with
  | none => simp
  | some v =>
    simp only [Option.some.injEq, exists_eq_left']
    split_ifs with hnew hold
    · simp only [false_iff]
      omega
    · simp only [false_iff]
      omega
    · rw [Except.ok.injEq]
      constructor
      · intro heq
        exact ⟨heq, by omega, by omega⟩
      · exact And.left

theorem acceptGrammar_eq_ok {p : Provider} {g h : Grammar} :
    p.acceptGrammar g = .ok h ↔ g = h ∧ g.rejection = none := by
  unfold acceptGrammar
  cases g.rejection with
  | none => simp
  | some text => simp

theorem result_check_eq_ok {o : Outcome GrammarFault Grammar}
    {test : Provider → Grammar → Except GrammarFault Grammar} {g : Grammar} :
    (o.check test).result = .ok g ↔ ∃ h, o.result = .ok h ∧ test o.provider h = .ok g := by
  unfold Outcome.check
  cases hresult : o.result with
  | error fault => simp [hresult]
  | ok h => cases htest : test o.provider h <;> simp [htest]

/-- A check neither loads a grammar nor drops one. -/
theorem provider_check (o : Outcome GrammarFault Grammar)
    (test : Provider → Grammar → Except GrammarFault Grammar) :
    (o.check test).provider = o.provider := by
  unfold Outcome.check
  cases o.result with
  | error fault => rfl
  | ok h => cases htest : test o.provider h <;> simp [htest]

theorem check_of_ok {o : Outcome GrammarFault Grammar}
    {test : Provider → Grammar → Except GrammarFault Grammar} {g : Grammar}
    (hresult : o.result = .ok g) (htest : test o.provider g = .ok g) : o.check test = o := by
  obtain ⟨result, provider, asked, logs⟩ := o
  obtain rfl : result = .ok g := hresult
  simp [Outcome.check, htest]

theorem window_load (answer : LoadAnswer) (p : Provider) :
    (p.load answer).provider.window = p.window := by
  unfold load
  split
  · rfl
  · split <;> rfl

/-- What was loaded is held, whatever the checks will say of it. -/
theorem held_of_load_eq_ok {answer : LoadAnswer} {p : Provider} {g : Grammar}
    (h : (p.load answer).result = .ok g) : (p.load answer).provider.held = some g := by
  unfold load at h ⊢
  split at h
  · next grammar hheld => rw [hheld, Except.ok.inj h]
  · split at h
    · simp at h
    · simp at h
    · simpa using h

/-- The loader is not asked for a grammar that is held. -/
theorem load_of_held {p : Provider} {g : Grammar} (h : p.held = some g) (answer : LoadAnswer) :
    p.load answer = ⟨.ok g, p, false, []⟩ := by
  simp [load, h]

theorem provider_createParser (answer : LoadAnswer) (p : Provider) :
    (p.createParser answer).provider = (p.load answer).provider := by
  rw [createParser, provider_check, validate, provider_check]

/-- There is a parser exactly if the grammar that is held or loaded now is usable. -/
theorem createParser_eq_ok {answer : LoadAnswer} {p : Provider} {g : Grammar} :
    (p.createParser answer).result = .ok g ↔
      (p.load answer).result = .ok g ∧ g.Usable p.window := by
  simp only [createParser, validate, result_check_eq_ok, checkVersion_eq_ok, acceptGrammar_eq_ok,
    window_load]
  constructor
  · rintro ⟨h, ⟨k, hload, rfl, hversion⟩, rfl, haccepted⟩
    exact ⟨hload, hversion, haccepted⟩
  · rintro ⟨hload, hversion, haccepted⟩
    exact ⟨g, ⟨g, hload, rfl, hversion⟩, rfl, haccepted⟩

theorem ready_of_createParser_eq_ok {answer : LoadAnswer} {p : Provider} {g : Grammar}
    (h : (p.createParser answer).result = .ok g) : (p.createParser answer).provider.Ready := by
  obtain ⟨hload, husable⟩ := createParser_eq_ok.mp h
  rw [provider_createParser]
  exact ⟨g, held_of_load_eq_ok hload, by rwa [window_load]⟩

theorem createParser_of_held {p : Provider} {g : Grammar} (hheld : p.held = some g)
    (hg : g.Usable p.window) (answer : LoadAnswer) :
    p.createParser answer = ⟨.ok g, p, false, []⟩ := by
  have hload := load_of_held hheld answer
  have hvalid : p.validate answer = ⟨.ok g, p, false, []⟩ := by
    rw [validate, hload]
    exact check_of_ok rfl (checkVersion_eq_ok.mpr ⟨rfl, hg.version⟩)
  rw [createParser, hvalid]
  exact check_of_ok rfl (acceptGrammar_eq_ok.mpr ⟨rfl, hg.accepted⟩)

/-- A ready provider makes a parser at any time, without the loader and without a change. -/
theorem Ready.createParser_eq {p : Provider} (h : p.Ready) (answer : LoadAnswer) :
    ∃ g, p.held = some g ∧ p.createParser answer = ⟨.ok g, p, false, []⟩ := by
  obtain ⟨g, hheld, hg⟩ := h
  exact ⟨g, hheld, createParser_of_held hheld hg answer⟩

/-- A parse with a ready provider can fail only in the parser. -/
theorem Ready.parse_cases {p : Provider} (h : p.Ready) (answer : LoadAnswer)
    (found : Option Parse) (length : Nat) :
    (∃ parse, (p.parse answer found length).result = .ok parse) ∨
      ∃ fault, (p.parse answer found length).result = .error (.parse fault) := by
  obtain ⟨g, -, hmade⟩ := h.createParser_eq answer
  simp only [parse, hmade]
  cases g.parseFailure with
  | some text => exact .inr ⟨_, rfl⟩
  | none =>
    cases found with
    | none => exact .inr ⟨_, rfl⟩
    | some parsed => exact .inl ⟨_, rfl⟩

theorem Ready.provider_parse {p : Provider} (h : p.Ready) (answer : LoadAnswer)
    (found : Option Parse) (length : Nat) :
    (p.parse answer found length).provider = p ∧ (p.parse answer found length).asked = false := by
  obtain ⟨g, -, hmade⟩ := h.createParser_eq answer
  simp only [parse, hmade]
  cases g.parseFailure with
  | some text => exact ⟨rfl, rfl⟩
  | none => cases found <;> exact ⟨rfl, rfl⟩

/-- What the loader would answer by now plays no part. -/
theorem Ready.parse_answer {p : Provider} (h : p.Ready) (answer answer' : LoadAnswer)
    (found : Option Parse) (length : Nat) :
    p.parse answer found length = p.parse answer' found length := by
  obtain ⟨g, hheld, hg⟩ := h
  unfold parse
  rw [createParser_of_held hheld hg answer, createParser_of_held hheld hg answer']

end Provider

namespace Ast

theorem provider_build (world : World) (options : BuildOptions) (source : Bytes) (a : Adapter) :
    (build world options source a).provider =
      (a.provider.parse (world.load a.provider.grammar) world.found source.length).provider := by
  unfold build
  dsimp only
  split
  · rfl
  · split <;> rfl

variable {a : Adapter} (ready : a.provider.Ready) (world : World) (options : BuildOptions)
  (source : Bytes)
include ready

theorem build_ne_grammar_of_ready (fault : GrammarFault) :
    (build world options source a).result ≠ .error (.grammar fault) := by
  have hparse := ready.parse_cases (world.load a.provider.grammar) world.found source.length
  unfold build
  rcases hparse with ⟨parse, hparse⟩ | ⟨other, hparse⟩
  · simp only [hparse]
    split <;> simp
  · simp [hparse, Error.ofFault]

theorem provider_build_of_ready : (build world options source a).provider = a.provider := by
  rw [provider_build]
  exact (ready.provider_parse (world.load a.provider.grammar) world.found source.length).1

theorem build_loader_of_ready (load : Loader) :
    build { world with load := load } options source a = build world options source a := by
  unfold build
  rw [ready.parse_answer (load a.provider.grammar) (world.load a.provider.grammar)]

end Ast

namespace Registry

/-- Every adapter of the registry is ready. -/
def AllReady (r : Registry) : Prop := ∀ n a, r.adapters.get? n = some a → a.provider.Ready

theorem AllReady.register {r : Registry} (hr : AllReady r) (load : Loader) (a : Adapter) :
    AllReady (r.register load a).registry := by
  rcases register_cases load a r with ⟨e, -, h⟩ | ⟨-, ⟨g, hmade⟩, -, h⟩
  · rw [h]
    exact hr
  · intro n b hb
    rw [h, get?_adapters_adding] at hb
    split_ifs at hb
    · -- the adapter goes in with the provider that has just made a parser
      rw [← Option.some.inj hb]
      exact Provider.ready_of_createParser_eq_ok hmade
    · exact hr n b hb

theorem AllReady.unregister {r : Registry} (hr : AllReady r) (name : String) :
    AllReady (r.unregister name).registry := by
  intro n a ha
  rw [get?_adapters_unregister] at ha
  split_ifs at ha
  exact hr n a ha

theorem allReady_run (ops : List Operation) : AllReady (run ops) :=
  run_induction (fun n a h => by simp [Dict.get?_nil] at h) (fun _ load a h => h.register load a)
    (fun _ name h => h.unregister name) ops

/-- What a tag leads to stands in the table under its own name. -/
theorem Consistent.get?_of_resolve? {r : Registry} (hr : Consistent r) {tag : String} {a : Adapter}
    (h : r.resolve? tag = some a) : r.adapters.get? a.name = some a := by
  unfold resolve? at h
  cases htag : r.adapters.get? tag with
  | some b =>
    obtain rfl : b = a := by simpa [htag] using h
    rwa [hr.named tag b htag]
  | none =>
    simp only [htag, Option.bind_eq_some_iff] at h
    obtain ⟨n, -, hn⟩ := h
    rwa [hr.named n a hn]

/-- A build through the registry finds no fault in a grammar, changes nothing in the registry, and
does without the loader. -/
theorem parseSource_of_allReady {r : Registry} (hr : Consistent r) (hready : AllReady r)
    (world : Ast.World) (options : BuildOptions) (source : Bytes) (tag : String) :
    (∀ fault, (Ast.parseSource world options source tag r).result ≠ .error (.grammar fault)) ∧
      (Ast.parseSource world options source tag r).registry = r ∧
      ∀ load, Ast.parseSource { world with load := load } options source tag r =
        Ast.parseSource world options source tag r := by
  unfold Ast.parseSource
  cases hrequire : r.require tag with
  | error u => simp
  | ok a =>
    have ha := hr.get?_of_resolve? (require_eq_ok.mp hrequire)
    have hprovider := hready a.name a ha
    refine ⟨Ast.build_ne_grammar_of_ready hprovider world options source, ?_, ?_⟩
    · simp only [Ast.provider_build_of_ready hprovider world options source]
      rw [Dict.insert_of_get? ha]
    · intro load
      simp only [Ast.build_loader_of_ready hprovider world options source load]

/-- After every run, whatever the loader has answered on the way and would answer by now, each
registered adapter holds a grammar inside its window that the parser takes. So parsers can be made
without the loader, and no build through the registry ends in a fault of a grammar. -/
theorem run_adapters_ready (ops : List Operation) :
    (∀ n a, (run ops).adapters.get? n = some a → ∃ g version, a.provider.held = some g ∧
      g.HasVersion version ∧ a.provider.window.least ≤ version ∧
      version ≤ a.provider.window.greatest ∧ g.rejection = none) ∧
    (∀ tag a, (run ops).resolve? tag = some a ∨ (run ops).require tag = .ok a →
      ∀ answer, ∃ g, a.provider.held = some g ∧
        a.provider.createParser answer = ⟨.ok g, a.provider, false, []⟩) ∧
    ∀ world options source tag,
      (∀ fault, (Ast.parseSource world options source tag (run ops)).result ≠
        .error (.grammar fault)) ∧
      (Ast.parseSource world options source tag (run ops)).registry = run ops ∧
      ∀ load, Ast.parseSource { world with load := load } options source tag (run ops) =
        Ast.parseSource world options source tag (run ops) := by
  have hconsistent := consistent_run ops
  have hready := allReady_run ops
  refine ⟨?_, ?_, parseSource_of_allReady hconsistent hready⟩
  · intro n a ha
    obtain ⟨g, hheld, husable⟩ := hready n a ha
    obtain ⟨⟨version, hversion, hleast, hgreatest⟩, haccepted⟩ := Grammar.usable_iff.mp husable
    exact ⟨g, version, hheld, hversion, hleast, hgreatest, haccepted⟩
  · intro tag a ha answer
    rw [require_eq_ok, or_self] at ha
    exact (hready _ a (hconsistent.get?_of_resolve? ha)).createParser_eq answer

/-- Python is registered, and then again while its grammar cannot be loaded. -/
def failedReplacement : List Operation :=
  [.register Pack.bundled.loader (.ofLanguage .python),
    .register (fun _ => .failed "no such file") (.ofLanguage .python)]

theorem run_adapters_ready_failedReplacement :
    ∃ a, (run failedReplacement).resolve? "py" = some a ∧
      ∃ g, a.provider.held = some g ∧
        a.provider.createParser .missing = ⟨.ok g, a.provider, false, []⟩ := by
  have hsome : ((run failedReplacement).resolve? "py").isSome = true := by decide +kernel
  obtain ⟨a, ha⟩ := Option.isSome_iff_exists.mp hsome
  exact ⟨a, ha, (run_adapters_ready failedReplacement).2.1 "py" a (.inl ha) .missing⟩

end Registry
end Canopy
