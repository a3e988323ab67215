import Canopy.Proofs.GrammarGate

namespace Canopy.Provider

/-- How far a grammar is looked at before it is used. -/
inductive Gate where
  | held
  | version
  | parser

/-- What a gate finds in a grammar. -/
def Gate.test (p : Provider) (g : Grammar) : Gate → Except GrammarFault Grammar
  | .held => .ok g
  | .version => p.checkVersion g
  | .parser => (p.checkVersion g).bind p.acceptGrammar

/-- The calls that a provider takes. A parse comes with what the parser would return. -/
inductive Call where
  | load
  | validate
  | abiVersion
  | createParser
  | parse (found : Option Parse) (source : Bytes)

inductive Reply where
  | grammar (g : Grammar)
  | version (v : Option AbiVersion)
  | parser (g : Grammar)
  | tree (parse : Parse)

/-- Brings the outcomes of all calls to one type. -/
def Outcome.relay {ε α : Type} (o : Outcome ε α) (fault : ε → Fault) (reply : α → Reply) :
    Outcome Fault Reply :=
  ⟨(o.result.mapError fault).map reply, o.provider, o.asked, o.logs⟩

namespace Call

def on (answer : LoadAnswer) (p : Provider) : Call → Outcome Fault Reply
  | .load => (p.load answer).relay .grammar .grammar
  | .validate => (p.validate answer).relay .grammar .grammar
  | .abiVersion => (p.abiVersion answer).relay .grammar .version
  | .createParser => (p.createParser answer).relay .grammar .parser
  | .parse found source => (p.parse answer found source.length).relay id .tree

def gate : Call → Gate
  | .load => .held
  | .validate => .version
  | .abiVersion => .held
  | .createParser => .parser
  | .parse .. => .parser

/-- What a call makes of a grammar that has passed its gate. -/
def reply (p : Provider) (g : Grammar) : Call → Except Fault Reply
  | .load => .ok (.grammar g)
  | .validate => .ok (.grammar g)
  | .abiVersion => .ok (.version g.version?)
  | .createParser => .ok (.parser g)
  | .parse found _ => (p.runParser g found).map .tree

/-- What comes of a call that works on this grammar, wherever the grammar is from. -/
def resultWith (p : Provider) (g : Grammar) (c : Call) : Except Fault Reply :=
  match c.gate.test p g with
  | .error fault => .error (.grammar fault)
  | .ok passed => c.reply p passed

end Call

theorem asked_check (o : Outcome GrammarFault Grammar)
    (test : Provider → Grammar → Except GrammarFault Grammar) : (o.check test).asked = o.asked := by
  unfold Outcome.check
  cases o.result with
  | error fault => rfl
  | ok h => cases htest : test o.provider h <;> simp [htest]

theorem asked_createParser (answer : LoadAnswer) (p : Provider) :
    (p.createParser answer).asked = (p.load answer).asked := by
  rw [createParser, asked_check, validate, asked_check]

theorem provider_parse (answer : LoadAnswer) (found : Option Parse) (length : Nat) (p : Provider) :
    (p.parse answer found length).provider = (p.createParser answer).provider ∧
      (p.parse answer found length).asked = (p.createParser answer).asked := by
  unfold parse
  dsimp only
  split
  · exact ⟨rfl, rfl⟩
  · split <;> exact ⟨rfl, rfl⟩

theorem load_of_loaded {p : Provider} (hheld : p.held = none) (g : Grammar) :
    ∃ logs, p.load (.loaded g) = ⟨.ok g, { p with held := some g }, true, logs⟩ := by
  unfold load
  rw [hheld]
  exact ⟨_, rfl⟩

theorem load_of_not_loaded {p : Provider} (hheld : p.held = none) {answer : LoadAnswer}
    (h : ∀ g, answer ≠ .loaded g) :
    ∃ fault logs, p.load answer = ⟨.error fault, p, true, logs⟩ := by
  unfold load
  rw [hheld]
  cases answer with
  | failed text => exact ⟨_, _, rfl⟩
  | missing => exact ⟨_, _, rfl⟩
  | loaded g => exact absurd rfl (h g)

section Calls

variable {answer : LoadAnswer} {p : Provider}

theorem provider_on (c : Call) :
    (c.on answer p).provider = (p.load answer).provider ∧
      (c.on answer p).asked = (p.load answer).asked := by
  cases c with
  | load => exact ⟨rfl, rfl⟩
  | validate => exact ⟨provider_check _ _, asked_check _ _⟩
  | abiVersion => exact ⟨rfl, rfl⟩
  | createParser => exact ⟨provider_createParser answer p, asked_createParser answer p⟩
  | parse found source =>
    obtain ⟨hprovider, hasked⟩ := provider_parse answer found source.length p
    exact ⟨hprovider.trans (provider_createParser answer p),
      hasked.trans (asked_createParser answer p)⟩

theorem result_on_of_error {fault : GrammarFault} (h : (p.load answer).result = .error fault)
    (c : Call) : (c.on answer p).result = .error (.grammar fault) := by
  have hvalidate : (p.validate answer).result = .error fault := by
    rw [result_validate, h]
    rfl
  have hcreate : (p.createParser answer).result = .error fault := by
    rw [result_createParser, h]
    rfl
  cases c with
  | load => simp [Call.on, Outcome.relay, h, Except.map, Except.mapError]
  | validate => simp [Call.on, Outcome.relay, hvalidate, Except.map, Except.mapError]
  | abiVersion => simp [Call.on, Outcome.relay, abiVersion, h, Except.map, Except.mapError]
  | createParser => simp [Call.on, Outcome.relay, hcreate, Except.map, Except.mapError]
  | parse found source =>
    simp [Call.on, Outcome.relay, result_parse, hcreate, Except.map, Except.mapError]

theorem result_on_of_ok {g : Grammar} (h : (p.load answer).result = .ok g) (c : Call) :
    (c.on answer p).result = c.resultWith p g := by
  have hvalidate : (p.validate answer).result = Gate.version.test p g := by
    rw [result_validate, h]
    rfl
  have hcreate : (p.createParser answer).result = Gate.parser.test p g := by
    rw [result_createParser, h]
    rfl
  unfold Call.resultWith
  cases c with
  | load =>
    simp only [Call.on, Outcome.relay, h]
    rfl
  | validate =>
    simp only [Call.on, Outcome.relay, hvalidate, Call.gate]
    cases Gate.version.test p g <;> rfl
  | abiVersion =>
    simp only [Call.on, Outcome.relay, abiVersion, h]
    rfl
  | createParser =>
    simp only [Call.on, Outcome.relay, hcreate, Call.gate]
    cases Gate.parser.test p g <;> rfl
  | parse found source =>
    simp only [Call.on, Outcome.relay, result_parse, hcreate, Call.gate]
    cases Gate.parser.test p g with
    | error fault => rfl
    | ok passed =>
      simp only [Call.reply]
      cases p.runParser passed found <;> rfl

/-- The loader and the grammar that is held come into a call only where the grammar is loaded. -/
theorem on_of_load_ok {g : Grammar} {after : Provider} {asked : Bool} {logs : List Log.Entry}
    (h : p.load answer = ⟨.ok g, after, asked, logs⟩) (c : Call) :
    (c.on answer p).asked = asked ∧ (c.on answer p).provider = after ∧
      (c.on answer p).result = c.resultWith p g := by
  obtain ⟨hprovider, hasked⟩ := provider_on c
  rw [hprovider, hasked, result_on_of_ok (congrArg Outcome.result h), h]
  exact ⟨rfl, rfl, rfl⟩

theorem on_of_load_error {fault : GrammarFault} {after : Provider} {asked : Bool}
    {logs : List Log.Entry} (h : p.load answer = ⟨.error fault, after, asked, logs⟩) (c : Call) :
    (c.on answer p).asked = asked ∧ (c.on answer p).provider = after ∧
      EndsIn .configuration (c.on answer p).result := by
  obtain ⟨hprovider, hasked⟩ := provider_on c
  rw [hprovider, hasked, result_on_of_error (congrArg Outcome.result h), h, endsIn_configuration]
  exact ⟨rfl, rfl, fault, rfl⟩

theorem resultWith_held (held : Option Grammar) (g : Grammar) (c : Call) :
    c.resultWith { p with held := held } g = c.resultWith p g := by
  cases c <;> rfl

/-- The faults that a call finds in its grammar are those that its gate finds. -/
theorem resultWith_eq_grammar {g : Grammar} {c : Call} {fault : GrammarFault} :
    c.resultWith p g = .error (.grammar fault) ↔ c.gate.test p g = .error fault := by
  unfold Call.resultWith
  cases htest : c.gate.test p g with
  | error other => simp
  | ok passed =>
    -- behind the gate only a parse can fail, and then not by its grammar
    refine iff_of_false ?_ (by simp)
    cases c with
    | parse found source =>
      intro hresult
      apply runParser_ne_grammar p passed found fault
      cases hrun : p.runParser passed found with
      | error other => simpa [Call.reply, hrun, Except.map] using hresult
      | ok parse => simp [Call.reply, hrun, Except.map] at hresult
    | _ => simp [Call.reply]

end Calls

/-- The first grammar among a loader's answers is `g`, in answer number `j`. -/
def FirstLoaded (answers : Nat → LoadAnswer) (j : Nat) (g : Grammar) : Prop :=
  answers j = .loaded g ∧ ∀ k < j, ∀ h, answers k ≠ .loaded h

theorem FirstLoaded.unique {answers : Nat → LoadAnswer} {j k : Nat} {g h : Grammar}
    (hg : FirstLoaded answers j g) (hh : FirstLoaded answers k h) : j = k ∧ g = h := by
  have hjk : ¬ j < k := fun hlt => hh.2 j hlt g hg.1
  have hkj : ¬ k < j := fun hlt => hg.2 k hlt h hh.1
  obtain rfl : j = k := by omega
  exact ⟨rfl, LoadAnswer.loaded.inj (hg.1.symm.trans hh.1)⟩

/-- A provider in use, with the number of times that its loader was asked. -/
structure Session where
  provider : Provider
  loads : Nat

namespace Session

/-- The loader gives its answers one after the other. -/
def call (answers : Nat → LoadAnswer) (s : Session) (c : Call) : Outcome Fault Reply :=
  c.on (answers s.loads) s.provider

def next (answers : Nat → LoadAnswer) (s : Session) (c : Call) : Session :=
  let o := s.call answers c
  ⟨o.provider, s.loads + o.asked.toNat⟩

def outcomes (answers : Nat → LoadAnswer) : Session → List Call → List (Outcome Fault Reply)
  | _, [] => []
  | s, c :: calls => s.call answers c :: outcomes answers (s.next answers c) calls

/-- Where a session stands after `n` calls: it has had `n` answers without a grammar, or it holds
the first grammar and has not asked since. -/
inductive Stage (answers : Nat → LoadAnswer) (p : Provider) (n : Nat) : Session → Prop where
  | waiting (unloaded : ∀ k < n, ∀ g, answers k ≠ .loaded g) : Stage answers p n ⟨p, n⟩
  | holding {j : Nat} {g : Grammar} (before : j < n) (first : FirstLoaded answers j g) :
    Stage answers p n ⟨{ p with held := some g }, j + 1⟩

/-- How call number `i` of a session goes: without a grammar so far, with the first one, or on
what an earlier call has left. -/
inductive Course (answers : Nat → LoadAnswer) (p : Provider) (i : Nat) (c : Call)
    (o : Outcome Fault Reply) : Prop where
  | unloaded (unloaded : ∀ k ≤ i, ∀ g, answers k ≠ .loaded g) (asked : o.asked = true)
    (held : o.provider.held = none) (failed : EndsIn .configuration o.result)
  | first {g : Grammar} (first : FirstLoaded answers i g) (asked : o.asked = true)
    (held : o.provider.held = some g) (result : o.result = c.resultWith p g)
  | later {j : Nat} {g : Grammar} (before : j < i) (first : FirstLoaded answers j g)
    (asked : o.asked = false) (held : o.provider.held = some g)
    (result : o.result = c.resultWith p g)

section NotHeld

variable {answers : Nat → LoadAnswer} {p : Provider} (hheld : p.held = none)
include hheld

/-- A call goes as its number says, and brings the session to the next stage. -/
theorem Stage.step {n : Nat} {s : Session} (h : Stage answers p n s) (c : Call) :
    Course answers p n c (s.call answers c) ∧ Stage answers p (n + 1) (s.next answers c) := by
  cases h with
  | waiting unloaded =>
    -- the answer to this call decides whether the session goes on waiting
    by_cases hloaded : ∃ g, answers n = .loaded g
    · obtain ⟨g, hanswer⟩ := hloaded
      have first : FirstLoaded answers n g := ⟨hanswer, unloaded⟩
      obtain ⟨logs, hload⟩ := load_of_loaded hheld g
      rw [← hanswer] at hload
      obtain ⟨hasked, hprovider, hresult⟩ := on_of_load_ok hload c
      refine ⟨.first first hasked (congrArg Provider.held hprovider) hresult, ?_⟩
      rw [next, call, hprovider, hasked]
      exact .holding (Nat.lt_succ_self n) first
    · have hnone := not_exists.mp hloaded
      have hup : ∀ k ≤ n, ∀ g, answers k ≠ .loaded g := by
        intro k hk
        rcases Nat.lt_or_eq_of_le hk with hlt | rfl
        · exact unloaded k hlt
        · exact hnone
      obtain ⟨fault, logs, hload⟩ := load_of_not_loaded hheld hnone
      obtain ⟨hasked, hprovider, hfailed⟩ := on_of_load_error hload c
      refine ⟨.unloaded hup hasked ((congrArg Provider.held hprovider).trans hheld) hfailed, ?_⟩
      rw [next, call, hprovider, hasked]
      exact .waiting fun k hk => hup k (Nat.le_of_lt_succ hk)
  | @holding j g before first =>
    have hload := @load_of_held { p with held := some g } g rfl (answers (j + 1))
    obtain ⟨hasked, hprovider, hresult⟩ := on_of_load_ok hload c
    rw [resultWith_held] at hresult
    refine ⟨.later before first hasked (congrArg Provider.held hprovider) hresult, ?_⟩
    rw [next, call, hprovider, hasked]
    exact .holding (Nat.lt_succ_of_lt before) first

theorem Stage.outcomes {calls : List Call} {n : Nat} {s : Session} (h : Stage answers p n s)
    {i : Nat} {c : Call} (hc : calls[i]? = some c) :
    ∃ o, (s.outcomes answers calls)[i]? = some o ∧ Course answers p (n + i) c o := by
  induction calls generalizing n s i with
  | nil => simp at hc
  | cons d calls ih =>
    obtain ⟨hcourse, hnext⟩ := h.step hheld d
    cases i with
    | zero =>
      obtain rfl : d = c := by simpa using hc
      exact ⟨_, rfl, hcourse⟩
    | succ i =>
      obtain ⟨o, ho, hlater⟩ := ih hnext hc
      rw [Nat.add_right_comm] at hlater
      exact ⟨o, ho, hlater⟩

end NotHeld

/-- Once a grammar has been loaded, every call works on the first one. -/
theorem Course.result_eq {answers : Nat → LoadAnswer} {p : Provider} {i : Nat} {c : Call}
    {o : Outcome Fault Reply} (h : Course answers p i c o) {j : Nat} {g : Grammar} (hj : j ≤ i)
    (first : FirstLoaded answers j g) : o.result = c.resultWith p g := by
  cases h with
  | unloaded hnone => exact absurd first.1 (hnone j hj g)
  | first first' _ _ hresult =>
    obtain ⟨-, rfl⟩ := first.unique first'
    exact hresult
  | later _ first' _ _ hresult =>
    obtain ⟨-, rfl⟩ := first.unique first'
    exact hresult

theorem length_outcomes (answers : Nat → LoadAnswer) (s : Session) (calls : List Call) :
    (s.outcomes answers calls).length = calls.length := by
  induction calls generalizing s with
  | nil => rfl
  | cons c calls ih => simp [outcomes, ih]

/-- Whatever is asked of a provider, and in which order, its first grammar is kept. -/
structure KeepsFirst (answers : Nat → LoadAnswer) (p : Provider) (calls : List Call) : Prop where
  length_eq : (outcomes answers ⟨p, 0⟩ calls).length = calls.length
  course : ∀ i c o, calls[i]? = some c → (outcomes answers ⟨p, 0⟩ calls)[i]? = some o →
    Course answers p i c o
  /-- From the first grammar on, calls with the same gate find the same faults. -/
  unchanged : ∀ j g, FirstLoaded answers j g → ∀ i k c d o o', j ≤ i → j ≤ k →
    calls[i]? = some c → (outcomes answers ⟨p, 0⟩ calls)[i]? = some o →
    calls[k]? = some d → (outcomes answers ⟨p, 0⟩ calls)[k]? = some o' → c.gate = d.gate →
    ∀ fault, o.result = .error (.grammar fault) ↔ o'.result = .error (.grammar fault)

end Session

/-- A new provider asks its loader once in each call until there is a grammar, and then never
again. It stays with that grammar even if no parser can be made of it. -/
theorem create?_keeps_first_grammar {language : String} {grammar : Option String}
    {window : Window} {p : Provider} (h : create? language grammar window = some p)
    (answers : Nat → LoadAnswer) (calls : List Call) : Session.KeepsFirst answers p calls := by
  have hcourse : ∀ i c o, calls[i]? = some c →
      (Session.outcomes answers ⟨p, 0⟩ calls)[i]? = some o → Session.Course answers p i c o := by
    intro i c o hc ho
    have hstart : Session.Stage answers p 0 ⟨p, 0⟩ := .waiting (by simp)
    obtain ⟨o', ho', hcourse⟩ := hstart.outcomes (held_of_create? h).1 hc
    rwa [← Option.some.inj (ho.symm.trans ho'), Nat.zero_add] at hcourse
  refine ⟨Session.length_outcomes answers _ calls, hcourse, ?_⟩
  intro j g first i k c d o o' hi hk hc ho hd ho' hgate fault
  rw [(hcourse i c o hc ho).result_eq hi first, (hcourse k d o' hd ho').result_eq hk first,
    resultWith_eq_grammar, resultWith_eq_grammar, hgate]

/-- A loader that fails, finds nothing, gives a grammar that is too new, and then a good one. -/
def lateAnswers : Nat → LoadAnswer
  | 0 => .failed "no such file"
  | 1 => .missing
  | 2 => .loaded newerGrammar
  | _ => Pack.ofVersion 15

theorem firstLoaded_lateAnswers : FirstLoaded lateAnswers 2 newerGrammar := by
  refine ⟨rfl, ?_⟩
  intro k hk h
  match k with
  | 0 => simp [lateAnswers]
  | 1 => simp [lateAnswers]

/-- The good grammar comes too late for a parse. -/
theorem create?_keeps_first_grammar_late :
    ∃ p before after, create? "python" none .runtime = some p ∧
      Session.outcomes lateAnswers ⟨p, 0⟩
        [.load, .validate, .abiVersion, .parse none []] = before ++ [after] ∧
      after.asked = false ∧ after.provider.held = some newerGrammar ∧
      EndsIn .configuration after.result := by
  have hkeeps := @create?_keeps_first_grammar "python" none .runtime _ rfl lateAnswers
    [.load, .validate, .abiVersion, .parse none []]
  have hcourse := hkeeps.course 3 _ _ rfl rfl
  refine ⟨_, [_, _, _], _, rfl, rfl, ?_⟩
  cases hcourse with
  | unloaded hnone => exact absurd rfl (hnone 2 (by decide) newerGrammar)
  | first first => exact absurd rfl (first.2 2 (by decide) newerGrammar)
  | later _ first asked held result =>
    obtain ⟨rfl, rfl⟩ := firstLoaded_lateAnswers.unique first
    exact ⟨asked, held, _, result, rfl⟩

end Canopy.Provider
