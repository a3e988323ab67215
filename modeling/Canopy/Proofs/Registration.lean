import Canopy.Proofs.GrammarGate
import Canopy.Proofs.RegistryBindings

namespace Canopy

/-- A parser can be made of the grammar that is held, or else of what the loader gives. -/
def Adapter.HasParser (load : Loader) (a : Adapter) : Prop :=
  ∃ g, (a.provider.createParser (load a.provider.grammar)).result = .ok g

/-- The adapter after it was asked for a parser, with the grammar it holds by then. -/
def Adapter.prepared (load : Loader) (a : Adapter) : Adapter :=
  { a with provider := (a.provider.createParser (load a.provider.grammar)).provider }

/-- The adapter of a language with the grammar that was loaded for it. -/
def Adapter.builtin (l : Language) (g : Grammar) : Adapter :=
  ⟨l.profile, { language := l.name, grammar := l.grammar, held := some g }⟩

theorem Adapter.name_ofLanguage (l : Language) : (Adapter.ofLanguage l).name = l.name := by
  cases l <;> rfl

theorem Adapter.provider_ofLanguage (l : Language) :
    (ofLanguage l).provider = { language := l.name, grammar := l.grammar } := by
  cases l <;> rfl

theorem Language.ofName?_eq_some {l : Language} {text : String} :
    ofName? text = some l ↔ l.name = text := by
  constructor
  · intro h
    simpa using List.find?_some h
  · rintro rfl
    cases l <;> decide

theorem Language.eq_of_name_eq {l m : Language} (h : l.name = m.name) : l = m := by
  rw [← ofName?_eq_some, ofName?_eq_some.mpr rfl] at h
  exact (Option.some.inj h).symm

theorem Language.name_not_mem_aliases (l m : Language) : l.name ∉ m.aliases := by
  cases l <;> cases m <;> decide

theorem Adapter.mem_ownAliases_ofLanguage {l : Language} {tag : String} :
    tag ∈ (Adapter.ofLanguage l).ownAliases ↔ tag ∈ l.aliases := by
  have haliases : (Adapter.ofLanguage l).profile.aliases = l.aliases := by cases l <;> rfl
  rw [mem_ownAliases, haliases, name_ofLanguage, and_iff_left_iff_imp]
  rintro hmem rfl
  exact l.name_not_mem_aliases l hmem

theorem Adapter.name_prepared_ofLanguage (load : Loader) (l : Language) :
    ((Adapter.ofLanguage l).prepared load).name = l.name :=
  name_ofLanguage l

/-- A new adapter holds no grammar, so it takes the one that the loader gives. -/
theorem Adapter.prepared_ofLanguage {load : Loader} {l : Language}
    (h : (ofLanguage l).HasParser load) :
    ∃ g, load l.grammar = .loaded g ∧ g.Usable .runtime ∧
      (ofLanguage l).prepared load = .builtin l g := by
  obtain ⟨g, hmade⟩ := h
  rw [provider_ofLanguage, Provider.createParser_eq_ok_of_not_held rfl] at hmade
  obtain ⟨hloaded, husable⟩ := hmade
  refine ⟨g, hloaded, husable, ?_⟩
  rw [prepared, Provider.provider_createParser, provider_ofLanguage]
  simp only [Provider.load, hloaded]
  rfl

namespace Registry

theorem register_eq_ok {load : Loader} {a : Adapter} {r : Registry} :
    (r.register load a).result = .ok () ↔
      r.conflict? a.name a.ownAliases = none ∧ a.HasParser load := by
  unfold Adapter.HasParser
  cases hconflict : r.conflict? a.name a.ownAliases with
  | some c => simp [register, hconflict]
  | none =>
    cases hmade : (a.provider.createParser (load a.provider.grammar)).result with
    | error fault => simp [register, hconflict, hmade]
    | ok g => simp [register, hconflict, hmade]

theorem registry_register_of_ok {load : Loader} {a : Adapter} {r : Registry}
    (h : (r.register load a).result = .ok ()) :
    (r.register load a).registry = r.adding (a.prepared load) := by
  rcases register_cases load a r with ⟨e, he, -⟩ | ⟨-, -, -, hadded⟩
  · rw [h] at he
    cases he
  · exact hadded

theorem registry_register_of_error {load : Loader} {a : Adapter} {r : Registry} {e : RegisterError}
    (h : (r.register load a).result = .error e) : (r.register load a).registry = r := by
  rcases register_cases load a r with ⟨_, -, hsame⟩ | ⟨-, -, hok, -⟩
  · exact hsame
  · rw [h] at hok
    cases hok

/-- Whatever is in the way of a registration is reported as an error of configuration. -/
theorem RegisterError.kind_report (e : RegisterError) : e.report.kind = .configuration := by
  cases e with
  | conflict c => rfl
  | grammar fault => rfl

/-- In a consistent registry, a name that is its own language's alias cannot be in the way. -/
theorem Consistent.conflict?_eq_none_iff {r : Registry} (hr : Consistent r) {a : Adapter} :
    r.conflict? a.name a.ownAliases = none ↔
      a.name ∉ r.aliases.keys ∧
      (∀ tag ∈ a.profile.aliases, tag ≠ a.name → tag ∉ r.languages) ∧
      ∀ tag ∈ a.profile.aliases, tag ≠ a.name → ∀ owner, r.aliases.get? tag = some owner →
        owner = a.name := by
  have hname : (∀ owner, r.aliases.get? a.name = some owner → owner = a.name) ↔
      a.name ∉ r.aliases.keys := by
    rw [Dict.mem_keys, Option.not_isSome_iff_eq_none]
    constructor
    · exact hr.name_not_alias
    · intro hnone owner howner
      rw [hnone] at howner
      cases howner
  have hlanguage : ∀ tag, r.adapters.get? tag = none ↔ tag ∉ r.languages := by
    intro tag
    rw [mem_languages, ← Option.isSome_iff_exists, Option.not_isSome_iff_eq_none]
  rw [conflict?_eq_none, hname]
  simp only [Adapter.mem_ownAliases, hlanguage]
  constructor
  · rintro ⟨hfree, htags⟩
    exact ⟨hfree, fun tag hmem hne => (htags tag ⟨hmem, hne⟩).1,
      fun tag hmem hne => (htags tag ⟨hmem, hne⟩).2⟩
  · rintro ⟨hfree, hnames, howners⟩
    exact ⟨hfree, fun tag ⟨hmem, hne⟩ => ⟨hnames tag hmem hne, howners tag hmem hne⟩⟩

/-- The languages of the catalogue are offered one after the other: what is kept when one is passed
over, and when one is added, is kept by them all. -/
theorem registerEach_tally_induction {P : Registry → Tally → Prop} {load : Loader}
    (hskip : ∀ r tally name, P r tally →
      (∀ l : Language, l.name = name → (r.register load (.ofLanguage l)).result ≠ .ok ()) →
      P r { tally with skipped := tally.skipped ++ [name] })
    (hadd : ∀ r tally (l : Language), P r tally →
      (r.register load (.ofLanguage l)).result = .ok () →
      P (r.register load (.ofLanguage l)).registry
        { tally with registered := tally.registered ++ [l.name] })
    (names : List String) (r : Registry) (tally : Tally) (h : P r tally) :
    P (r.registerEach load tally names).1 (r.registerEach load tally names).2.1 := by
  induction names generalizing r tally with
  | nil => exact h
  | cons name rest ih =>
    rw [registerEach]
    cases hname : Language.ofName? name with
    | none =>
      refine ih _ _ (hskip r tally name h fun l hl => ?_)
      rw [Language.ofName?_eq_some.mpr hl] at hname
      cases hname
    | some l =>
      obtain rfl := Language.ofName?_eq_some.mp hname
      cases hresult : (r.register load (.ofLanguage l)).result with
      | ok =>
        simp only [hresult]
        exact ih _ _ (hadd r tally l h hresult)
      | error e =>
        simp only [hresult, registry_register_of_error hresult]
        refine ih _ _ (hskip r tally l.name h fun m hm => ?_)
        rw [← Language.ofName?_eq_some, hname] at hm
        rw [← Option.some.inj hm, hresult]
        simp

/-- A language has the same adapter and the same aliases in two registries. -/
structure SameLanguage (n : String) (r s : Registry) : Prop where
  adapter : s.adapters.get? n = r.adapters.get? n
  tags : ∀ tag, s.aliases.get? tag = some n ↔ r.aliases.get? tag = some n

theorem SameLanguage.refl (n : String) (r : Registry) : SameLanguage n r r :=
  ⟨rfl, fun _ => Iff.rfl⟩

theorem SameLanguage.trans {n : String} {r s t : Registry} (h : SameLanguage n r s)
    (h' : SameLanguage n s t) : SameLanguage n r t :=
  ⟨h'.adapter.trans h.adapter, fun tag => (h'.tags tag).trans (h.tags tag)⟩

/-- A registration has no effect on other languages. -/
theorem sameLanguage_register {n : String} {a : Adapter} (hne : a.name ≠ n) (load : Loader)
    (r : Registry) : SameLanguage n r (r.register load a).registry := by
  rcases register_cases load a r with ⟨e, -, h⟩ | ⟨hfree, -, -, h⟩
  · rw [h]
    exact .refl n r
  · obtain ⟨-, htags⟩ := conflict?_eq_none.mp hfree
    rw [h]
    constructor
    · rw [get?_adapters_adding]
      exact if_neg hne
    · intro tag
      rw [get?_aliases_adding]
      split_ifs with hmem
      · -- an alias that changed hands would have been in the way
        constructor
        · intro heq
          exact absurd (Option.some.inj heq) hne
        · intro hold
          exact absurd ((htags tag hmem).2 n hold).symm hne
      · rfl

theorem SameLanguage.resolve? {r s : Registry} (hr : Consistent r) (hs : Consistent s)
    {tag : String} {b : Adapter} (h : SameLanguage b.name r s) (hb : r.resolve? tag = some b) :
    s.resolve? tag = some b := by
  have hstands : r.StandsFor tag b.name := ⟨b, hb, rfl⟩
  rcases hr.standsFor_iff.mp hstands with ⟨htag, a, ha⟩ | halias
  · rw [htag, resolve?_name ha] at hb
    rw [htag, resolve?_name (h.adapter.trans ha), hb]
  · rw [hr.resolve?_alias halias] at hb
    rw [hs.resolve?_alias ((h.tags tag).mpr halias), h.adapter, hb]

/-- What registers in a registry registers in those with fewer names and aliases. -/
theorem register_eq_ok_of_extends {load : Loader} {a : Adapter} {r s : Registry}
    (hext : Extends r s) (h : (s.register load a).result = .ok ()) :
    (r.register load a).result = .ok () := by
  rw [register_eq_ok, conflict?_eq_none] at h ⊢
  obtain ⟨⟨hname, htags⟩, hparser⟩ := h
  refine ⟨⟨fun owner ho => hname owner (hext.tags _ _ ho), fun tag hmem => ⟨?_, ?_⟩⟩, hparser⟩
  · by_contra hsome
    obtain ⟨b, hb⟩ := Option.ne_none_iff_exists'.mp hsome
    obtain ⟨d, hd⟩ := hext.names tag b hb
    rw [(htags tag hmem).1] at hd
    cases hd
  · intro owner ho
    exact (htags tag hmem).2 owner (hext.tags _ _ ho)

/-- What has been registered can be registered again, whatever was added since. -/
theorem register_again {load : Loader} {a : Adapter} {r s : Registry} (hs : Consistent s)
    (h : (r.register load a).result = .ok ()) (hext : Extends (r.register load a).registry s) :
    (s.register load a).result = .ok () := by
  rw [registry_register_of_ok h] at hext
  obtain ⟨b, hb⟩ := hext.names a.name (a.prepared load) (by
    rw [get?_adapters_adding]
    exact if_pos rfl)
  rw [register_eq_ok, conflict?_eq_none]
  refine ⟨⟨fun owner ho => ?_, fun tag hmem => ?_⟩, (register_eq_ok.mp h).2⟩
  · rw [hs.apart a.name owner ho] at hb
    cases hb
  · have htag : s.aliases.get? tag = some a.name := by
      apply hext.tags
      rw [get?_aliases_adding]
      exact if_pos hmem
    refine ⟨hs.apart tag a.name htag, fun owner ho => ?_⟩
    rw [htag] at ho
    exact (Option.some.inj ho).symm

/-- So far, no language was both added and passed over: those that were added would be added again,
and those that were passed over would be passed over again. -/
structure Settled (load : Loader) (r : Registry) (tally : Tally) : Prop where
  consistent : Consistent r
  added : ∀ n ∈ tally.registered, ∃ (l : Language) (before : Registry), l.name = n ∧
    (before.register load (.ofLanguage l)).result = .ok () ∧
    Extends (before.register load (.ofLanguage l)).registry r
  skipped : ∀ n ∈ tally.skipped, ∀ l : Language, l.name = n →
    (r.register load (.ofLanguage l)).result ≠ .ok ()

theorem Settled.add {load : Loader} {r : Registry} {tally : Tally} (h : Settled load r tally)
    {l : Language} (hok : (r.register load (.ofLanguage l)).result = .ok ()) :
    Settled load (r.register load (.ofLanguage l)).registry
      { tally with registered := tally.registered ++ [l.name] } := by
  have hext := extends_register load (.ofLanguage l) r
  refine ⟨h.consistent.register load _, ?_, ?_⟩
  · intro n hn
    rcases List.mem_append.mp hn with hold | hnew
    · obtain ⟨m, before, hm, hadded, hbefore⟩ := h.added n hold
      exact ⟨m, before, hm, hadded, hbefore.trans hext⟩
    · exact ⟨l, r, (List.mem_singleton.mp hnew).symm, hok, .refl _⟩
  · intro n hn m hm hagain
    exact h.skipped n hn m hm (register_eq_ok_of_extends hext hagain)

theorem Settled.skip {load : Loader} {r : Registry} {tally : Tally} (h : Settled load r tally)
    {name : String}
    (hno : ∀ l : Language, l.name = name → (r.register load (.ofLanguage l)).result ≠ .ok ()) :
    Settled load r { tally with skipped := tally.skipped ++ [name] } := by
  refine ⟨h.consistent, h.added, ?_⟩
  intro n hn
  rcases List.mem_append.mp hn with hold | hnew
  · exact h.skipped n hold
  · rw [List.mem_singleton.mp hnew]
    exact hno

theorem Settled.not_added_of_skipped {load : Loader} {r : Registry} {tally : Tally}
    (h : Settled load r tally) {n : String} (hn : n ∈ tally.skipped) : n ∉ tally.registered := by
  intro hadded
  obtain ⟨l, before, hl, hok, hext⟩ := h.added n hadded
  exact h.skipped n hn l hl (register_again h.consistent hok hext)

/-- The names asked for, then the reserved ones among the experimental, each where it comes first and
unless it was asked for already. -/
def requested (languages experimental : List String) : List String :=
  languages ++ (experimental.filter fun n =>
    n ∈ Language.reserved.map Language.name ∧ n ∉ languages).eraseDups

theorem wanted_eq_requested (languages experimental : List String) :
    (wanted languages experimental).1 = requested languages experimental := by
  unfold requested
  induction experimental generalizing languages with
  | nil => simp [wanted]
  | cons tag rest ih =>
    rw [wanted]
    by_cases hasked : tag ∈ languages
    · rw [if_pos (by simpa using hasked), ih, List.filter_cons_of_neg (by simp [hasked])]
    rw [if_neg (by simpa using hasked)]
    by_cases hreserved : tag ∈ Language.reserved.map Language.name
    · -- from now on the name counts as asked for
      rw [if_pos (by simpa using hreserved), ih,
        List.filter_cons_of_pos (by rw [decide_eq_true_eq]; exact ⟨hreserved, hasked⟩),
        List.eraseDups_cons, List.filter_filter, List.append_assoc, List.singleton_append]
      congr 4
      funext n
      rw [Bool.eq_iff_iff]
      simp only [List.mem_append, List.mem_singleton, Bool.and_eq_true, Bool.not_eq_true',
        beq_eq_false_iff_ne, decide_eq_true_eq]
      tauto
    · rw [if_neg (by simpa using hreserved), List.filter_cons_of_neg (by simp [hreserved])]
      exact ih languages

/-- Which names a registration of the defaults adds and which it passes over. -/
def defaultsTally (load : Loader) (languages experimental : List String) (r : Registry) : Tally :=
  (r.registerEach load {} (wanted languages experimental).1).2.1

theorem settled_registerDefaults {r : Registry} (hr : Consistent r) (load : Loader)
    (languages experimental : List String) :
    Settled load (r.registerDefaults load languages experimental).registry
      (r.defaultsTally load languages experimental) :=
  registerEach_tally_induction (fun _ _ _ h => h.skip) (fun _ _ _ h => h.add) _ r {}
    ⟨hr, by simp, by simp⟩

/-- Each name is put into one of the two lists. -/
theorem mem_tally_registerEach (load : Loader) (names : List String) (r : Registry)
    (tally : Tally) (n : String) :
    n ∈ (r.registerEach load tally names).2.1.registered ∨
      n ∈ (r.registerEach load tally names).2.1.skipped ↔
      (n ∈ tally.registered ∨ n ∈ tally.skipped) ∨ n ∈ names := by
  induction names generalizing r tally with
  | nil => simp [registerEach]
  | cons name rest ih =>
    rw [registerEach]
    cases Language.ofName? name with
    | none =>
      dsimp only at ih ⊢
      rw [ih, List.mem_append, List.mem_singleton, List.mem_cons]
      tauto
    | some l =>
      dsimp only at ih ⊢
      rw [ih, List.mem_cons]
      cases (r.register load (.ofLanguage l)).result with
      | ok =>
        dsimp only
        rw [List.mem_append, List.mem_singleton]
        tauto
      | error e =>
        dsimp only
        rw [List.mem_append, List.mem_singleton]
        tauto

/-- A language of the catalogue has the grammar that the loader gives, and the aliases of the
catalogue besides those that it had before. -/
structure HoldsBuiltin (load : Loader) (before after : Registry) (l : Language) : Prop where
  adapter : ∃ g, load l.grammar = .loaded g ∧ g.Usable .runtime ∧
    after.adapters.get? l.name = some (.builtin l g)
  tags : ∀ tag, after.aliases.get? tag = some l.name ↔
    tag ∈ l.aliases ∨ before.aliases.get? tag = some l.name

theorem holdsBuiltin_register {load : Loader} {r : Registry} {l : Language}
    (hok : (r.register load (.ofLanguage l)).result = .ok ()) :
    HoldsBuiltin load r (r.register load (.ofLanguage l)).registry l := by
  obtain ⟨g, hloaded, husable, hprepared⟩ :=
    Adapter.prepared_ofLanguage (register_eq_ok.mp hok).2
  have htags : ∀ tag, tag ∈ ((Adapter.ofLanguage l).prepared load).ownAliases ↔
      tag ∈ l.aliases := fun _ => Adapter.mem_ownAliases_ofLanguage
  rw [registry_register_of_ok hok]
  constructor
  · refine ⟨g, hloaded, husable, ?_⟩
    rw [get?_adapters_adding, if_pos (Adapter.name_prepared_ofLanguage load l), hprepared]
  · intro tag
    rw [get?_aliases_adding, Adapter.name_prepared_ofLanguage]
    simp only [htags]
    split_ifs with hmem
    · simp [hmem]
    · simp [hmem]

namespace HoldsBuiltin

variable {load : Loader} {r s t : Registry} {l : Language}

theorem of_sameLanguage (hsame : SameLanguage l.name r s) (h : HoldsBuiltin load s t l) :
    HoldsBuiltin load r t l :=
  ⟨h.adapter, fun tag => by rw [h.tags, hsame.tags]⟩

theorem keep (h : HoldsBuiltin load r s l) (hsame : SameLanguage l.name s t) :
    HoldsBuiltin load r t l := by
  obtain ⟨g, hloaded, husable, hg⟩ := h.adapter
  exact ⟨⟨g, hloaded, husable, hsame.adapter.trans hg⟩, fun tag => by rw [hsame.tags, h.tags]⟩

/-- A language that comes twice has the same aliases as if it came once. -/
theorem again (h : HoldsBuiltin load r s l) (h' : HoldsBuiltin load s t l) :
    HoldsBuiltin load r t l := by
  refine ⟨h'.adapter, ?_⟩
  intro tag
  rw [h'.tags, h.tags, ← or_assoc, or_self]

end HoldsBuiltin

/-- What the defaults have done so far: languages that were added are as the catalogue has them, and
all others are as they were. -/
structure Effect (load : Loader) (r s : Registry) (tally : Tally) : Prop where
  builtin : ∀ n ∈ tally.registered, ∃ l : Language, l.name = n ∧ HoldsBuiltin load r s l
  same : ∀ n ∉ tally.registered, SameLanguage n r s

theorem Effect.add {load : Loader} {r s : Registry} {tally : Tally} (h : Effect load r s tally)
    {l : Language} (hok : (s.register load (.ofLanguage l)).result = .ok ()) :
    Effect load r (s.register load (.ofLanguage l)).registry
      { tally with registered := tally.registered ++ [l.name] } := by
  have hother : ∀ n, n ≠ l.name → SameLanguage n s (s.register load (.ofLanguage l)).registry := by
    intro n hne
    apply sameLanguage_register
    rw [Adapter.name_ofLanguage]
    exact Ne.symm hne
  have hnew := holdsBuiltin_register hok
  constructor
  · intro n hn
    by_cases hadded : n ∈ tally.registered
    · obtain ⟨m, rfl, hm⟩ := h.builtin n hadded
      by_cases hsame : m.name = l.name
      · obtain rfl := Language.eq_of_name_eq hsame
        exact ⟨m, rfl, hm.again hnew⟩
      · exact ⟨m, rfl, hm.keep (hother m.name hsame)⟩
    · obtain rfl : n = l.name := by simpa [hadded] using hn
      exact ⟨l, rfl, hnew.of_sameLanguage (h.same l.name hadded)⟩
  · intro n hn
    rw [List.mem_append, List.mem_singleton, not_or] at hn
    exact (h.same n hn.1).trans (hother n hn.2)

theorem effect_registerDefaults (load : Loader) (languages experimental : List String)
    (r : Registry) :
    Effect load r (r.registerDefaults load languages experimental).registry
      (r.defaultsTally load languages experimental) :=
  registerEach_tally_induction (fun _ _ _ h _ => ⟨h.builtin, h.same⟩) (fun _ _ _ h => h.add) _ r {}
    ⟨by simp, fun n _ => .refl n r⟩

/-- What comes of a registration of the defaults: the names in the two lists of `tally`, the tables
afterwards, and what is returned. -/
structure Defaulted (load : Loader) (languages experimental : List String) (r : Registry)
    (tally : Tally) (o : Outcome Empty (List String)) : Prop where
  result_eq : o.result = .ok tally.registered
  mem_requested_iff : ∀ n, n ∈ requested languages experimental ↔
    n ∈ tally.registered ∨ n ∈ tally.skipped
  not_added_of_skipped : ∀ n ∈ tally.skipped, n ∉ tally.registered
  /-- Those languages are added that can be registered, be it once more. -/
  added_iff : ∀ l : Language, l.name ∈ requested languages experimental →
    (l.name ∈ tally.registered ↔ (o.registry.register load (.ofLanguage l)).result = .ok ())
  builtin : ∀ n ∈ tally.registered, ∃ l : Language, l.name = n ∧ HoldsBuiltin load r o.registry l
  same : ∀ n ∉ tally.registered, SameLanguage n r o.registry
  resolve?_eq : ∀ tag b, r.resolve? tag = some b → b.name ∉ tally.registered →
    o.registry.resolve? tag = some b

theorem defaulted_registerDefaults {r : Registry} (hr : Consistent r) (load : Loader)
    (languages experimental : List String) :
    Defaulted load languages experimental r (r.defaultsTally load languages experimental)
      (r.registerDefaults load languages experimental) := by
  have hsettled := settled_registerDefaults hr load languages experimental
  obtain ⟨hbuiltin, hsame⟩ := effect_registerDefaults load languages experimental r
  have hmem : ∀ n, n ∈ requested languages experimental ↔
      n ∈ (r.defaultsTally load languages experimental).registered ∨
        n ∈ (r.defaultsTally load languages experimental).skipped := by
    intro n
    rw [defaultsTally, mem_tally_registerEach, wanted_eq_requested]
    simp
  refine ⟨rfl, hmem, fun n => hsettled.not_added_of_skipped, ?_, hbuiltin, hsame, ?_⟩
  · intro l hl
    constructor
    · intro hadded
      obtain ⟨m, before, hm, hok, hext⟩ := hsettled.added l.name hadded
      obtain rfl := Language.eq_of_name_eq hm
      exact register_again hsettled.consistent hok hext
    · intro hagain
      refine ((hmem l.name).mp hl).resolve_right ?_
      intro hskipped
      exact hsettled.skipped l.name hskipped l rfl hagain
  · intro tag b hb hn
    exact (hsame b.name hn).resolve? hr hsettled.consistent hb

/-- After every run, a registration succeeds exactly if the adapter's name is nobody's alias, none of
its aliases is a language or stands for another one, and a parser can be made. It then adds the name
and the aliases and nothing else; if it fails, it changes nothing. So the defaults leave alone the
languages they pass over and all others that they do not register anew; those they do register have
the built-in adapter afterwards, whatever stood there before. -/
theorem run_register_exact (ops : List Operation) (load : Loader) (a : Adapter) :
    (((run ops).register load a).result = .ok () ↔
      a.name ∉ (run ops).aliases.keys ∧
      (∀ tag ∈ a.profile.aliases, tag ≠ a.name → tag ∉ (run ops).languages) ∧
      (∀ tag ∈ a.profile.aliases, tag ≠ a.name → ∀ owner,
        (run ops).aliases.get? tag = some owner → owner = a.name) ∧
      ∃ g, (a.provider.createParser (load a.provider.grammar)).result = .ok g) ∧
    (((run ops).register load a).result = .ok () →
      (∀ n, ((run ops).register load a).registry.adapters.get? n =
        if n = a.name then some (a.prepared load) else (run ops).adapters.get? n) ∧
      ∀ tag, ((run ops).register load a).registry.aliases.get? tag =
        if tag ∈ a.profile.aliases ∧ tag ≠ a.name then some a.name
        else (run ops).aliases.get? tag) ∧
    (∀ e, ((run ops).register load a).result = .error e →
      e.report.kind = .configuration ∧ ((run ops).register load a).registry = run ops) ∧
    ∀ load languages experimental, Defaulted load languages experimental (run ops)
      ((run ops).defaultsTally load languages experimental)
      ((run ops).registerDefaults load languages experimental) := by
  have hr := consistent_run ops
  refine ⟨?_, ?_, ?_, defaulted_registerDefaults hr⟩
  · rw [register_eq_ok, hr.conflict?_eq_none_iff, and_assoc, and_assoc]
    rfl
  · intro hok
    rw [registry_register_of_ok hok]
    constructor
    · intro n
      rw [get?_adapters_adding]
      simp only [eq_comm]
      rfl
    · intro tag
      rw [get?_aliases_adding]
      simp only [Adapter.mem_ownAliases]
      rfl
  · intro e he
    exact ⟨e.kind_report, registry_register_of_error he⟩

/-- An adapter of one's own under the name of a built-in language. -/
def ownPython : List Operation :=
  [.register Pack.bundled.loader (.ofProfile (.custom "python" (some ["snake"])))]

/-- The defaults put the built-in adapter in its place. -/
theorem registerDefaults_replaces_ownPython :
    ¬ ∀ n b, (run ownPython).adapters.get? n = some b →
      ((run ownPython).registerDefaults Pack.bundled.loader ["python"]
        []).registry.adapters.get? n = some b := by
  intro hkept
  have hown : ((run ownPython).adapters.get? "python").map (fun b => b.profile.title) =
      some "CustomAdapter" := by decide +kernel
  have hafter : (((run ownPython).registerDefaults Pack.bundled.loader ["python"]
      []).registry.adapters.get? "python").map (fun b => b.profile.title) =
      some "PythonAdapter" := by decide +kernel
  obtain ⟨b, hb, htitle⟩ := Option.map_eq_some_iff.mp hown
  rw [hkept "python" b hb, Option.map_some, htitle] at hafter
  exact absurd hafter (by decide)

end Registry
end Canopy
