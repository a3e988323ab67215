import Canopy.Proofs.GrammarGate
import Canopy.Proofs.Registration

namespace Canopy

instance Grammar.Usable.decidable (w : Window) (g : Grammar) : Decidable (g.Usable w) :=
  decidable_of_iff
    ((∃ v ∈ g.version?, w.least ≤ v.toInt ∧ v.toInt ≤ w.greatest) ∧ g.rejection = none)
    ⟨fun h => ⟨h.1, h.2⟩, fun h => ⟨h.version, h.accepted⟩⟩

instance LoadAnswer.decidableUsable (w : Window) :
    (answer : LoadAnswer) → Decidable (∃ g, answer = .loaded g ∧ g.Usable w)
  | .loaded g => decidable_of_iff (g.Usable w) (by simp)
  | .failed _ => isFalse (by simp)
  | .missing => isFalse (by simp)

namespace Language

theorem aliasesOf_name (l : Language) : aliasesOf l.name = l.aliases := by
  rw [aliasesOf, ofName?_eq_some.mpr rfl]

/-- No two languages of the catalogue have an alias in common. -/
theorem eq_of_mem_aliases {l m : Language} {tag : String} (hl : tag ∈ l.aliases)
    (hm : tag ∈ m.aliases) : l = m := by
  have happart : ∀ tag ∈ l.aliases, tag ∈ m.aliases → l = m := by
    cases l <;> cases m <;> decide
  exact happart tag hl hm

/-- The name is in the catalogue, and a parser takes the grammar that the loader gives for it. -/
def Offered (load : Loader) (name : String) : Prop :=
  ∃ l ∈ ofName? name, ∃ g, load l.grammar = .loaded g ∧ g.Usable .runtime

instance (load : Loader) : DecidablePred (Offered load) := fun name =>
  inferInstanceAs
    (Decidable (∃ l ∈ ofName? name, ∃ g, load l.grammar = .loaded g ∧ g.Usable .runtime))

theorem Offered.exists_name {load : Loader} {name : String} (h : Offered load name) :
    ∃ l : Language, l.name = name := by
  obtain ⟨l, hl, -⟩ := h
  exact ⟨l, ofName?_eq_some.mp hl⟩

theorem offered_name {load : Loader} {l : Language} :
    Offered load l.name ↔ ∃ g, load l.grammar = .loaded g ∧ g.Usable .runtime := by
  simp [Offered, ofName?_eq_some.mpr rfl]

end Language

/-- A built-in adapter is new and holds no grammar yet. -/
theorem Adapter.hasParser_ofLanguage {load : Loader} {l : Language} :
    (Adapter.ofLanguage l).HasParser load ↔ Language.Offered load l.name := by
  rw [HasParser, provider_ofLanguage, Language.offered_name]
  simp only [Provider.createParser_eq_ok_of_not_held]

namespace Registry

/-- Nothing but languages of the catalogue, each under its own name and with its own aliases. -/
structure BuiltinOnly (r : Registry) : Prop where
  adapters : ∀ n a, r.adapters.get? n = some a → ∃ l : Language, l.name = n ∧ a.profile = l.profile
  aliases : ∀ tag n, r.aliases.get? tag = some n ↔ n ∈ r.languages ∧ tag ∈ Language.aliasesOf n

namespace BuiltinOnly

variable {r : Registry} (hr : BuiltinOnly r)
include hr

theorem exists_language {n : String} (h : n ∈ r.languages) : ∃ l : Language, l.name = n := by
  obtain ⟨a, ha⟩ := mem_languages.mp h
  obtain ⟨l, hl, -⟩ := hr.adapters n a ha
  exact ⟨l, hl⟩

theorem owner {tag n : String} (h : r.aliases.get? tag = some n) :
    ∃ l : Language, l.name = n ∧ tag ∈ l.aliases := by
  obtain ⟨hn, htag⟩ := (hr.aliases tag n).mp h
  obtain ⟨l, rfl⟩ := hr.exists_language hn
  rw [Language.aliasesOf_name] at htag
  exact ⟨l, rfl, htag⟩

theorem name_not_alias (l : Language) : r.aliases.get? l.name = none := by
  by_contra hsome
  obtain ⟨n, hn⟩ := Option.ne_none_iff_exists'.mp hsome
  obtain ⟨m, -, hmem⟩ := hr.owner hn
  exact l.name_not_mem_aliases m hmem

theorem alias_not_name {l : Language} {tag : String} (htag : tag ∈ l.aliases) :
    r.adapters.get? tag = none := by
  by_contra hsome
  obtain ⟨a, ha⟩ := Option.ne_none_iff_exists'.mp hsome
  obtain ⟨m, rfl⟩ := hr.exists_language (mem_languages.mpr ⟨a, ha⟩)
  exact m.name_not_mem_aliases l htag

/-- The names of the catalogue do not get in each other's way. -/
theorem conflict?_eq_none (l : Language) :
    r.conflict? (Adapter.ofLanguage l).name (Adapter.ofLanguage l).ownAliases = none := by
  rw [Registry.conflict?_eq_none, Adapter.name_ofLanguage, hr.name_not_alias]
  refine ⟨by simp, ?_⟩
  intro tag htag
  rw [Adapter.mem_ownAliases_ofLanguage] at htag
  refine ⟨hr.alias_not_name htag, ?_⟩
  intro owner howner
  obtain ⟨m, rfl, hmem⟩ := hr.owner howner
  rw [Language.eq_of_mem_aliases hmem htag]

/-- So it is the grammar alone that decides. -/
theorem register_eq_ok {load : Loader} {l : Language} :
    (r.register load (.ofLanguage l)).result = .ok () ↔ Language.Offered load l.name := by
  rw [Registry.register_eq_ok, Adapter.hasParser_ofLanguage]
  exact and_iff_right (hr.conflict?_eq_none l)

theorem mem_languages_register {load : Loader} {l : Language}
    (hl : Language.Offered load l.name) {n : String} :
    n ∈ (r.register load (.ofLanguage l)).registry.languages ↔ n = l.name ∨ n ∈ r.languages := by
  rw [registry_register_of_ok (hr.register_eq_ok.mpr hl), mem_languages, mem_languages,
    get?_adapters_adding, Adapter.name_prepared_ofLanguage]
  by_cases hn : l.name = n
  · simp [hn]
  · simp [hn, Ne.symm hn]

theorem register {load : Loader} {l : Language} (hl : Language.Offered load l.name) :
    BuiltinOnly (r.register load (.ofLanguage l)).registry := by
  have hok := hr.register_eq_ok.mpr hl
  have htags : ∀ tag, tag ∈ ((Adapter.ofLanguage l).prepared load).ownAliases ↔ tag ∈ l.aliases :=
    fun _ => Adapter.mem_ownAliases_ofLanguage
  constructor
  · intro n a ha
    rw [registry_register_of_ok hok, get?_adapters_adding, Adapter.name_prepared_ofLanguage] at ha
    split_ifs at ha with hn
    · exact ⟨l, hn, by rw [← Option.some.inj ha]; rfl⟩
    · exact hr.adapters n a ha
  · intro tag n
    rw [hr.mem_languages_register hl, registry_register_of_ok hok, get?_aliases_adding,
      Adapter.name_prepared_ofLanguage]
    simp only [htags]
    by_cases htag : tag ∈ l.aliases
    · rw [if_pos htag, Option.some.injEq]
      constructor
      · rintro rfl
        exact ⟨.inl rfl, by rwa [Language.aliasesOf_name]⟩
      · rintro ⟨rfl | hn, hmem⟩
        · rfl
        · obtain ⟨m, rfl⟩ := hr.exists_language hn
          rw [Language.aliasesOf_name] at hmem
          rw [Language.eq_of_mem_aliases htag hmem]
    · rw [if_neg htag, hr.aliases]
      constructor
      · rintro ⟨hn, hmem⟩
        exact ⟨.inr hn, hmem⟩
      · rintro ⟨rfl | hn, hmem⟩
        · rw [Language.aliasesOf_name] at hmem
          exact absurd hmem htag
        · exact ⟨hn, hmem⟩

/-- One language after the other: those with a usable grammar are added and named, the rest leaves no
trace. -/
theorem registerEach (load : Loader) (names : List String) (tally : Tally) :
    let done := r.registerEach load tally names
    BuiltinOnly done.1 ∧
    done.2.1.registered = tally.registered ++ names.filter (Language.Offered load ·) ∧
    ∀ n, n ∈ done.1.languages ↔ n ∈ r.languages ∨ n ∈ names.filter (Language.Offered load ·) := by
  induction names generalizing r tally with
  | nil => simpa [Registry.registerEach] using hr
  | cons name rest ih =>
    rw [Registry.registerEach]
    by_cases hoffered : Language.Offered load name
    · obtain ⟨l, rfl⟩ := hoffered.exists_name
      have hok := hr.register_eq_ok.mpr hoffered
      obtain ⟨honly, hlist, hnames⟩ := ih (hr.register hoffered)
        { tally with registered := tally.registered ++ [l.name] }
      rw [Language.ofName?_eq_some.mpr rfl, List.filter_cons_of_pos (by simpa using hoffered)]
      simp only [hok]
      refine ⟨honly, by simpa using hlist, ?_⟩
      intro n
      rw [hnames, hr.mem_languages_register hoffered, List.mem_cons]
      tauto
    · rw [List.filter_cons_of_neg (by simpa using hoffered)]
      cases hl : Language.ofName? name with
      | none => exact ih hr _
      | some l =>
        obtain rfl := Language.ofName?_eq_some.mp hl
        cases hresult : (r.register load (.ofLanguage l)).result with
        | ok => exact absurd (hr.register_eq_ok.mp hresult) hoffered
        | error e =>
          simp only [hresult, registry_register_of_error hresult]
          exact ih hr _

end BuiltinOnly

theorem mem_of_mem_requested {languages experimental : List String} {n : String}
    (h : n ∈ requested languages experimental) : n ∈ languages ∨ n ∈ experimental := by
  rw [requested, List.mem_append, List.mem_eraseDups, List.mem_filter] at h
  exact h.imp_right And.left

namespace BuiltinOnly

variable {r : Registry} (hr : BuiltinOnly r)
include hr

theorem registerDefaults (load : Loader) (languages experimental : List String) :
    let returned := (requested languages experimental).filter (Language.Offered load ·)
    let done := r.registerDefaults load languages experimental
    done.result = .ok returned ∧ BuiltinOnly done.registry ∧
      ∀ n, n ∈ done.registry.languages ↔ n ∈ r.languages ∨ n ∈ returned := by
  rw [← wanted_eq_requested]
  obtain ⟨honly, hlist, hnames⟩ := hr.registerEach load (wanted languages experimental).1 {}
  exact ⟨congrArg Except.ok hlist, honly, hnames⟩

/-- The tags of a language lead to an adapter exactly if the language is registered. -/
theorem exists_resolve? {l : Language} {tag : String} (htag : tag = l.name ∨ tag ∈ l.aliases) :
    (∃ a, r.resolve? tag = some a) ↔ l.name ∈ r.languages := by
  rw [mem_languages, resolve?]
  rcases htag with rfl | htag
  · rw [hr.name_not_alias]
    cases r.adapters.get? l.name <;> simp
  · rw [hr.alias_not_name htag]
    constructor
    · rintro ⟨a, ha⟩
      obtain ⟨n, hn, ha⟩ := Option.bind_eq_some_iff.mp ha
      obtain ⟨m, rfl, hmem⟩ := hr.owner hn
      rw [Language.eq_of_mem_aliases htag hmem]
      exact ⟨a, ha⟩
    · rintro ⟨a, ha⟩
      have halias : r.aliases.get? tag = some l.name := by
        rw [hr.aliases, Language.aliasesOf_name]
        exact ⟨mem_languages.mpr ⟨a, ha⟩, htag⟩
      exact ⟨a, by rw [halias, Option.bind_some, ha]⟩

end BuiltinOnly

/-- Where only languages of the catalogue are registered, the defaults never fail. They name, in
order and as often as they were requested, the languages whose grammar can be used; these are added
with their aliases, and nothing else changes. What becomes of a language depends on its own grammar
alone, and Rust does not come unasked. -/
theorem registerDefaults_adds_offered (load : Loader) (languages experimental : List String)
    {r : Registry} (hr : BuiltinOnly r) :
    let returned := (requested languages experimental).filter (Language.Offered load ·)
    let after := (r.registerDefaults load languages experimental).registry
    (r.registerDefaults load languages experimental).result = .ok returned ∧
    BuiltinOnly after ∧
    (∀ n, n ∈ after.languages ↔ n ∈ r.languages ∨ n ∈ returned) ∧
    (∀ tag n, after.aliases.get? tag = some n ↔
      r.aliases.get? tag = some n ∨ n ∈ returned ∧ tag ∈ Language.aliasesOf n) ∧
    (∀ load' (l : Language), load' l.grammar = load l.grammar →
      ∃ returned', (r.registerDefaults load' languages experimental).result = .ok returned' ∧
        (l.name ∈ returned' ↔ l.name ∈ returned) ∧
        (l.name ∈ (r.registerDefaults load' languages experimental).registry.languages ↔
          l.name ∈ after.languages)) ∧
    ∀ tag, tag = "rust" ∨ tag = "rs" → r.resolve? tag = none →
      (∃ a, after.resolve? tag = some a) → "rust" ∈ languages ∨ "rust" ∈ experimental := by
  intro returned after
  obtain ⟨hresult, honly, hnames⟩ := hr.registerDefaults load languages experimental
  refine ⟨hresult, honly, hnames, ?_, ?_, ?_⟩
  · intro tag n
    rw [honly.aliases, hr.aliases, hnames, or_and_right]
  · intro load' l hload
    obtain ⟨hresult', -, hnames'⟩ := hr.registerDefaults load' languages experimental
    have hoffered : Language.Offered load' l.name ↔ Language.Offered load l.name := by
      rw [Language.offered_name, Language.offered_name, hload]
    have hmem : l.name ∈ (requested languages experimental).filter (Language.Offered load' ·) ↔
        l.name ∈ returned := by
      simp only [returned, List.mem_filter, decide_eq_true_eq, hoffered]
    exact ⟨_, hresult', hmem, by rw [hnames', hnames, hmem]⟩
  · intro tag htag hnone hsome
    have htag : tag = Language.rust.name ∨ tag ∈ Language.rust.aliases :=
      htag.imp_right List.mem_singleton.mpr
    have hold : Language.rust.name ∉ r.languages := by
      rw [← hr.exists_resolve? htag, hnone]
      simp
    rw [honly.exists_resolve? htag, hnames] at hsome
    exact mem_of_mem_requested (List.mem_of_mem_filter (hsome.resolve_left hold))

/-- The grammar of Python is missing, and all the others are as they come. -/
def withoutPython : Loader := fun name =>
  if name = "python" then .missing else Pack.bundled.loader name

/-- Python is registered already; among the names asked for, one comes twice, one is unknown and one
has lost its grammar. -/
theorem registerDefaults_adds_offered_withoutPython :
    let r := (({} : Registry).registerDefaults Pack.bundled.loader ["python"] []).registry
    let done := r.registerDefaults withoutPython ["c", "cobol", "python", "c"]
      ["go", "rust", "c", "rust"]
    BuiltinOnly r ∧ done.result = .ok ["c", "c", "rust"] ∧
      "python" ∈ done.registry.languages ∧ "javascript" ∉ done.registry.languages ∧
      done.registry.aliases.get? "rs" = some "rust" := by
  intro r done
  have hempty : BuiltinOnly {} := by
    constructor <;> simp [Dict.get?_nil, mem_languages]
  obtain ⟨-, hr, hnames, -⟩ := registerDefaults_adds_offered Pack.bundled.loader ["python"] [] hempty
  obtain ⟨hresult, -, hnames', haliases, -⟩ := registerDefaults_adds_offered withoutPython
    ["c", "cobol", "python", "c"] ["go", "rust", "c", "rust"] hr
  have hreturned : (requested ["c", "cobol", "python", "c"] ["go", "rust", "c", "rust"]).filter
      (Language.Offered withoutPython ·) = ["c", "c", "rust"] := by decide +kernel
  rw [hreturned] at hresult hnames' haliases
  have hfirst : (requested ["python"] []).filter (Language.Offered Pack.bundled.loader ·) =
      ["python"] := by decide +kernel
  rw [hfirst] at hnames
  refine ⟨hr, hresult, ?_, ?_, ?_⟩
  · rw [hnames', hnames]
    simp
  · rw [hnames', hnames]
    simp [mem_languages, Dict.get?_nil]
  · rw [haliases]
    exact .inr ⟨by simp, by decide⟩

end Registry
end Canopy
