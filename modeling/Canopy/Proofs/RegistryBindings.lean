import Canopy.Grammar.Pack
import Canopy.Proofs.RegistryLookup

namespace Canopy.Registry

/-- Every name of one registry is a name in the other, and every alias stands for the same language
there. The adapters may be others. -/
structure Extends (r s : Registry) : Prop where
  names : ∀ n a, r.adapters.get? n = some a → ∃ b, s.adapters.get? n = some b
  tags : ∀ tag n, r.aliases.get? tag = some n → s.aliases.get? tag = some n

theorem Extends.refl (r : Registry) : Extends r r :=
  ⟨fun _ a h => ⟨a, h⟩, fun _ _ h => h⟩

theorem Extends.trans {r s t : Registry} (h : Extends r s) (h' : Extends s t) : Extends r t := by
  refine ⟨?_, fun tag n htag => h'.tags tag n (h.tags tag n htag)⟩
  intro n a ha
  obtain ⟨b, hb⟩ := h.names n a ha
  exact h'.names n b hb

/-- An adapter whose names are free takes no tag away from another language. -/
theorem extends_adding {r : Registry} {a : Adapter}
    (hfree : r.conflict? a.name a.ownAliases = none) : Extends r (r.adding a) := by
  obtain ⟨-, htags⟩ := conflict?_eq_none.mp hfree
  constructor
  · intro n b hb
    rw [get?_adapters_adding]
    split_ifs
    · exact ⟨a, rfl⟩
    · exact ⟨b, hb⟩
  · intro tag n hn
    rw [get?_aliases_adding]
    split_ifs with hmem
    · rw [(htags tag hmem).2 n hn]
    · exact hn

theorem extends_register (load : Loader) (a : Adapter) (r : Registry) :
    Extends r (r.register load a).registry := by
  rcases register_cases load a r with ⟨e, -, h⟩ | ⟨hfree, -, -, h⟩
  · rw [h]
    exact .refl r
  · rw [h]
    exact extends_adding hfree

theorem extends_registerEach (load : Loader) (names : List String) (r : Registry) (tally : Tally) :
    Extends r (r.registerEach load tally names).1 :=
  registerEach_induction (fun s _ hs => hs.trans (extends_register load _ s)) names r tally
    (.refl r)

theorem Consistent.apply {r : Registry} (hr : Consistent r) (op : Operation) :
    Consistent (op.apply r) := by
  cases op with
  | register load a => exact hr.register load a
  | unregister name => exact hr.unregister name
  | registerDefaults load languages experimental =>
    exact registerEach_induction (fun _ _ h => h.register load _) _ r _ hr

/-- A tag leads to an adapter of the language `c`. -/
def StandsFor (r : Registry) (tag c : String) : Prop := ∃ a, r.resolve? tag = some a ∧ a.name = c

/-- A tag stands for a language as its name or as its alias. -/
theorem Consistent.standsFor_iff {r : Registry} (hr : Consistent r) {tag c : String} :
    r.StandsFor tag c ↔
      (tag = c ∧ ∃ a, r.adapters.get? c = some a) ∨ r.aliases.get? tag = some c := by
  constructor
  · rintro ⟨a, ha, rfl⟩
    cases htag : r.adapters.get? tag with
    | some b =>
      obtain rfl : b = a := by simpa [resolve?, htag] using ha
      have hname := hr.named tag b htag
      exact .inl ⟨hname.symm, b, by rwa [hname]⟩
    | none =>
      simp only [resolve?, htag, Option.bind_eq_some_iff] at ha
      obtain ⟨n, halias, hn⟩ := ha
      rw [hr.named n a hn]
      exact .inr halias
  · rintro (⟨rfl, a, ha⟩ | halias)
    · exact ⟨a, resolve?_name ha, hr.named tag a ha⟩
    · obtain ⟨a, ha⟩ := hr.owned tag c halias
      exact ⟨a, by rw [hr.resolve?_alias halias, ha], hr.named c a ha⟩

theorem StandsFor.extends {r s : Registry} (hr : Consistent r) (hs : Consistent s)
    (hext : Extends r s) {tag c : String} (h : r.StandsFor tag c) : s.StandsFor tag c := by
  rw [hr.standsFor_iff] at h
  rw [hs.standsFor_iff]
  rcases h with ⟨htag, a, ha⟩ | halias
  · exact .inl ⟨htag, hext.names c a ha⟩
  · exact .inr (hext.tags tag c halias)

theorem StandsFor.unregister {r : Registry} (hr : Consistent r) {tag c name : String}
    (hne : name ≠ c) (h : r.StandsFor tag c) : (r.unregister name).registry.StandsFor tag c := by
  rw [hr.standsFor_iff] at h
  rw [(hr.unregister name).standsFor_iff, get?_adapters_unregister, if_neg hne,
    hr.get?_aliases_unregister]
  rcases h with hname | halias
  · exact .inl hname
  · exact .inr ⟨halias, Ne.symm hne⟩

/-- One operation leaves a tag with its language, unless it removes that language. -/
theorem StandsFor.apply {r : Registry} (hr : Consistent r) {tag c : String} {op : Operation}
    (hop : op ≠ .unregister c) (h : r.StandsFor tag c) : (op.apply r).StandsFor tag c := by
  have hafter := hr.apply op
  cases op with
  | register load a => exact h.extends hr hafter (extends_register load a r)
  | unregister name =>
    have hne : name ≠ c := fun heq => hop (congrArg Operation.unregister heq)
    exact h.unregister hr hne
  | registerDefaults load languages experimental =>
    exact h.extends hr hafter (extends_registerEach load _ r {})

theorem StandsFor.runFrom {r : Registry} (hr : Consistent r) {tag c : String}
    {later : List Operation} (hlater : .unregister c ∉ later) (h : r.StandsFor tag c) :
    (r.runFrom later).StandsFor tag c := by
  induction later generalizing r with
  | nil => exact h
  | cons op later ih =>
    rw [List.mem_cons, not_or] at hlater
    exact ih (hr.apply op) hlater.2 (h.apply hr (Ne.symm hlater.1))

/-- After every run, a tag that stands for a language goes on to stand for it until that language is
unregistered: under each single operation, and under all operations that follow. -/
theorem run_tag_keeps_language (ops : List Operation) {tag : String} {a : Adapter}
    (h : (run ops).resolve? tag = some a) :
    (∀ op : Operation, op ≠ .unregister a.name →
      ∃ b, (op.apply (run ops)).resolve? tag = some b ∧ b.name = a.name) ∧
    (∀ later, .unregister a.name ∉ later →
      ∃ b, ((run ops).runFrom later).resolve? tag = some b ∧ b.name = a.name) ∧
    ∀ later b, ((run ops).runFrom later).resolve? tag = some b → b.name ≠ a.name →
      .unregister a.name ∈ later := by
  have hr := consistent_run ops
  have hstands : (run ops).StandsFor tag a.name := ⟨a, h, rfl⟩
  refine ⟨fun op hop => hstands.apply hr hop, fun later => hstands.runFrom hr, ?_⟩
  intro later b hb hne
  by_contra hlater
  obtain ⟨d, hd, hname⟩ := hstands.runFrom hr hlater
  obtain rfl : d = b := Option.some.inj (hd.symm.trans hb)
  exact hne hname

/-- Others try to take the tag `py` as a name and as an alias, `py` itself is unregistered, and
Python is registered anew while its grammar is missing and with all the defaults. -/
def attemptsOnPy : List Operation :=
  [.register Pack.bundled.loader (.ofProfile (.custom "py" none)),
    .register (fun _ => Pack.ofVersion 14) (.ofProfile (.custom "snake" (some ["py"]))),
    .unregister "py", .register (fun _ => .missing) (.ofLanguage .python),
    .registerDefaults Pack.bundled.loader ["c", "python"] ["rust"]]

theorem run_tag_keeps_language_attemptsOnPy :
    ∃ b, ((run [.register Pack.bundled.loader (.ofLanguage .python)]).runFrom
      attemptsOnPy).resolve? "py" = some b ∧ b.name = "python" := by
  have hbound : ((run [.register Pack.bundled.loader (.ofLanguage .python)]).resolve? "py").map
      Adapter.name = some "python" := by decide +kernel
  obtain ⟨a, ha, hname⟩ := Option.map_eq_some_iff.mp hbound
  rw [← hname]
  refine (run_tag_keeps_language _ ha).2.1 attemptsOnPy ?_
  rw [hname]
  simp [attemptsOnPy]

end Canopy.Registry
