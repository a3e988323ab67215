import Canopy.Proofs.Readiness
import Canopy.Proofs.Registration

namespace Canopy.Registry

/-- A language that is not there has no aliases either. -/
theorem Consistent.owner_ne_of_new {r : Registry} (hr : Consistent r) {name : String}
    (hnew : name ∉ r.languages) {tag owner : String} (h : r.aliases.get? tag = some owner) :
    owner ≠ name := by
  rintro rfl
  exact hnew (mem_languages.mpr (hr.owned tag owner h))

/-- Removing filters the aliases by their owner and adding binds them one by one. For a language that
was not there the two are inverse, down to the order of the bindings. -/
theorem Consistent.removing_adding {r : Registry} (hr : Consistent r) {a : Adapter}
    (hnew : a.name ∉ r.languages) (hfree : r.conflict? a.name a.ownAliases = none) :
    (r.adding a).removing a.name = r := by
  obtain ⟨-, htags⟩ := conflict?_eq_none.mp hfree
  have hadapters : (r.adapters.insert a.name a).erase a.name = r.adapters := by
    apply Dict.erase_insert_of_not_mem
    rwa [← mem_sortTexts]
  have hkept : r.aliases.filter (fun e => e.2 ≠ a.name) = r.aliases := by
    rw [List.filter_eq_self]
    rintro ⟨tag, owner⟩ hmem
    rw [decide_eq_true_eq]
    exact hr.owner_ne_of_new hnew ((Dict.get?_eq_some hr.alias_keys).mpr hmem)
  have haliases : (r.aliases.merge (a.ownAliases.map fun tag => (tag, a.name))).filter
      (fun e => e.2 ≠ a.name) = r.aliases := by
    rw [Dict.filter_merge_const, hkept]
    · simp
    · intro tag hmem owner howner
      simpa using (htags tag hmem).2 owner howner
  exact congrArg₂ Registry.mk hadapters haliases

theorem unregister_of_language {r : Registry} {name : String} (h : name ∈ r.languages) :
    (r.unregister name).result = .ok true ∧ (r.unregister name).registry = r.removing name := by
  have hname : r.adapters.contains name = true := Dict.contains_eq_true.mpr (mem_languages.mp h)
  simp [unregister, hname, removing]

/-- A tag leads to the adapters that stand under their names and have the tag as a name or alias. -/
theorem Consistent.resolve?_eq_some {r : Registry} (hr : Consistent r) {tag : String}
    {b : Adapter} :
    r.resolve? tag = some b ↔
      r.adapters.get? b.name = some b ∧ (tag = b.name ∨ r.aliases.get? tag = some b.name) := by
  constructor
  · intro h
    have hstands : r.StandsFor tag b.name := ⟨b, h, rfl⟩
    exact ⟨hr.get?_of_resolve? h, (hr.standsFor_iff.mp hstands).imp_left And.left⟩
  · rintro ⟨hb, rfl | halias⟩
    · exact resolve?_name hb
    · rw [hr.resolve?_alias halias, hb]

/-- Lookups after a language is gone are lookups before, less those that led to it. -/
theorem Consistent.resolve?_unregister {r : Registry} (hr : Consistent r) (name tag : String) :
    (r.unregister name).registry.resolve? tag = (r.resolve? tag).filter (·.name ≠ name) := by
  ext b
  rw [(hr.unregister name).resolve?_eq_some, Option.filter_eq_some_iff, hr.resolve?_eq_some,
    get?_adapters_unregister, hr.get?_aliases_unregister, decide_eq_true_eq]
  by_cases hb : b.name = name
  · simp [hb]
  · simp [hb, Ne.symm hb]

/-- After every run, unregistering undoes the registration of a language that was not there, and the
registry is what it was. Unregistering any language takes away the tags that led to it, leaves those
of the others with their adapters, and makes no new ones. -/
theorem run_unregister_undoes_register (ops : List Operation) :
    (∀ load a, a.name ∉ (run ops).languages → ((run ops).register load a).result = .ok () →
      let undone := ((run ops).register load a).registry.unregister a.name
      undone.result = .ok true ∧ undone.registry = run ops) ∧
    ∀ c ∈ (run ops).languages,
      let after := ((run ops).unregister c).registry
      ((run ops).unregister c).result = .ok true ∧
      (∀ tag b, after.resolve? tag = some b → b.name ≠ c) ∧
      (∀ tag b, (run ops).resolve? tag = some b → b.name ≠ c → after.resolve? tag = some b) ∧
      ∀ tag, (run ops).resolve? tag = none → after.resolve? tag = none := by
  have hr := consistent_run ops
  constructor
  · intro load a hnew hok
    have hfree := (register_eq_ok.mp hok).1
    have hadded : a.name ∈ ((run ops).adding (a.prepared load)).languages := by
      rw [mem_languages, get?_adapters_adding]
      exact ⟨_, if_pos rfl⟩
    obtain ⟨hresult, hregistry⟩ := unregister_of_language hadded
    rw [registry_register_of_ok hok]
    exact ⟨hresult, hregistry.trans (hr.removing_adding (a := a.prepared load) hnew hfree)⟩
  · intro c hc
    have hafter := hr.resolve?_unregister c
    refine ⟨(unregister_of_language hc).1, ?_, ?_, ?_⟩
    · intro tag b hb
      rw [hafter, Option.filter_eq_some_iff, decide_eq_true_eq] at hb
      exact hb.2
    · intro tag b hb hne
      rw [hafter, Option.filter_eq_some_iff, decide_eq_true_eq]
      exact ⟨hb, hne⟩
    · intro tag hnone
      rw [hafter, hnone, Option.filter_none]

/-- Zig is registered twice, the second time without the alias it had, beside Python. -/
def zigBesidePython : List Operation :=
  [.register Pack.bundled.loader (.ofLanguage .python),
    .register (fun _ => Pack.ofVersion 14) (.ofProfile (.custom "zig" (some ["z"]))),
    .register (fun _ => Pack.ofVersion 14) (.ofProfile (.custom "zig" (some ["zg"])))]

/-- JavaScript comes and goes without a trace, and with Zig both of its aliases go. -/
theorem run_unregister_undoes_register_zig :
    ((run zigBesidePython).register Pack.bundled.loader (.ofLanguage .javascript)).result = .ok () ∧
    (((run zigBesidePython).register Pack.bundled.loader
      (.ofLanguage .javascript)).registry.unregister "javascript").registry = run zigBesidePython ∧
    let after := ((run zigBesidePython).unregister "zig").registry
    ((run zigBesidePython).unregister "zig").result = .ok true ∧
      (∃ b, (run zigBesidePython).resolve? "z" = some b) ∧
      (∀ b, after.resolve? "z" = some b → b.name ≠ "zig") ∧
      (∀ b, after.resolve? "zg" = some b → b.name ≠ "zig") ∧
      ∃ b, after.resolve? "py" = some b := by
  obtain ⟨hundo, hremove⟩ := run_unregister_undoes_register zigBesidePython
  have hnew : (Adapter.ofLanguage .javascript).name ∉ (run zigBesidePython).languages := by
    rw [languages, mem_sortTexts]
    decide +kernel
  have hok : ((run zigBesidePython).register Pack.bundled.loader (.ofLanguage .javascript)).result =
      .ok () := by decide +kernel
  have hzig : "zig" ∈ (run zigBesidePython).languages := by
    rw [languages, mem_sortTexts]
    decide +kernel
  have hz : ((run zigBesidePython).resolve? "z").isSome = true := by decide +kernel
  have hpy : ((run zigBesidePython).resolve? "py").map Adapter.name = some "python" := by
    decide +kernel
  obtain ⟨b, hb, hname⟩ := Option.map_eq_some_iff.mp hpy
  obtain ⟨hresult, hgone, hkept, -⟩ := hremove "zig" hzig
  refine ⟨hok, (hundo _ _ hnew hok).2, hresult, Option.isSome_iff_exists.mp hz, hgone "z",
    hgone "zg", b, hkept "py" b hb ?_⟩
  rw [hname]
  decide

end Canopy.Registry
