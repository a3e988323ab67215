import Canopy.Ast.Build
import Canopy.Proofs.RegistryRuns

namespace Canopy.Registry

/-- What holds between the two tables of a registry: adapters stand under their own names, aliases
stand for names, and no tag is both. No table has a key twice. -/
structure Consistent (r : Registry) : Prop where
  named : ∀ n a, r.adapters.get? n = some a → a.name = n
  owned : ∀ tag n, r.aliases.get? tag = some n → ∃ a, r.adapters.get? n = some a
  apart : ∀ tag n, r.aliases.get? tag = some n → r.adapters.get? tag = none
  adapter_keys : r.adapters.keys.Nodup
  alias_keys : r.aliases.keys.Nodup

theorem consistent_empty : Consistent {} where
  named n a h := by simp [Dict.get?_nil] at h
  owned tag n h := by simp [Dict.get?_nil] at h
  apart tag n h := by simp [Dict.get?_nil] at h
  adapter_keys := List.nodup_nil
  alias_keys := List.nodup_nil

theorem get?_adapters_adding (r : Registry) (a : Adapter) (n : String) :
    (r.adding a).adapters.get? n = if a.name = n then some a else r.adapters.get? n :=
  Dict.get?_insert _ _ _ _

theorem get?_aliases_adding (r : Registry) (a : Adapter) (tag : String) :
    (r.adding a).aliases.get? tag =
      if tag ∈ a.ownAliases then some a.name else r.aliases.get? tag :=
  Dict.get?_merge_const _ _ _ _

theorem get?_adapters_removing (r : Registry) (name n : String) :
    (r.removing name).adapters.get? n = if name = n then none else r.adapters.get? n :=
  Dict.get?_erase _ _ _

/-- A language's own name is nobody's alias, not even its own. -/
theorem Consistent.name_not_alias {r : Registry} (hr : Consistent r) {name : String}
    (hfree : ∀ owner, r.aliases.get? name = some owner → owner = name) :
    r.aliases.get? name = none := by
  cases howner : r.aliases.get? name with
  | none => rfl
  | some owner =>
    obtain rfl := hfree owner howner
    obtain ⟨a, ha⟩ := hr.owned owner owner howner
    rw [hr.apart owner owner howner] at ha
    exact absurd ha (by simp)

theorem Consistent.adding {r : Registry} (hr : Consistent r) {a : Adapter}
    (hfree : r.conflict? a.name a.ownAliases = none) : Consistent (r.adding a) := by
  obtain ⟨hname, htags⟩ := conflict?_eq_none.mp hfree
  have hname := hr.name_not_alias hname
  refine ⟨?_, ?_, ?_, Dict.nodup_keys_insert hr.adapter_keys _ _,
    Dict.nodup_keys_merge hr.alias_keys _⟩
  · intro n b hb
    rw [get?_adapters_adding] at hb
    split_ifs at hb with h
    · rw [← Option.some.inj hb]
      exact h
    · exact hr.named n b hb
  · intro tag n h
    rw [get?_aliases_adding] at h
    rw [get?_adapters_adding]
    split_ifs at h with hmem
    · rw [if_pos (Option.some.inj h)]
      exact ⟨a, rfl⟩
    · obtain ⟨b, hb⟩ := hr.owned tag n h
      split_ifs
      · exact ⟨a, rfl⟩
      · exact ⟨b, hb⟩
  · intro tag n h
    rw [get?_aliases_adding] at h
    rw [get?_adapters_adding]
    split_ifs at h with hmem
    · -- a new alias was checked against the names, and is not the adapter's own
      rw [if_neg (Ne.symm (Adapter.mem_ownAliases.mp hmem).2)]
      exact (htags tag hmem).1
    · rw [if_neg]
      · exact hr.apart tag n h
      · rintro rfl
        rw [hname] at h
        exact absurd h (by simp)

theorem get?_adapters_unregister (r : Registry) (name n : String) :
    (r.unregister name).registry.adapters.get? n =
      if name = n then none else r.adapters.get? n := by
  rw [unregister_registry]
  split_ifs with hname h h
  · rw [get?_adapters_removing, if_pos h]
  · rw [get?_adapters_removing, if_neg h]
  · rw [Bool.not_eq_true, Dict.contains_eq_false] at hname
    rw [← h, hname]
  · rfl

/-- Unregistering takes away the aliases of the language and no others. -/
theorem Consistent.get?_aliases_unregister {r : Registry} (hr : Consistent r)
    (name tag n : String) :
    (r.unregister name).registry.aliases.get? tag = some n ↔
      r.aliases.get? tag = some n ∧ n ≠ name := by
  rw [unregister_registry]
  split_ifs with hname
  · rw [removing, Dict.get?_filter hr.alias_keys, decide_eq_true_eq]
  · -- a language that is not there has no aliases to lose
    rw [Bool.not_eq_true, Dict.contains_eq_false] at hname
    constructor
    · intro h
      refine ⟨h, ?_⟩
      rintro rfl
      obtain ⟨a, ha⟩ := hr.owned tag n h
      rw [hname] at ha
      exact absurd ha (by simp)
    · exact And.left

theorem Consistent.register {r : Registry} (hr : Consistent r) (load : Loader) (a : Adapter) :
    Consistent (r.register load a).registry := by
  rcases register_cases load a r with ⟨e, -, h⟩ | ⟨hfree, -, -, h⟩
  · rw [h]
    exact hr
  · rw [h]
    exact hr.adding hfree

theorem Consistent.unregister {r : Registry} (hr : Consistent r) (name : String) :
    Consistent (r.unregister name).registry := by
  refine ⟨?_, ?_, ?_, ?_, ?_⟩
  · intro n a ha
    rw [get?_adapters_unregister] at ha
    split_ifs at ha
    exact hr.named n a ha
  · intro tag n h
    obtain ⟨hold, hne⟩ := (hr.get?_aliases_unregister name tag n).mp h
    rw [get?_adapters_unregister, if_neg (Ne.symm hne)]
    exact hr.owned tag n hold
  · intro tag n h
    rw [get?_adapters_unregister]
    split_ifs
    · rfl
    · exact hr.apart tag n ((hr.get?_aliases_unregister name tag n).mp h).1
  · rw [unregister_registry]
    split_ifs
    · exact Dict.nodup_keys_filter hr.adapter_keys _
    · exact hr.adapter_keys
  · rw [unregister_registry]
    split_ifs
    · exact Dict.nodup_keys_filter hr.alias_keys _
    · exact hr.alias_keys

theorem consistent_run (ops : List Operation) : Consistent (run ops) :=
  run_induction consistent_empty (fun _ load a h => h.register load a)
    (fun _ name h => h.unregister name) ops

theorem mem_languages {r : Registry} {n : String} :
    n ∈ r.languages ↔ ∃ a, r.adapters.get? n = some a := by
  rw [languages, mem_sortTexts, Dict.mem_keys, Option.isSome_iff_exists]

theorem Consistent.mem_sortedAliases {r : Registry} (hr : Consistent r) {tag n : String} :
    (tag, n) ∈ r.sortedAliases ↔ r.aliases.get? tag = some n := by
  rw [sortedAliases, (Dict.sorted_perm r.aliases).mem_iff, Dict.get?_eq_some hr.alias_keys]

theorem resolve?_name {r : Registry} {n : String} {a : Adapter} (h : r.adapters.get? n = some a) :
    r.resolve? n = some a := by
  simp [resolve?, h]

/-- A name leads to the adapter that stands under it. -/
theorem get?_of_language {r : Registry} {n : String} {a : Adapter} (hn : n ∈ r.languages)
    (ha : r.resolve? n = some a) : r.adapters.get? n = some a := by
  obtain ⟨b, hb⟩ := mem_languages.mp hn
  rw [hb, ← resolve?_name hb, ha]

theorem Consistent.resolve?_alias {r : Registry} (hr : Consistent r) {tag n : String}
    (h : r.aliases.get? tag = some n) : r.resolve? tag = r.adapters.get? n := by
  simp [resolve?, hr.apart tag n h, h]

/-- A tag has an adapter exactly if one of the two tables has it. -/
theorem Consistent.resolve?_isSome {r : Registry} (hr : Consistent r) {tag : String} :
    (r.resolve? tag).isSome ↔
      (∃ a, r.adapters.get? tag = some a) ∨ ∃ n, r.aliases.get? tag = some n := by
  cases ha : r.adapters.get? tag with
  | some a => simp [resolve?, ha]
  | none =>
    cases hn : r.aliases.get? tag with
    | none => simp [resolve?, ha, hn]
    | some n =>
      obtain ⟨a, hown⟩ := hr.owned tag n hn
      simp [hr.resolve?_alias hn, hown]

theorem require_eq_ok {r : Registry} {tag : String} {a : Adapter} :
    r.require tag = .ok a ↔ r.resolve? tag = some a := by
  unfold require
  cases r.resolve? tag <;> simp

/-- An alias and its language lead to the same build. -/
theorem Consistent.parseSource_alias {r : Registry} (hr : Consistent r) {tag n : String}
    (h : r.aliases.get? tag = some n) (world : Ast.World) (options : BuildOptions)
    (source : Bytes) :
    Ast.parseSource world options source tag r = Ast.parseSource world options source n r := by
  obtain ⟨a, ha⟩ := hr.owned tag n h
  have htag : r.require tag = .ok a := by rw [require_eq_ok, hr.resolve?_alias h, ha]
  have hname : r.require n = .ok a := by rw [require_eq_ok, resolve?_name ha]
  have hlogs : r.resolveLogs tag = r.resolveLogs n := by
    simp [resolveLogs, Dict.contains, h, ha]
  simp only [Ast.parseSource, htag, hname, hlogs]

/-- The ways to look up a tag tell the same. -/
structure LookupsAgree (r : Registry) : Prop where
  contains_iff : ∀ tag, r.contains tag = true ↔ tag ∈ r.languages ∨ tag ∈ r.sortedAliases.keys
  resolve?_iff : ∀ tag,
    (∃ a, r.resolve? tag = some a) ↔ tag ∈ r.languages ∨ tag ∈ r.sortedAliases.keys
  require_iff : ∀ tag a, r.require tag = .ok a ↔ r.resolve? tag = some a
  language_name : ∀ n ∈ r.languages, ∃ a, r.resolve? n = some a ∧ a.name = n
  alias_target : ∀ tag n, r.sortedAliases.get? tag = some n →
    ∃ a, r.resolve? tag = some a ∧ r.resolve? n = some a
  alias_parses : ∀ tag n, r.sortedAliases.get? tag = some n → ∀ world options source,
    Ast.parseSource world options source tag r = Ast.parseSource world options source n r

theorem Consistent.lookupsAgree {r : Registry} (hr : Consistent r) : LookupsAgree r := by
  have hiff : ∀ tag, (r.resolve? tag).isSome ↔
      tag ∈ r.languages ∨ tag ∈ r.sortedAliases.keys := by
    intro tag
    rw [hr.resolve?_isSome, mem_languages, sortedAliases, Dict.mem_keys_sorted, Dict.mem_keys,
      Option.isSome_iff_exists]
  have halias : ∀ tag, r.sortedAliases.get? tag = r.aliases.get? tag :=
    Dict.get?_sorted hr.alias_keys
  refine ⟨hiff, ?_, ?_, ?_, ?_, ?_⟩
  · intro tag
    rw [← hiff, Option.isSome_iff_exists]
  · intro tag a
    exact require_eq_ok
  · intro n hn
    obtain ⟨a, ha⟩ := mem_languages.mp hn
    exact ⟨a, resolve?_name ha, hr.named n a ha⟩
  · intro tag n h
    rw [halias] at h
    obtain ⟨a, ha⟩ := hr.owned tag n h
    exact ⟨a, by rw [hr.resolve?_alias h, ha], resolve?_name ha⟩
  · intro tag n h
    rw [halias] at h
    exact hr.parseSource_alias h

/-- After every run of operations, failed ones included, the tables fit together and all lookups
agree. -/
theorem run_consistent_lookupsAgree (ops : List Operation) :
    Consistent (run ops) ∧ LookupsAgree (run ops) :=
  ⟨consistent_run ops, (consistent_run ops).lookupsAgree⟩

end Canopy.Registry
