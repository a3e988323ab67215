import Canopy.Proofs.RegistryLookup

namespace Canopy.Registry

/-- A registry and the adapters it has taken in since their languages were last removed, newest
first. An adapter stays in this list when another of its name takes its place. -/
structure Chronicle where
  registry : Registry := {}
  taken : List Adapter := []

namespace Chronicle

def register (load : Loader) (a : Adapter) (c : Chronicle) : Chronicle where
  registry := (c.registry.register load a).registry
  taken :=
    match (c.registry.register load a).result with
    | .ok () => a :: c.taken
    | .error _ => c.taken

def unregister (name : String) (c : Chronicle) : Chronicle where
  registry := (c.registry.unregister name).registry
  taken := c.taken.filter fun a => a.name ≠ name

def registerNames (load : Loader) (names : List String) (c : Chronicle) : Chronicle :=
  (names.filterMap Language.ofName?).foldl (fun c l => c.register load (.ofLanguage l)) c

def apply : Operation → Chronicle → Chronicle
  | .register load a, c => c.register load a
  | .unregister name, c => c.unregister name
  | .registerDefaults load languages experimental, c =>
    c.registerNames load (wanted languages experimental).1

end Chronicle

/-- The run of some operations with what it has taken in. -/
def chronicle (ops : List Operation) : Chronicle := ops.foldl (fun c op => c.apply op) {}

theorem registry_registerNames (load : Loader) (names : List String) (c : Chronicle)
    (tally : Tally) :
    (c.registerNames load names).registry = (c.registry.registerEach load tally names).1 := by
  induction names generalizing c tally with
  | nil => rfl
  | cons name rest ih =>
    rw [registerEach]
    cases hname : Language.ofName? name with
    | none =>
      rw [Chronicle.registerNames, List.filterMap_cons_none hname]
      exact ih c _
    | some l =>
      rw [Chronicle.registerNames, List.filterMap_cons_some hname, List.foldl_cons]
      exact ih (c.register load (.ofLanguage l)) _

/-- Keeping the chronicle does not change the run. -/
theorem registry_chronicle (ops : List Operation) : (chronicle ops).registry = run ops := by
  have hfrom : ∀ (ops : List Operation) (c : Chronicle),
      (ops.foldl (fun c op => c.apply op) c).registry = runFrom c.registry ops := by
    intro ops
    induction ops with
    | nil => intro c; rfl
    | cons op ops ih =>
      intro c
      rw [List.foldl_cons, ih, runFrom, runFrom, List.foldl_cons]
      congr 1
      cases op with
      | register load a => rfl
      | unregister name => rfl
      | registerDefaults load languages experimental =>
        exact registry_registerNames load _ c {}
  exact hfrom ops {}

/-- The alias table holds what the adapters taken in have declared, and the adapter of each language
is one of them. -/
structure Faithful (c : Chronicle) : Prop where
  consistent : Consistent c.registry
  alias_iff : ∀ tag n, c.registry.aliases.get? tag = some n ↔
    ∃ a ∈ c.taken, a.name = n ∧ tag ∈ a.ownAliases
  current : ∀ n b, c.registry.adapters.get? n = some b → ∃ a ∈ c.taken, a.profile = b.profile

theorem faithful_empty : Faithful {} where
  consistent := consistent_empty
  alias_iff tag n := by simp [Dict.get?_nil]
  current n b h := by simp [Dict.get?_nil] at h

theorem Faithful.register {c : Chronicle} (hc : Faithful c) (load : Loader) (a : Adapter) :
    Faithful (c.register load a) := by
  have hconsistent : Consistent (c.register load a).registry := hc.consistent.register load a
  rcases register_cases load a c.registry with ⟨e, hresult, hsame⟩ | ⟨hfree, -, hresult, hadded⟩
  · have htaken : (c.register load a).taken = c.taken := by simp [Chronicle.register, hresult]
    refine ⟨hconsistent, ?_, ?_⟩
    · intro tag n
      rw [htaken, ← hc.alias_iff, Chronicle.register, hsame]
    · intro n b hb
      rw [Chronicle.register, hsame] at hb
      rw [htaken]
      exact hc.current n b hb
  · have htaken : (c.register load a).taken = a :: c.taken := by simp [Chronicle.register, hresult]
    obtain ⟨-, htags⟩ := conflict?_eq_none.mp hfree
    refine ⟨hconsistent, ?_, ?_⟩
    · intro tag n
      rw [htaken, Chronicle.register, hadded, get?_aliases_adding, List.exists_mem_cons_iff,
        ← hc.alias_iff]
      change (if tag ∈ a.ownAliases then some a.name else _) = _ ↔ _
      by_cases hmem : tag ∈ a.ownAliases
      · rw [if_pos hmem, Option.some.injEq]
        constructor
        · intro h
          exact .inl ⟨h, hmem⟩
        · rintro (⟨h, -⟩ | h)
          · exact h
          · -- an earlier owner of the alias is the same language
            exact ((htags tag hmem).2 n h).symm
      · simp [hmem]
    · intro n b hb
      rw [Chronicle.register, hadded, get?_adapters_adding] at hb
      rw [htaken]
      split_ifs at hb
      · exact ⟨a, List.mem_cons_self, by rw [← Option.some.inj hb]⟩
      · obtain ⟨x, hx, hprofile⟩ := hc.current n b hb
        exact ⟨x, List.mem_cons_of_mem _ hx, hprofile⟩

theorem Faithful.unregister {c : Chronicle} (hc : Faithful c) (name : String) :
    Faithful (c.unregister name) := by
  have hkept : ∀ a, a ∈ (c.unregister name).taken ↔ a ∈ c.taken ∧ a.name ≠ name := by
    intro a
    simp [Chronicle.unregister]
  refine ⟨hc.consistent.unregister name, ?_, ?_⟩
  · intro tag n
    rw [Chronicle.unregister, hc.consistent.get?_aliases_unregister, hc.alias_iff]
    constructor
    · rintro ⟨⟨a, ha, rfl, hmem⟩, hne⟩
      exact ⟨a, (hkept a).mpr ⟨ha, hne⟩, rfl, hmem⟩
    · rintro ⟨a, ha, rfl, hmem⟩
      obtain ⟨ha, hne⟩ := (hkept a).mp ha
      exact ⟨⟨a, ha, rfl, hmem⟩, hne⟩
  · intro n b hb
    rw [Chronicle.unregister, get?_adapters_unregister] at hb
    split_ifs at hb with hne
    obtain ⟨a, ha, hprofile⟩ := hc.current n b hb
    have hname : a.name = n := by
      rw [Adapter.name, hprofile]
      exact hc.consistent.named n b hb
    exact ⟨a, (hkept a).mpr ⟨ha, fun h => hne (h.symm.trans hname)⟩, hprofile⟩

theorem Faithful.apply {c : Chronicle} (hc : Faithful c) (op : Operation) :
    Faithful (c.apply op) := by
  cases op with
  | register load a => exact hc.register load a
  | unregister name => exact hc.unregister name
  | registerDefaults load languages experimental =>
    rw [Chronicle.apply, Chronicle.registerNames]
    generalize (wanted languages experimental).1.filterMap Language.ofName? = ls
    induction ls generalizing c with
    | nil => exact hc
    | cons l ls ih => exact ih (hc.register load _)

theorem faithful_chronicle (ops : List Operation) : Faithful (chronicle ops) := by
  have hfrom : ∀ (ops : List Operation) (c : Chronicle), Faithful c →
      Faithful (ops.foldl (fun c op => c.apply op) c) := by
    intro ops
    induction ops with
    | nil => intro c hc; exact hc
    | cons op ops ih => intro c hc; exact ih _ (hc.apply op)
  exact hfrom ops {} faithful_empty

/-- The alias table says what the registered adapters say of themselves: it lists their aliases, no
tag leads to an adapter that does not declare it, and no declared alias is missing. -/
structure AliasesDeclared (r : Registry) : Prop where
  listed_iff : ∀ tag n, (tag, n) ∈ r.sortedAliases ↔ ∃ m ∈ r.languages, ∃ a,
    r.resolve? m = some a ∧ a.name = n ∧ tag ∈ a.profile.aliases ∧ tag ≠ a.name
  resolved : ∀ tag a, r.resolve? tag = some a → tag = a.name ∨ tag ∈ a.profile.aliases
  none_missing : ∀ m ∈ r.languages, ∀ a, r.resolve? m = some a →
    ∀ tag ∈ a.profile.aliases, r.resolve? tag = some a

/-- The adapter of each language declares the aliases of all those whose place it has taken. -/
def NoAliasDropped (ops : List Operation) : Prop :=
  ∀ a ∈ (chronicle ops).taken, ∀ b, (run ops).resolve? a.name = some b →
    ∀ tag ∈ a.profile.aliases, tag ≠ a.name → tag ∈ b.profile.aliases

/-- What a registered adapter declares is in the table. -/
theorem Faithful.declared_listed {c : Chronicle} (hc : Faithful c) {n tag : String} {b : Adapter}
    (hb : c.registry.adapters.get? n = some b) (htag : tag ∈ b.profile.aliases)
    (hne : tag ≠ b.name) : c.registry.aliases.get? tag = some n := by
  obtain ⟨a, ha, hprofile⟩ := hc.current n b hb
  have hname : a.name = b.name := congrArg Profile.name hprofile
  rw [hc.alias_iff]
  refine ⟨a, ha, hname.trans (hc.consistent.named n b hb), Adapter.mem_ownAliases.mpr ⟨?_, ?_⟩⟩
  · rw [hprofile]
    exact htag
  · rw [hname]
    exact hne

theorem Faithful.declared_resolves {c : Chronicle} (hc : Faithful c) {m tag : String} {a : Adapter}
    (ha : c.registry.adapters.get? m = some a) (htag : tag ∈ a.profile.aliases) :
    c.registry.resolve? tag = some a := by
  by_cases hname : tag = a.name
  · rw [hname, hc.consistent.named m a ha]
    exact resolve?_name ha
  · rw [hc.consistent.resolve?_alias (hc.declared_listed ha htag hname), ha]

/-- What an alias stands for is found among the adapters taken in. -/
theorem Faithful.alias_owner {c : Chronicle} (hc : Faithful c) {tag n : String}
    (h : c.registry.aliases.get? tag = some n) :
    ∃ a ∈ c.taken, a.name = n ∧ tag ∈ a.profile.aliases ∧ tag ≠ a.name ∧
      ∃ b, c.registry.adapters.get? n = some b ∧ b.name = n := by
  obtain ⟨a, ha, hname, hmem⟩ := (hc.alias_iff tag n).mp h
  obtain ⟨htag, hne⟩ := Adapter.mem_ownAliases.mp hmem
  obtain ⟨b, hb⟩ := hc.consistent.owned tag n h
  exact ⟨a, ha, hname, htag, hne, b, hb, hc.consistent.named n b hb⟩

theorem Faithful.aliasesDeclared {c : Chronicle} (hc : Faithful c)
    (hkept : ∀ a ∈ c.taken, ∀ b, c.registry.resolve? a.name = some b →
      ∀ tag ∈ a.profile.aliases, tag ≠ a.name → tag ∈ b.profile.aliases) :
    AliasesDeclared c.registry := by
  have howner : ∀ tag n, c.registry.aliases.get? tag = some n →
      ∃ b, c.registry.adapters.get? n = some b ∧ b.name = n ∧ tag ∈ b.profile.aliases ∧
        tag ≠ b.name := by
    intro tag n h
    obtain ⟨a, ha, rfl, htag, hne, b, hb, hname⟩ := hc.alias_owner h
    exact ⟨b, hb, hname, hkept a ha b (resolve?_name hb) tag htag hne, by rwa [hname]⟩
  refine ⟨?_, ?_, ?_⟩
  · intro tag n
    rw [hc.consistent.mem_sortedAliases]
    constructor
    · intro h
      obtain ⟨b, hb, hname, htag, hne⟩ := howner tag n h
      exact ⟨n, mem_languages.mpr ⟨b, hb⟩, b, resolve?_name hb, hname, htag, hne⟩
    · rintro ⟨m, hm, a, ha, rfl, htag, hne⟩
      have ha := get?_of_language hm ha
      rw [hc.consistent.named m a ha]
      exact hc.declared_listed ha htag hne
  · intro tag a ha
    cases hname : c.registry.adapters.get? tag with
    | some b =>
      obtain rfl : b = a := Option.some.inj ((resolve?_name hname).symm.trans ha)
      exact .inl (hc.consistent.named tag b hname).symm
    | none =>
      have hsome := hc.consistent.resolve?_isSome.mp (by rw [ha]; rfl)
      simp only [hname, reduceCtorEq, exists_false, false_or] at hsome
      obtain ⟨n, hn⟩ := hsome
      obtain ⟨b, hb, -, htag, -⟩ := howner tag n hn
      rw [hc.consistent.resolve?_alias hn, hb] at ha
      rw [← Option.some.inj ha]
      exact .inr htag
  · intro m hm a ha tag htag
    exact hc.declared_resolves (get?_of_language hm ha) htag

/-- The aliases after a run are those of all adapters it has taken in, also of those that were
replaced. They are the declared aliases of the registered adapters exactly if none of these lacks an
alias of one that it replaced; no declared alias is ever missing. -/
theorem run_aliases_of_all_taken (ops : List Operation) :
    (chronicle ops).registry = run ops ∧
    (∀ tag n, (tag, n) ∈ (run ops).sortedAliases ↔ ∃ a ∈ (chronicle ops).taken,
      a.name = n ∧ tag ∈ a.profile.aliases ∧ tag ≠ a.name) ∧
    (∀ m ∈ (run ops).languages, ∀ a, (run ops).resolve? m = some a →
      ∀ tag ∈ a.profile.aliases, (run ops).resolve? tag = some a) ∧
    (AliasesDeclared (run ops) ↔ NoAliasDropped ops) := by
  have hc := faithful_chronicle ops
  have hrun := registry_chronicle ops
  unfold NoAliasDropped
  rw [← hrun]
  refine ⟨rfl, ?_, ?_, ?_, ?_⟩
  · intro tag n
    rw [hc.consistent.mem_sortedAliases, hc.alias_iff]
    simp only [Adapter.mem_ownAliases]
  · intro m hm a ha tag htag
    exact hc.declared_resolves (get?_of_language hm ha) htag
  · intro h a ha b hb tag htag hne
    -- the alias of a replaced adapter leads to the one that took its place
    have hlisted : (chronicle ops).registry.aliases.get? tag = some a.name :=
      (hc.alias_iff tag a.name).mpr ⟨a, ha, rfl, Adapter.mem_ownAliases.mpr ⟨htag, hne⟩⟩
    obtain ⟨d, hd⟩ := hc.consistent.owned tag a.name hlisted
    obtain rfl : d = b := Option.some.inj ((resolve?_name hd).symm.trans hb)
    have htarget : (chronicle ops).registry.resolve? tag = some d := by
      rw [hc.consistent.resolve?_alias hlisted, hd]
    rcases h.resolved tag d htarget with hname | hmem
    · rw [hc.consistent.named _ d hd] at hname
      exact absurd hname hne
    · exact hmem
  · exact hc.aliasesDeclared

/-- A language comes with one alias and is replaced by an adapter with another. -/
def replacement : List Operation :=
  let load : Loader := fun _ => .loaded { attributes := [("abi_version", .int 14)] }
  [.register load (.ofProfile (.custom "zig" (some ["z"]))),
    .register load (.ofProfile (.custom "zig" (some ["zg"])))]

/-- The alias of the replaced adapter still leads to the language. -/
theorem replacement_keeps_old_alias : ¬ AliasesDeclared (run replacement) := by
  intro h
  have hold : ((run replacement).resolve? "z").map (fun a => (a.name, a.profile.aliases)) =
      some ("zig", ["zg"]) := by decide +kernel
  obtain ⟨a, ha, hpair⟩ := Option.map_eq_some_iff.mp hold
  obtain ⟨hname, haliases⟩ := Prod.mk.inj hpair
  rcases h.resolved "z" a ha with hz | hz
  · rw [hname] at hz
    exact absurd hz (by decide)
  · rw [haliases] at hz
    exact absurd hz (by decide)

end Canopy.Registry
