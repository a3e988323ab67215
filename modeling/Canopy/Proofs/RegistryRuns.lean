import Canopy.Proofs.Dict
import Canopy.Registry

namespace Canopy

theorem Adapter.mem_ownAliases {a : Adapter} {tag : String} :
    tag ∈ a.ownAliases ↔ tag ∈ a.profile.aliases ∧ tag ≠ a.name := by
  rw [ownAliases, mem_sortTexts, List.mem_filter, List.mem_eraseDups, decide_eq_true_eq]

namespace Registry

/-- What can be asked of a registry; the loader answers as it does at the time of the request. -/
inductive Operation where
  | register (load : Loader) (a : Adapter)
  | unregister (name : String)
  | registerDefaults (load : Loader) (languages experimental : List String)

def Operation.apply : Operation → Registry → Registry
  | .register load a, r => (r.register load a).registry
  | .unregister name, r => (r.unregister name).registry
  | .registerDefaults load languages experimental, r =>
    (r.registerDefaults load languages experimental).registry

/-- The registry after some operations, those that fail included. -/
def runFrom (r : Registry) (ops : List Operation) : Registry :=
  ops.foldl (fun r op => op.apply r) r

/-- A run starts with an empty registry. -/
def run (ops : List Operation) : Registry := runFrom {} ops

/-- An adapter under its name and its aliases, as a registration leaves it. -/
def adding (r : Registry) (a : Adapter) : Registry where
  adapters := r.adapters.insert a.name a
  aliases := r.aliases.merge (a.ownAliases.map fun tag => (tag, a.name))

/-- What remains without a language. -/
def removing (r : Registry) (name : String) : Registry where
  adapters := r.adapters.erase name
  aliases := r.aliases.filter fun e => e.2 ≠ name

theorem aliasConflict?_eq_none {r : Registry} {name : String} {tags : List String} :
    r.aliasConflict? name tags = none ↔ ∀ tag ∈ tags, r.adapters.get? tag = none ∧
      ∀ owner, r.aliases.get? tag = some owner → owner = name := by
  induction tags with
  | nil => simp [aliasConflict?]
  | cons tag rest ih =>
    rw [aliasConflict?, List.forall_mem_cons, ← ih]
    cases hname : r.adapters.contains tag with
    | true =>
      obtain ⟨a, ha⟩ := Dict.contains_eq_true.mp hname
      simp [ha]
    | false =>
      rw [Dict.contains_eq_false] at hname
      cases howner : r.aliases.get? tag with
      | none => simp [hname]
      | some owner => by_cases h : owner = name <;> simp [hname, h]

/-- The names of an adapter are free: its own is nobody's alias, and no alias is a name or stands
for another language. -/
theorem conflict?_eq_none {r : Registry} {name : String} {tags : List String} :
    r.conflict? name tags = none ↔
      (∀ owner, r.aliases.get? name = some owner → owner = name) ∧
      ∀ tag ∈ tags, r.adapters.get? tag = none ∧
        ∀ owner, r.aliases.get? tag = some owner → owner = name := by
  rw [conflict?, ← aliasConflict?_eq_none]
  cases howner : r.aliases.get? name with
  | none => simp
  | some owner => by_cases h : owner = name <;> simp [h]

/-- A registration either fails and changes nothing, or finds the names free and a parser, and adds
the adapter with the grammar that was loaded. -/
theorem register_cases (load : Loader) (a : Adapter) (r : Registry) :
    (∃ e, (r.register load a).result = .error e ∧ (r.register load a).registry = r) ∨
    (r.conflict? a.name a.ownAliases = none ∧
      (∃ g, (a.provider.createParser (load a.provider.grammar)).result = .ok g) ∧
      (r.register load a).result = .ok () ∧
      (r.register load a).registry = r.adding
        { a with provider := (a.provider.createParser (load a.provider.grammar)).provider }) := by
  cases hconflict : r.conflict? a.name a.ownAliases with
  | some c =>
    left
    exact ⟨.conflict c, by simp [register, hconflict], by simp [register, hconflict]⟩
  | none =>
    cases hmade : (a.provider.createParser (load a.provider.grammar)).result with
    | error fault =>
      left
      exact ⟨.grammar fault, by simp [register, hconflict, hmade],
        by simp [register, hconflict, hmade]⟩
    | ok g =>
      right
      refine ⟨rfl, ⟨g, rfl⟩, by simp [register, hconflict, hmade], ?_⟩
      simp only [register, hconflict, hmade]
      rfl

theorem unregister_registry (name : String) (r : Registry) :
    (r.unregister name).registry = if r.adapters.contains name then r.removing name else r := by
  unfold unregister
  split_ifs <;> rfl

/-- What every registration keeps, the built-in languages keep when they are registered in turn. -/
theorem registerEach_induction {P : Registry → Prop} {load : Loader}
    (hstep : ∀ r l, P r → P (r.register load (Adapter.ofLanguage l)).registry) (names : List String)
    (r : Registry) (tally : Tally) (h : P r) : P (r.registerEach load tally names).1 := by
  induction names generalizing r tally with
  | nil => exact h
  | cons name rest ih =>
    rw [registerEach]
    cases Language.ofName? name with
    | none => exact ih r _ h
    | some l => exact ih _ _ (hstep r l h)

/-- What holds of the empty registry and is kept by registering and unregistering holds after every
run. -/
theorem run_induction {P : Registry → Prop} (hempty : P {})
    (hregister : ∀ r load a, P r → P (r.register load a).registry)
    (hunregister : ∀ r name, P r → P (r.unregister name).registry) (ops : List Operation) :
    P (run ops) := by
  have hfrom : ∀ (ops : List Operation) (r : Registry), P r → P (runFrom r ops) := by
    intro ops
    induction ops with
    | nil => intro r h; exact h
    | cons op ops ih =>
      intro r h
      apply ih
      cases op with
      | register load a => exact hregister r load a h
      | unregister name => exact hunregister r name h
      | registerDefaults load languages experimental =>
        exact registerEach_induction (fun r l => hregister r load _) _ r _ h
  exact hfrom ops {} hempty

end Registry
end Canopy
