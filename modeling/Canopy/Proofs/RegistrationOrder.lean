import Canopy.Proofs.Registration

namespace Canopy.Registry

/-- Two registries with the same bindings in both tables. The bindings may have come in another
order. -/
structure SameTables (r s : Registry) : Prop where
  adapters : ∀ n, r.adapters.get? n = s.adapters.get? n
  aliases : ∀ tag, r.aliases.get? tag = s.aliases.get? tag

theorem SameTables.resolve? {r s : Registry} (h : SameTables r s) (tag : String) :
    r.resolve? tag = s.resolve? tag := by
  unfold Registry.resolve?
  rw [h.adapters, h.aliases, funext h.adapters]

theorem SameTables.languages {r s : Registry} (hr : Consistent r) (hs : Consistent s)
    (h : SameTables r s) : r.languages = s.languages :=
  sortTexts_eq_of_perm
    ((Dict.perm_of_get?_eq hr.adapter_keys hs.adapter_keys h.adapters).map Prod.fst)

theorem SameTables.sortedAliases {r s : Registry} (hr : Consistent r) (hs : Consistent s)
    (h : SameTables r s) : r.sortedAliases = s.sortedAliases :=
  Dict.sorted_eq_of_perm hr.alias_keys
    (Dict.perm_of_get?_eq hr.alias_keys hs.alias_keys h.aliases)

/-- Neither adapter claims the name of the other, and they claim no alias both. -/
def NamesApart (a b : Adapter) : Prop :=
  a.name ∉ b.ownAliases ∧ b.name ∉ a.ownAliases ∧ ∀ tag ∈ a.ownAliases, tag ∉ b.ownAliases

theorem NamesApart.symm {a b : Adapter} (h : NamesApart a b) : NamesApart b a :=
  ⟨h.2.1, h.1, fun tag hb ha => h.2.2 tag ha hb⟩

/-- The names of a second adapter are free after a first one exactly if they were free before and
the two do not meet. Each way in which they can meet is found by another check. -/
theorem conflict?_adding_eq_none {r : Registry} {a b : Adapter} (hne : a.name ≠ b.name) :
    (r.adding a).conflict? b.name b.ownAliases = none ↔
      r.conflict? b.name b.ownAliases = none ∧ NamesApart a b := by
  simp only [conflict?_eq_none, get?_adapters_adding, get?_aliases_adding]
  constructor
  · rintro ⟨hname, htags⟩
    have hright : b.name ∉ a.ownAliases := fun hmem => hne (hname a.name (if_pos hmem))
    have hleft : a.name ∉ b.ownAliases := fun hmem => by simpa using (htags a.name hmem).1
    have hdisjoint : ∀ tag ∈ a.ownAliases, tag ∉ b.ownAliases := fun tag ha hb =>
      hne ((htags tag hb).2 a.name (if_pos ha))
    refine ⟨⟨?_, ?_⟩, hleft, hright, hdisjoint⟩
    · rwa [if_neg hright] at hname
    · intro tag hmem
      have hother : a.name ≠ tag := fun heq => hleft (heq ▸ hmem)
      have htag := htags tag hmem
      rwa [if_neg hother, if_neg fun ha => hdisjoint tag ha hmem] at htag
  · rintro ⟨⟨hname, htags⟩, hleft, hright, hdisjoint⟩
    refine ⟨?_, ?_⟩
    · rwa [if_neg hright]
    · intro tag hmem
      have hother : a.name ≠ tag := fun heq => hleft (heq ▸ hmem)
      rw [if_neg hother, if_neg fun ha => hdisjoint tag ha hmem]
      exact htags tag hmem

/-- Two adapters are registered one after the other, each with what its loader answers. -/
def BothRegister (r : Registry) (load : Loader) (a : Adapter) (load' : Loader) (b : Adapter) :
    Prop :=
  (r.register load a).result = .ok () ∧
    ((r.register load a).registry.register load' b).result = .ok ()

/-- What two registrations ask for does not depend on their order. -/
theorem bothRegister_iff {r : Registry} {a b : Adapter} (hne : a.name ≠ b.name)
    {load load' : Loader} :
    r.BothRegister load a load' b ↔
      ((r.register load a).result = .ok () ∧ (r.register load' b).result = .ok ()) ∧
        NamesApart a b := by
  have hsecond : (r.register load a).result = .ok () →
      (((r.register load a).registry.register load' b).result = .ok () ↔
        (r.register load' b).result = .ok () ∧ NamesApart a b) := by
    intro hok
    rw [registry_register_of_ok hok, register_eq_ok, register_eq_ok]
    have hadding : (r.adding (a.prepared load)).conflict? b.name b.ownAliases = none ↔
        r.conflict? b.name b.ownAliases = none ∧ NamesApart a b :=
      conflict?_adding_eq_none (a := a.prepared load) hne
    rw [hadding, and_right_comm]
  constructor
  · rintro ⟨hfirst, hthen⟩
    obtain ⟨hother, hapart⟩ := (hsecond hfirst).mp hthen
    exact ⟨⟨hfirst, hother⟩, hapart⟩
  · rintro ⟨⟨hfirst, hother⟩, hapart⟩
    exact ⟨hfirst, (hsecond hfirst).mpr ⟨hother, hapart⟩⟩

theorem bothRegister_comm {r : Registry} {a b : Adapter} (hne : a.name ≠ b.name)
    {load load' : Loader} : r.BothRegister load a load' b ↔ r.BothRegister load' b load a := by
  rw [bothRegister_iff hne, bothRegister_iff (Ne.symm hne)]
  constructor
  · rintro ⟨⟨ha, hb⟩, hapart⟩
    exact ⟨⟨hb, ha⟩, hapart.symm⟩
  · rintro ⟨⟨hb, ha⟩, hapart⟩
    exact ⟨⟨ha, hb⟩, hapart.symm⟩

theorem sameTables_adding_adding {r : Registry} {a b : Adapter} (hne : a.name ≠ b.name)
    (hapart : NamesApart a b) :
    SameTables ((r.adding a).adding b) ((r.adding b).adding a) := by
  constructor
  · intro n
    simp only [get?_adapters_adding]
    by_cases ha : a.name = n
    · rw [if_neg (fun hb => hne (ha.trans hb.symm)), if_pos ha, if_pos ha]
    · rw [if_neg ha, if_neg ha]
  · intro tag
    simp only [get?_aliases_adding]
    by_cases ha : tag ∈ a.ownAliases
    · rw [if_neg (hapart.2.2 tag ha), if_pos ha, if_pos ha]
    · rw [if_neg ha, if_neg ha]

theorem BothRegister.sameTables {r : Registry} {a b : Adapter} (hne : a.name ≠ b.name)
    {load load' : Loader} (h : r.BothRegister load a load' b) :
    SameTables ((r.register load a).registry.register load' b).registry
      ((r.register load' b).registry.register load a).registry := by
  have hreverse := (bothRegister_comm hne).mp h
  rw [registry_register_of_ok h.2, registry_register_of_ok h.1, registry_register_of_ok hreverse.2,
    registry_register_of_ok hreverse.1]
  exact sameTables_adding_adding (a := a.prepared load) (b := b.prepared load') hne
    ((bothRegister_iff hne).mp h).2

/-- After every run, two adapters of different languages can be registered in one order exactly if
they can in the other, and then the order leaves no trace in any answer of the registry. -/
theorem run_register_order (ops : List Operation) (load load' : Loader) {a b : Adapter}
    (hne : a.name ≠ b.name) :
    ((run ops).BothRegister load a load' b ↔ (run ops).BothRegister load' b load a) ∧
    ((run ops).BothRegister load a load' b →
      let left := (((run ops).register load a).registry.register load' b).registry
      let right := (((run ops).register load' b).registry.register load a).registry
      SameTables left right ∧ left.languages = right.languages ∧
        left.sortedAliases = right.sortedAliases ∧
        ∀ tag, left.resolve? tag = right.resolve? tag) := by
  refine ⟨bothRegister_comm hne, fun hboth => ?_⟩
  have hr := consistent_run ops
  have hleft := (hr.register load a).register load' b
  have hright := (hr.register load' b).register load a
  have hsame := hboth.sameTables hne
  exact ⟨hsame, hsame.languages hleft hright, hsame.sortedAliases hleft hright, hsame.resolve?⟩

/-- A language of one's own whose name is among its aliases. -/
def zig : Adapter := .ofProfile (.custom "zig" (some ["zig", "z"]))

/-- Python is there already when that language and JavaScript come, each with a loader of its own.
All three are there in the end, with their aliases. -/
theorem run_register_order_zig_javascript :
    let r := run [.register Pack.bundled.loader (.ofLanguage .python)]
    let load : Loader := fun _ => Pack.ofVersion 13
    zig.name ≠ (Adapter.ofLanguage .javascript).name ∧
    r.BothRegister Pack.bundled.loader (.ofLanguage .javascript) load zig ∧
    let left := ((r.register load zig).registry.register Pack.bundled.loader
      (.ofLanguage .javascript)).registry
    let right := ((r.register Pack.bundled.loader (.ofLanguage .javascript)).registry.register load
      zig).registry
    left.adapters.keys = ["python", "zig", "javascript"] ∧
      left.aliases = [("py", "python"), ("z", "zig"), ("js", "javascript")] ∧
      right.adapters.keys = ["python", "javascript", "zig"] ∧
      left.languages = right.languages ∧ left.sortedAliases = right.sortedAliases := by
  have hne : zig.name ≠ (Adapter.ofLanguage .javascript).name := by decide
  have hboth : (run [.register Pack.bundled.loader (.ofLanguage .python)]).BothRegister
      (fun _ => Pack.ofVersion 13) zig Pack.bundled.loader (.ofLanguage .javascript) := by
    constructor <;> decide +kernel
  obtain ⟨hcomm, hsame⟩ := run_register_order
    [.register Pack.bundled.loader (.ofLanguage .python)] (fun _ => Pack.ofVersion 13)
    Pack.bundled.loader hne
  obtain ⟨-, hlanguages, haliases, -⟩ := hsame hboth
  exact ⟨hne, hcomm.mp hboth, by decide +kernel, by decide +kernel, by decide +kernel, hlanguages,
    haliases⟩

end Canopy.Registry
