import Canopy.Proofs.Ancestry
import Canopy.Proofs.NodeTraits

namespace Canopy

/-- A way to climb a syntax tree: which node is the parent of another, and what its type is. -/
structure Ascent (α : Type) where
  IsParent : α → α → Prop
  HasType : α → String → Prop

namespace Ascent

/-- The block of a class holds a node, directly or in a decorated definition. -/
def InClassBlock {α : Type} (a : Ascent α) (x : α) : Prop :=
  ∃ block owner,
    (a.IsParent block x ∨
      ∃ up, a.IsParent up x ∧ a.HasType up "decorated_definition" ∧ a.IsParent block up) ∧
    a.HasType block "block" ∧ a.IsParent owner block ∧ a.HasType owner "class_definition"

/-- Climbing by `a` can be followed by `b`: related nodes have related parents and equal types. -/
structure Follows {α β : Type} (a : Ascent α) (b : Ascent β) (R : α → β → Prop) : Prop where
  parent : ∀ x y u, R x y → a.IsParent u x → ∃ v, R u v ∧ b.IsParent v y
  type : ∀ x y type, R x y → a.HasType x type → b.HasType y type

theorem Follows.inClassBlock {α β : Type} {a : Ascent α} {b : Ascent β} {R : α → β → Prop}
    (hab : Follows a b R) {x : α} {y : β} (h : R x y) (hx : a.InClassBlock x) :
    b.InClassBlock y := by
  obtain ⟨block, owner, hstep, hblock, hparent, howner⟩ := hx
  obtain ⟨block', hrelated, hstep'⟩ : ∃ block', R block block' ∧
      (b.IsParent block' y ∨ ∃ up, b.IsParent up y ∧ b.HasType up "decorated_definition" ∧
        b.IsParent block' up) := by
    rcases hstep with hdirect | ⟨up, hdirect, htype, hfurther⟩
    · obtain ⟨block', hrelated, hdirect'⟩ := hab.parent x y block h hdirect
      exact ⟨block', hrelated, .inl hdirect'⟩
    · obtain ⟨up', hup, hdirect'⟩ := hab.parent x y up h hdirect
      obtain ⟨block', hrelated, hfurther'⟩ := hab.parent up up' block hup hfurther
      exact ⟨block', hrelated, .inr ⟨up', hdirect', hab.type up up' _ hup htype, hfurther'⟩⟩
  obtain ⟨owner', hrelated', hparent'⟩ := hab.parent block block' owner hrelated hparent
  exact ⟨block', owner', hstep', hab.type block block' _ hrelated hblock, hparent',
    hab.type owner owner' _ hrelated' howner⟩

/-- Climbing in the raw tree. -/
def raw : Ascent Place := ⟨fun u p => p.parent? = some u, fun p type => p.type = type⟩

/-- Climbing in a flat list by positions, along the parents that its nodes name. -/
def flat (nodes : List Node) : Ascent Nat :=
  ⟨Ast.IsParent nodes, fun i type => ∃ n, nodes[i]? = some n ∧ n.rawType = type⟩

end Ascent

namespace Language.Python

theorem undecorated_of_parent {p block : Place} (h : p.parent? = some block)
    (htype : block.type = "block") : undecorated p.ancestors = block.tree :: block.ancestors := by
  have hplain : block.tree.type ≠ "decorated_definition" := by
    change block.type ≠ _
    rw [htype]
    decide
  rw [Place.parent?_eq_some.mp h, undecorated, if_neg hplain]

theorem undecorated_of_decorated {p up : Place} (h : p.parent? = some up)
    (htype : up.type = "decorated_definition") : undecorated p.ancestors = up.ancestors := by
  have hdecorated : up.tree.type = "decorated_definition" := htype
  rw [Place.parent?_eq_some.mp h, undecorated, if_pos hdecorated]

/-- One step up, or two where the first leads to a decorated definition. -/
theorem parent?_of_undecorated {p block : Place}
    (h : undecorated p.ancestors = block.tree :: block.ancestors) :
    p.parent? = some block ∨ ∃ up, p.parent? = some up ∧ up.type = "decorated_definition" ∧
      up.parent? = some block := by
  cases hup : p.ancestors with
  | nil => simp [hup, undecorated] at h
  | cons up further =>
    rw [hup, undecorated] at h
    split_ifs at h with htype
    · refine .inr ⟨⟨up, further⟩, ?_, htype, ?_⟩
      · exact Place.parent?_eq_some.mpr hup
      · exact Place.parent?_eq_some.mpr h
    · exact .inl (Place.parent?_eq_some.mpr (hup.trans h))

theorem inClassBody_iff {p : Place} : inClassBody p = true ↔ Ascent.raw.InClassBlock p := by
  have hbody : ∀ (block owner : Tree) (further : List Tree),
      undecorated p.ancestors = block :: owner :: further →
      (inClassBody p = true ↔ block.type = "block" ∧ owner.type = "class_definition") := by
    intro block owner further h
    rw [inClassBody, h]
    simp
  constructor
  · intro h
    match hup : undecorated p.ancestors with
    | [] => simp [inClassBody, hup] at h
    | [_] => simp [inClassBody, hup] at h
    | block :: owner :: further =>
      obtain ⟨hblock, howner⟩ := (hbody block owner further hup).mp h
      refine ⟨⟨block, owner :: further⟩, ⟨owner, further⟩, ?_, hblock, rfl, howner⟩
      exact parent?_of_undecorated hup
  · rintro ⟨block, owner, hstep, hblock, hparent, howner⟩
    have hup : undecorated p.ancestors = block.tree :: block.ancestors := by
      rcases hstep with hdirect | ⟨up, hdirect, htype, hfurther⟩
      · exact undecorated_of_parent hdirect hblock
      · rw [undecorated_of_decorated hdirect htype, Place.parent?_eq_some.mp hfurther]
    rw [Place.parent?_eq_some.mp hparent] at hup
    exact (hbody block.tree owner.tree owner.ancestors hup).mpr ⟨hblock, howner⟩

/-- Where a function definition stands decides between its two categories. -/
theorem semanticType_function {p : Place} (named : p.tree.isNamed = true)
    (type : p.type = "function_definition") :
    (Language.python.profile.semanticType p = Category.methodDeclaration.name ↔
      Ascent.raw.InClassBlock p) ∧
    (Language.python.profile.semanticType p = Category.functionDeclaration.name ↔
      ¬ Ascent.raw.InClassBlock p) := by
  have hconfig : Language.python.profile.configFor? p.tree =
      some (.outer .functionDeclaration .findIdentifier) := by
    refine Profile.configFor?_eq_some.mpr ⟨named, ?_⟩
    change Language.python.profile.config? p.type = _
    rw [type]
    rfl
  have hplace : Ascent.raw.InClassBlock p ↔ Language.python.MethodByType p := by
    rw [← inClassBody_iff]
    exact ⟨fun h => ⟨type, h⟩, And.right⟩
  have hne : Category.functionDeclaration.name ≠ Category.methodDeclaration.name := by decide
  rw [hplace, Profile.semanticType]
  cases hcontext : Language.python.profile.context p with
  | none =>
    have hnone : ¬ Language.python.MethodByType p := context_eq_none.mp hcontext
    rw [hconfig]
    exact ⟨iff_of_false hne hnone, iff_of_true rfl hnone⟩
  | some category =>
    obtain ⟨rfl, -⟩ := context_eq_some hcontext
    have hmethod : Language.python.MethodByType p := by
      by_contra hnone
      rw [context_eq_none.mpr hnone] at hcontext
      cases hcontext
    exact ⟨iff_of_true rfl hmethod, iff_of_false hne.symm (not_not_intro hmethod)⟩

end Language.Python

namespace Ast
open Canopy.Tree

/-- The `k`-th node of a flat tree stands for the raw node at this place. -/
def Represents (t : Tree) (k : Nat) (s : Place) : Prop :=
  ∃ q, t.top.at? q = some s ∧ t.rank q = k

section Flat

variable (l : Profile) (options : BuildOptions) (source : Bytes) {t : Tree}

/-- The parent that a node names stands for the parent of its raw node. -/
theorem flat_follows_raw :
    Ascent.Follows (.flat (flatten l options source t)) .raw (Represents t) where
  parent := by
    rintro k s i ⟨q, hq, rfl⟩ hparent
    obtain ⟨r, x, s', hs', rfl, hrank⟩ := (isParent_flatten l options source).mp hparent
    obtain rfl : r ++ [x] = q := rank_injective (p := t.top) hs' hq hrank
    obtain ⟨u, hu, -⟩ := Place.at?_append_eq_some hq
    exact ⟨u, ⟨r, hu, rfl⟩, (Place.at?_concat_parent? hq).symm.trans hu⟩
  type := by
    rintro k s type ⟨q, hq, rfl⟩ ⟨n, hn, htype⟩
    rw [flatten_getElem?_rank l options source hq] at hn
    rw [← Option.some.inj hn] at htype
    exact htype

/-- The parent of a raw node has a node in the flat list, and the child names it. -/
theorem raw_follows_flat :
    Ascent.Follows .raw (.flat (flatten l options source t)) (flip (Represents t)) where
  parent := by
    rintro s k u ⟨q, hq, rfl⟩ hparent
    obtain ⟨r, x, rfl, hr⟩ := exists_concat_of_parent? hq hparent
    exact ⟨t.rank r, ⟨r, hr, rfl⟩, (isParent_flatten l options source).mpr
      ⟨r, x, s, hq, rfl, rfl⟩⟩
  type := by
    rintro s k type ⟨q, hq, rfl⟩ htype
    exact ⟨_, flatten_getElem?_rank l options source hq, htype⟩

theorem inClassBlock_flatten {k : Nat} {s : Place} (h : Represents t k s) :
    (Ascent.flat (flatten l options source t)).InClassBlock k ↔ Ascent.raw.InClassBlock s :=
  ⟨(flat_follows_raw l options source).inClassBlock h,
    (raw_follows_flat l options source).inClassBlock h⟩

end Flat

/-- Methods are told from functions by the raw parents of a node, and a reader of the flat list can
tell them by the parents that are named there: the two agree for every function definition of
every tree. -/
theorem build_methods_by_parents (options : BuildOptions) (source : Bytes) {world : World}
    {provider : Provider} {parse : Parse}
    (hparse : (provider.parse (world.load provider.grammar) world.found
      source.length).result = .ok parse)
    (htypes : ∀ q s, parse.tree.top.at? q = some s → s.type ≠ "") :
    ∃ ast, (build world options source ⟨Language.python.profile, provider⟩).result = .ok ast ∧
      ∀ k q s, parse.tree.addresses[k]? = some q → parse.tree.top.at? q = some s →
        s.tree.isNamed = true → s.type = "function_definition" →
        ∃ n, ast.nodes[k]? = some n ∧ n.rawType = "function_definition" ∧
          (n.semanticType = "METHOD_DECLARATION" ↔ (Ascent.flat ast.nodes).InClassBlock k) ∧
          (n.semanticType = "FUNCTION_DECLARATION" ↔
            ¬ (Ascent.flat ast.nodes).InClassBlock k) := by
  refine ⟨_, (build_eq_ok options source).mpr ⟨parse, hparse, htypes, rfl⟩, ?_⟩
  intro k q s hk hs named type
  obtain ⟨s', hs', hrank⟩ := exists_of_addresses_getElem? (p := parse.tree.top) hk
  obtain rfl : parse.tree.rank q = k := hrank
  have hclass := inClassBlock_flatten Language.python.profile options source ⟨q, hs, rfl⟩
  obtain ⟨hmethod, hfunction⟩ := Language.Python.semanticType_function named type
  refine ⟨_, flatten_getElem?_rank Language.python.profile options source hs, type, ?_, ?_⟩
  · exact hmethod.trans hclass.symm
  · exact hfunction.trans (not_congr hclass.symm)

/-- A class with a decorated method, and a function inside the method. -/
def decoratedMethod : Tree :=
  .node ⟨"module", true, none, 0, 9, ⟨0, 0⟩, ⟨0, 9⟩⟩
    [.node ⟨"class_definition", true, none, 0, 9, ⟨0, 0⟩, ⟨0, 9⟩⟩
      [.node ⟨"block", true, some "body", 1, 9, ⟨0, 1⟩, ⟨0, 9⟩⟩
        [.node ⟨"decorated_definition", true, none, 1, 9, ⟨0, 1⟩, ⟨0, 9⟩⟩
          [.node ⟨"function_definition", true, some "definition", 3, 9, ⟨0, 3⟩, ⟨0, 9⟩⟩
            [.node ⟨"block", true, some "body", 5, 9, ⟨0, 5⟩, ⟨0, 9⟩⟩
              [.node ⟨"function_definition", true, none, 5, 9, ⟨0, 5⟩, ⟨0, 9⟩⟩ []]]]]]]

/-- The outer definition is a method, and the inner one, whose block is that of the method, is
not. -/
theorem build_methods_by_parents_decorated :
    ∃ ast outer inner, (build ⟨Pack.bundled.loader, some ⟨decoratedMethod, false⟩⟩ {} []
        (.ofLanguage .python)).result = .ok ast ∧
      ast.nodes[4]? = some outer ∧ outer.semanticType = "METHOD_DECLARATION" ∧
      ast.nodes[6]? = some inner ∧ inner.semanticType = "FUNCTION_DECLARATION" := by
  have htypes : ∀ q s, decoratedMethod.top.at? q = some s → s.type ≠ "" :=
    fun _ _ => type_ne_empty (by decide)
  have hflat : (build ⟨Pack.bundled.loader, some ⟨decoratedMethod, false⟩⟩ {} []
      (.ofLanguage .python)).result =
      .ok ⟨"python", 0, false, flatten Language.python.profile {} [] decoratedMethod⟩ :=
    (build_eq_ok {} []).mpr ⟨⟨decoratedMethod, false⟩, rfl, htypes, rfl⟩
  obtain ⟨ast, hast, hnodes⟩ := @build_methods_by_parents {} []
    ⟨Pack.bundled.loader, some ⟨decoratedMethod, false⟩⟩ (Adapter.ofLanguage .python).provider
    ⟨decoratedMethod, false⟩ rfl htypes
  obtain rfl := Except.ok.inj (hast.symm.trans hflat)
  obtain ⟨outer, houter, -, hmethod, -⟩ := hnodes 4 [0, 0, 0, 0] _ (by decide) rfl rfl rfl
  obtain ⟨inner, hinner, -, -, hfunction⟩ :=
    hnodes 6 [0, 0, 0, 0, 0, 0] _ (by decide) rfl rfl rfl
  have hplace : ∀ k s, Represents decoratedMethod k s →
      ((Ascent.flat (flatten Language.python.profile {} [] decoratedMethod)).InClassBlock k ↔
        Language.Python.inClassBody s = true) := by
    intro k s h
    rw [inClassBlock_flatten _ _ _ h, Language.Python.inClassBody_iff]
  refine ⟨_, outer, inner, hast, houter, hmethod.mpr ?_, hinner, hfunction.mpr ?_⟩
  · exact (hplace 4 _ ⟨[0, 0, 0, 0], rfl, by decide⟩).mpr (by decide)
  · exact (hplace 6 _ ⟨[0, 0, 0, 0, 0, 0], rfl, by decide⟩).not.mpr (by decide)

end Ast
end Canopy
