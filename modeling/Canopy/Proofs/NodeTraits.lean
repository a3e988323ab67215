import Canopy.Proofs.Dict
import Canopy.Proofs.Tokens
import Mathlib.Data.Nat.Bitwise

namespace Canopy

theorem Category.ofName?_name (c : Category) : ofName? c.name = some c := by
  cases c <;> decide

theorem Category.name_injective : Function.Injective Category.name := by
  intro c d h
  have hname := congrArg ofName? h
  rw [ofName?_name, ofName?_name] at hname
  exact Option.some.inj hname

theorem NodeConfig.isPublicEligible_iff (c : NodeConfig) :
    c.isPublicEligible = true ↔ c.flags &&& Flags.publicEligible ≠ 0 := by
  have hbit : c.flags &&& 2 ^ 1 = (c.flags.testBit 1).toNat * 2 ^ 1 := Nat.and_two_pow c.flags 1
  rw [isPublicEligible, Flags.publicEligible, show (2 : Nat) = 2 ^ 1 from rfl, hbit]
  cases c.flags.testBit 1 <;> decide

namespace Language

/-- The types that become methods where the place of a node says so. -/
def methodTypes : Language → List String
  | .python => ["function_definition"]
  | .cpp => ["function_definition", "field_declaration"]
  | _ => []

variable {l : Language}

theorem MethodByType.type_mem {p : Place} (h : l.MethodByType p) : p.type ∈ l.methodTypes := by
  cases l with
  | python => simpa [methodTypes] using h.1
  | cpp =>
    rcases h with ⟨htype, -⟩ | ⟨htype, -⟩
    · simp [methodTypes, htype]
    · simp [methodTypes, htype]
  | javascript => exact h.elim
  | c => exact h.elim
  | rust => exact h.elim

/-- A place makes nothing but methods, and only of these types. -/
theorem context_eq_some {p : Place} {c : Category} (h : l.profile.context p = some c) :
    c = .methodDeclaration ∧ p.type ∈ l.methodTypes := by
  refine ⟨(type_of_context_eq_some h).1, MethodByType.type_mem ?_⟩
  by_contra hnone
  rw [← context_eq_none, h] at hnone
  cases hnone

/-- The types that become methods are declarations that can be public. -/
theorem flags_of_mem_methodTypes {type : String} (htype : type ∈ l.methodTypes) {c : NodeConfig}
    (h : l.profile.config? type = some c) : c.flags = Flags.publicDeclaration := by
  have hall : ∀ type ∈ l.methodTypes,
      (l.profile.config? type).map NodeConfig.flags = some Flags.publicDeclaration := by
    cases l <;> decide
  have hflags := hall type htype
  rw [h, Option.map_some] at hflags
  exact Option.some.inj hflags

/-- One type is mapped to methods by a table itself. -/
theorem type_of_category_method {type : String} {c : NodeConfig}
    (h : l.profile.config? type = some c) (hc : c.category = .methodDeclaration) :
    l = .javascript ∧ type = "method_definition" ∧ c.flags = Flags.publicDeclaration := by
  have hall : ∀ e ∈ l.profile.table, e.2.category = .methodDeclaration →
      l = .javascript ∧ e.1 = "method_definition" ∧ e.2.flags = Flags.publicDeclaration := by
    cases l <;> decide
  exact hall (type, c) (Dict.mem_of_get? h) hc

theorem normalType_of_config? {type : String} {c : NodeConfig}
    (h : l.profile.config? type = some c) : l.profile.normalType type = c.category.name := by
  rw [Profile.normalType, h]

/-- The table settles the semantic type of a node, unless its place makes it a method. -/
theorem semanticType_of_config {p : Place} {c : NodeConfig}
    (h : l.profile.configFor? p.tree = some c) :
    l.profile.semanticType p = c.category.name ∨
      l.profile.semanticType p = Category.methodDeclaration.name ∧ p.type ∈ l.methodTypes := by
  unfold Profile.semanticType
  cases hcontext : l.profile.context p with
  | none => simp [h]
  | some category =>
    obtain ⟨rfl, htype⟩ := context_eq_some hcontext
    exact .inr ⟨rfl, htype⟩

/-- A node is a method by its place or by the table, and either way a declaration that can be
public. -/
theorem type_of_semanticType_method {p : Place} {c : NodeConfig}
    (h : l.profile.configFor? p.tree = some c)
    (hmethod : l.profile.semanticType p = Category.methodDeclaration.name) :
    (p.type ∈ l.methodTypes ∨ l = .javascript ∧ p.type = "method_definition") ∧
      c.flags = Flags.publicDeclaration := by
  have hconfig : l.profile.config? p.type = some c := (Profile.configFor?_eq_some.mp h).2
  rcases semanticType_of_config h with htable | ⟨-, htype⟩
  · have hcategory : c.category = .methodDeclaration :=
      Category.name_injective (htable.symm.trans hmethod)
    obtain ⟨hl, htype, hflags⟩ := type_of_category_method hconfig hcategory
    exact ⟨.inr ⟨hl, htype⟩, hflags⟩
  · exact ⟨.inl htype, flags_of_mem_methodTypes htype hconfig⟩

/-- A name for use inside only: an underscore in front, and not two of them at both ends. -/
def Python.Private (name : String) : Prop :=
  ['_'] <+: name.toList ∧ ¬ (['_', '_'] <+: name.toList ∧ ['_', '_'] <:+ name.toList)

theorem Python.isVisible_iff (source : Bytes) (p : Place) (name : String) :
    Language.python.profile.isVisible source p name = true ↔ ¬ Private name := by
  change (!isPrivateName name) = true ↔ _
  unfold isPrivateName Private Text.startsWith Text.endsWith
  rw [Bool.not_eq_true', ← Bool.not_eq_true, Bool.and_eq_true, Bool.not_eq_true',
    ← Bool.not_eq_true, Bool.and_eq_true, List.isPrefixOf_iff_prefix,
    List.isPrefixOf_iff_prefix, List.isSuffixOf_iff_suffix]
  rfl

theorem JavaScript.isVisible_iff (source : Bytes) (p : Place) (name : String) :
    Language.javascript.profile.isVisible source p name = true ↔ ¬ ['#'] <+: name.toList := by
  change (!Text.startsWith name "#") = true ↔ _
  rw [Bool.not_eq_true', ← Bool.not_eq_true, Text.startsWith, List.isPrefixOf_iff_prefix]
  rfl

end Language

/-- What the fields of a node say of each other where the table of its language has the
configuration `c` for its raw type. -/
structure Node.Coherent (l : Language) (c : NodeConfig) (n : Node) : Prop where
  flags_eq : n.flags = c.flags
  isPublic_ne_none : n.isPublic ≠ none ↔ n.flags &&& Flags.publicEligible ≠ 0
  semanticType_eq : n.semanticType = l.profile.normalType n.rawType ∨
    n.semanticType = Category.methodDeclaration.name ∧ n.rawType ∈ l.methodTypes
  /-- Methods are declarations that can be public, whichever rule made them methods. -/
  method : n.semanticType = Category.methodDeclaration.name →
    (n.rawType ∈ l.methodTypes ∨ l = .javascript ∧ n.rawType = "method_definition") ∧
      n.flags = 3 ∧ n.isPublic ≠ none
  python : l = .python → ∀ b, n.isPublic = some b → (b = true ↔ ¬ Language.Python.Private n.name)
  javascript : l = .javascript → ∀ b, n.isPublic = some b →
    (b = true ↔ ¬ ['#'] <+: n.name.toList)

namespace Ast

variable {l : Language} {options : BuildOptions} {source : Bytes} {t : Tree} {q : Address}
  {s : Place} {c : NodeConfig}

theorem isPublic_nodeAt (h : l.profile.configFor? s.tree = some c) :
    (nodeAt l.profile options source t q s).isPublic =
      if c.isPublicEligible then
        some (l.profile.isVisible source s (nodeAt l.profile options source t q s).name)
      else none := by
  simp only [nodeAt, Node.ofPlace, h]
  rfl

theorem coherent_nodeAt (h : l.profile.configFor? s.tree = some c) :
    (nodeAt l.profile options source t q s).Coherent l c := by
  have hflags : (nodeAt l.profile options source t q s).flags = c.flags := by
    simp [nodeAt, Node.ofPlace, h]
  have hpublic : (nodeAt l.profile options source t q s).isPublic ≠ none ↔
      c.flags &&& Flags.publicEligible ≠ 0 := by
    rw [← NodeConfig.isPublicEligible_iff, isPublic_nodeAt h]
    split_ifs with heligible <;> simp [heligible]
  -- where the visibility is given at all, the rule of the language gave it
  have hvisible : ∀ b, (nodeAt l.profile options source t q s).isPublic = some b →
      b = l.profile.isVisible source s (nodeAt l.profile options source t q s).name := by
    intro b hb
    rw [isPublic_nodeAt h] at hb
    split_ifs at hb
    exact (Option.some.inj hb).symm
  refine ⟨hflags, ?_, ?_, ?_, ?_, ?_⟩
  · rw [hflags]
    exact hpublic
  · have hnormal : l.profile.normalType s.type = c.category.name :=
      Language.normalType_of_config? (Profile.configFor?_eq_some.mp h).2
    have hsemantic := Language.semanticType_of_config h
    rwa [← hnormal] at hsemantic
  · intro hmethod
    obtain ⟨htype, hc⟩ := Language.type_of_semanticType_method h hmethod
    refine ⟨htype, hflags.trans hc, ?_⟩
    rw [hpublic, hc]
    decide
  · rintro rfl b hb
    rw [hvisible b hb]
    exact Language.Python.isVisible_iff source s _
  · rintro rfl b hb
    rw [hvisible b hb]
    exact Language.JavaScript.isVisible_iff source s _

/-- The fields of a node are worked out apart from each other, by the table, the place, the name and
the source. They fit together all the same, for every language, tree and source. -/
theorem build_nodes_coherent (l : Language) (options : BuildOptions) (source : Bytes)
    {world : World} {provider : Provider} {parse : Parse}
    (hparse : (provider.parse (world.load provider.grammar) world.found
      source.length).result = .ok parse)
    (htypes : ∀ q s, parse.tree.top.at? q = some s → s.type ≠ "") :
    ∃ ast, (build world options source ⟨l.profile, provider⟩).result = .ok ast ∧
      ∀ q s c, parse.tree.top.at? q = some s → s.tree.isNamed = true →
        l.profile.config? s.type = some c →
        ∃ n, ast.nodes[parse.tree.rank q]? = some n ∧ n.rawType = s.type ∧ n.Coherent l c := by
  refine ⟨_, (build_eq_ok options source).mpr ⟨parse, hparse, htypes, rfl⟩, ?_⟩
  intro q s c hs hnamed hconfig
  exact ⟨_, flatten_getElem?_rank l.profile options source hs, rfl,
    coherent_nodeAt (Profile.configFor?_eq_some.mpr ⟨hnamed, hconfig⟩)⟩

theorem build_nodes_coherent_assignment :
    ∃ ast, (build assignmentWorld {} [120, 61, 49] (.ofLanguage .python)).result = .ok ast ∧
      ∃ n, ast.nodes[2]? = some n ∧ n.rawType = "assignment" ∧ n.flags = 3 ∧
        n.isPublic ≠ none := by
  obtain ⟨ast, hast, hnodes⟩ :=
    build_nodes_coherent .python {} [120, 61, 49] parse_assignmentWorld assignmentTree_types
  obtain ⟨n, hn, htype, hcoherent⟩ := hnodes [0, 0] _ _ rfl rfl rfl
  have hflags : n.flags = 3 := hcoherent.flags_eq
  refine ⟨ast, hast, n, hn, htype, hflags, ?_⟩
  rw [hcoherent.isPublic_ne_none, hflags]
  decide

end Ast
end Canopy
