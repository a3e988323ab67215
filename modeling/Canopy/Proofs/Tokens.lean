import Canopy.Proofs.Flatten

namespace Canopy

namespace Language

/-- Where a node stands and what its type says make it a method, be it a token or not. -/
def MethodByType : Language → Place → Prop
  | .python, p => p.type = "function_definition" ∧ Python.inClassBody p = true
  | .cpp, p =>
    p.type = "function_definition" ∧ (Cpp.classMember? p).isSome = true ∨
      p.type = "field_declaration" ∧ Cpp.declaresFunction p.tree = true
  | _, _ => False

/-- Names that C and C++ read off a node by its type, be it a token or not. -/
def C.NamedByType (source : Bytes) (t : Tree) : Prop :=
  t.type = "function_definition" ∧ functionName source t ≠ "" ∨
    t.type ≠ "function_definition" ∧ (∃ m ∈ fallbackMarkers, Text.holds t.type m = true) ∧
      t.childText source ["identifier"] ≠ ""

/-- A node has a name for its type, be it a token or not. -/
def NamedByType (source : Bytes) (t : Tree) : Language → Prop
  | .javascript => t.type ∈ JavaScript.namedByText ∧ t.text source ≠ ""
  | .c => C.NamedByType source t
  | .cpp => C.NamedByType source t
  | .python => False
  | .rust => False

end Language

/-- A node that tells no more than its raw type. -/
structure Node.PassesThrough (n : Node) : Prop where
  semanticType_eq : n.semanticType = n.rawType
  name_eq : n.name = ""
  value_eq : n.value = ""
  flags_eq : n.flags = 0
  isPublic_eq : n.isPublic = none

namespace Profile

variable {l : Profile} {t : Tree} (token : t.isNamed = false)
include token

theorem configFor?_token : l.configFor? t = none := by
  simp [configFor?, token]

/-- Without a configuration a name comes from the rules of the language alone. -/
theorem nodeName_token (source : Bytes) :
    l.nodeName source t = (l.innerName source t).getD (l.fallbackName source t) := by
  unfold nodeName
  rw [configFor?_token token]
  cases l.innerName source t <;> rfl

theorem nodeValue_token (source : Bytes) : l.nodeValue source t = "" := by
  rw [nodeValue, configFor?_token token]

end Profile

namespace Language

theorem C.innerName_getD_eq_empty {source : Bytes} {t : Tree} :
    (C.innerName source t).getD (C.fallbackName source t) = "" ↔ ¬ C.NamedByType source t := by
  unfold C.NamedByType C.innerName C.fallbackName
  by_cases htype : t.type = "function_definition"
  · simp [htype]
  · by_cases hmarker : ∃ m ∈ fallbackMarkers, Text.holds t.type m = true
    · simp [htype, hmarker]
    · simp [htype, hmarker]

variable {l : Language}

theorem nodeName_eq_empty_of_token {t : Tree} (token : t.isNamed = false) (source : Bytes) :
    l.profile.nodeName source t = "" ↔ ¬ l.NamedByType source t := by
  rw [Profile.nodeName_token token]
  -- the table is out of play, so each language is left with its own two rules for names
  cases l with
  | python => simp [profile, Python.profile, NamedByType]
  | rust => simp [profile, Rust.profile, NamedByType]
  | javascript =>
    simp only [profile, JavaScript.profile, Option.getD_none, NamedByType,
      List.contains_iff_mem]
    split_ifs with hmem
    · simp [hmem]
    · simp [hmem]
  | c => exact C.innerName_getD_eq_empty
  | cpp => exact C.innerName_getD_eq_empty

theorem context_eq_none {p : Place} : l.profile.context p = none ↔ ¬ l.MethodByType p := by
  cases l with
  | python => simp [profile, Python.profile, Python.context, MethodByType]
  | cpp =>
    simp only [profile, Cpp.profile, Cpp.context, MethodByType, Bool.and_eq_true,
      decide_eq_true_eq]
    split_ifs with hfunction hfield <;> simp_all
  | javascript => simp [profile, JavaScript.profile, MethodByType]
  | c => simp [profile, C.profile, MethodByType]
  | rust => simp [profile, Rust.profile, MethodByType]

/-- A place makes nothing but methods, and only of two types. -/
theorem type_of_context_eq_some {p : Place} {c : Category} (h : l.profile.context p = some c) :
    c = .methodDeclaration ∧ (p.type = "function_definition" ∨ p.type = "field_declaration") := by
  cases l with
  | python =>
    simp only [profile, Python.profile, Python.context, Bool.and_eq_true, decide_eq_true_eq] at h
    split_ifs at h with hrule
    exact ⟨(Option.some.inj h).symm, .inl hrule.1⟩
  | cpp =>
    simp only [profile, Cpp.profile, Cpp.context, Bool.and_eq_true, decide_eq_true_eq] at h
    split_ifs at h with hfunction hfield
    · exact ⟨(Option.some.inj h).symm, .inl hfunction.1⟩
    · exact ⟨(Option.some.inj h).symm, .inr hfield.1⟩
  | javascript => simp [profile, JavaScript.profile] at h
  | c => simp [profile, C.profile] at h
  | rust => simp [profile, Rust.profile] at h

theorem context_name_ne_type {p : Place} {c : Category} (h : l.profile.context p = some c) :
    c.name ≠ p.type := by
  obtain ⟨rfl, htype | htype⟩ := type_of_context_eq_some h
  · rw [htype]
    decide
  · rw [htype]
    decide

theorem semanticType_eq_type_of_token {p : Place} (token : p.tree.isNamed = false) :
    l.profile.semanticType p = p.type ↔ ¬ l.MethodByType p := by
  rw [← context_eq_none, Profile.semanticType]
  cases hcontext : l.profile.context p with
  | none => simp [Profile.configFor?_token token]
  | some c => simp [context_name_ne_type hcontext]

end Language

namespace Ast

theorem shownValue_token {l : Profile} (options : BuildOptions) (source : Bytes) {t : Tree}
    (token : t.isNamed = false) : Node.shownValue l options source t = "" := by
  rw [Node.shownValue, Profile.nodeValue_token token]
  cases options.limit? with
  | none => rfl
  | some size =>
    -- an empty text is never longer than the size
    simp [Utf8.truncate, Utf8.encode]

/-- The node of a token tells its raw type and no more, unless a rule of the language that looks at
types alone applies. -/
theorem nodeAt_token (l : Language) (options : BuildOptions) (source : Bytes) {t : Tree}
    {q : Address} {s : Place} (token : s.tree.isNamed = false) :
    (nodeAt l.profile options source t q s).value = "" ∧
      (nodeAt l.profile options source t q s).flags = 0 ∧
      (nodeAt l.profile options source t q s).isPublic = none ∧
      ((nodeAt l.profile options source t q s).PassesThrough ↔
        ¬ l.MethodByType s ∧ ¬ l.NamedByType source s.tree) := by
  have hconfig : l.profile.configFor? s.tree = none := Profile.configFor?_token token
  have hvalue : (nodeAt l.profile options source t q s).value = "" :=
    shownValue_token options source token
  have hflags : (nodeAt l.profile options source t q s).flags = 0 := by
    simp [nodeAt, Node.ofPlace, hconfig]
  have hpublic : (nodeAt l.profile options source t q s).isPublic = none := by
    simp [nodeAt, Node.ofPlace, hconfig]
  refine ⟨hvalue, hflags, hpublic, ?_⟩
  rw [← Language.semanticType_eq_type_of_token token,
    ← Language.nodeName_eq_empty_of_token token source]
  constructor
  · intro h
    exact ⟨h.semanticType_eq, h.name_eq⟩
  · rintro ⟨hsemantic, hname⟩
    exact ⟨hsemantic, hname, hvalue, hflags, hpublic⟩

/-- Tokens never have a value, flags or a visibility. They keep their type and have no name either,
except where their type alone makes them a method or names them. -/
theorem build_token_passes_iff (l : Language) (options : BuildOptions) (source : Bytes)
    {world : World} {provider : Provider} {parse : Parse}
    (hparse : (provider.parse (world.load provider.grammar) world.found
      source.length).result = .ok parse)
    (htypes : ∀ q s, parse.tree.top.at? q = some s → s.type ≠ "") :
    ∃ ast, (build world options source ⟨l.profile, provider⟩).result = .ok ast ∧
      ∀ q s, parse.tree.top.at? q = some s → s.tree.isNamed = false →
        ∃ n, ast.nodes[parse.tree.rank q]? = some n ∧ n.rawType = s.type ∧ n.value = "" ∧
          n.flags = 0 ∧ n.isPublic = none ∧
          (n.PassesThrough ↔ ¬ l.MethodByType s ∧ ¬ l.NamedByType source s.tree) := by
  refine ⟨_, (build_eq_ok options source).mpr ⟨parse, hparse, htypes, rfl⟩, ?_⟩
  intro q s hs token
  obtain ⟨hvalue, hflags, hpublic, hpasses⟩ := nodeAt_token l options source token
  exact ⟨_, flatten_getElem?_rank l.profile options source hs, rfl, hvalue, hflags, hpublic,
    hpasses⟩

theorem build_token_passes_iff_assignment :
    ∃ ast, (build assignmentWorld {} [120, 61, 49] (.ofLanguage .python)).result = .ok ast ∧
      ∃ n, ast.nodes[4]? = some n ∧ n.rawType = "=" ∧ n.PassesThrough := by
  obtain ⟨ast, hast, htokens⟩ :=
    build_token_passes_iff .python {} [120, 61, 49] parse_assignmentWorld assignmentTree_types
  obtain ⟨n, hn, htype, -, -, -, hpasses⟩ := htokens [0, 0, 1] _ rfl rfl
  refine ⟨ast, hast, n, hn, htype, hpasses.mpr ⟨?_, ?_⟩⟩
  · rintro ⟨hfunction, -⟩
    exact absurd hfunction (by decide)
  · exact id

/-- Every token of every tree goes through a build as it is. -/
def TokensPass (l : Language) : Prop :=
  ∀ (world : World) (options : BuildOptions) (source : Bytes) (provider : Provider)
    (parse : Parse) (ast : Ast),
    (provider.parse (world.load provider.grammar) world.found source.length).result = .ok parse →
    (build world options source ⟨l.profile, provider⟩).result = .ok ast →
    ∀ q s n, parse.tree.top.at? q = some s → s.tree.isNamed = false →
      ast.nodes[parse.tree.rank q]? = some n → n.PassesThrough

/-- A token directly in the body of a class. -/
def classTokenTree : Tree :=
  .node ⟨"class_definition", true, none, 0, 1, ⟨0, 0⟩, ⟨0, 1⟩⟩
    [.node ⟨"block", true, some "body", 0, 1, ⟨0, 0⟩, ⟨0, 1⟩⟩
      [.node ⟨"function_definition", false, none, 0, 1, ⟨0, 0⟩, ⟨0, 1⟩⟩ []]]

/-- The token is taken for a method, since the rule for methods looks at the type before it is
asked whether the node is named. -/
theorem class_token_becomes_method : ¬ TokensPass .python := by
  intro h
  have hast : (build ⟨Pack.bundled.loader, some ⟨classTokenTree, false⟩⟩ {} [120]
      (.ofLanguage .python)).result =
      .ok ⟨"python", 1, false, flatten Language.Python.profile {} [120] classTokenTree⟩ :=
    (build_eq_ok {} [120]).mpr
      ⟨⟨classTokenTree, false⟩, rfl, fun _ _ => type_ne_empty (by decide), rfl⟩
  have hnode := flatten_getElem?_rank Language.Python.profile {} [120] (t := classTokenTree)
    (q := [0, 0]) rfl
  have hpasses := h _ _ _ _ _ _ rfl hast [0, 0] _ _ rfl rfl hnode
  exact absurd hpasses.semanticType_eq (by decide)

end Ast
end Canopy
