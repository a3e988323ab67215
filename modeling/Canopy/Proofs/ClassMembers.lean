import Canopy.Proofs.NodeTraits

namespace Canopy.Language.Cpp

/-- Directly in the body of a class, a struct or a union. -/
def InBody (p : Place) : Prop :=
  ∃ body further, p.ancestors = body :: further ∧ body.type = classBody

theorem inBody_iff {p : Place} :
    InBody p ↔ ∃ body, p.parent? = some body ∧ body.type = classBody := by
  simp only [InBody, Place.parent?_eq_some]
  constructor
  · rintro ⟨body, further, hup, hbody⟩
    exact ⟨⟨body, further⟩, hup, hbody⟩
  · rintro ⟨body, hup, hbody⟩
    exact ⟨body.tree, body.ancestors, hup, hbody⟩

theorem classMember?_of_inBody {p : Place} (h : InBody p) : classMember? p = some p := by
  obtain ⟨body, further, hup, hbody⟩ := h
  have hplain : classBody ≠ "template_declaration" := by decide
  simp [classMember?, Place.parent?, Place.type, hup, hplain, hbody]

theorem classMember?_of_template {p m : Place} (hup : p.parent? = some m) (h : InBody m)
    (htemplate : m.type = "template_declaration") : classMember? p = some m := by
  obtain ⟨body, further, hbody, htype⟩ := h
  simp [classMember?, hup, htemplate, hbody, htype]

/-- The node itself or one template around it is the member that holds a node. -/
theorem classMember?_eq_some {p m : Place} :
    classMember? p = some m ↔
      InBody m ∧ (m = p ∨ p.parent? = some m ∧ m.type = "template_declaration") := by
  constructor
  · intro h
    simp only [classMember?] at h
    split at h
    next body further hup =>
      split_ifs at h with hbody
      have hm := Option.some.inj h
      rw [hm] at hup
      refine ⟨⟨body, further, hup, hbody⟩, ?_⟩
      cases hparent : p.parent? with
      | none =>
        rw [hparent] at hm
        exact .inl hm.symm
      | some up =>
        simp only [hparent] at hm
        split_ifs at hm with htemplate
        · rw [hm] at htemplate
          exact .inr ⟨congrArg some hm, htemplate⟩
        · exact .inl hm.symm
    next => cases h
  · rintro ⟨hbody, rfl | ⟨hup, htemplate⟩⟩
    · exact classMember?_of_inBody hbody
    · exact classMember?_of_template hup hbody htemplate

/-- Templates and conditional parts may stand between a class body and its members. -/
def IsWrapper (t : Tree) : Prop :=
  t.type = "template_declaration" ∨ "preproc_".toList <+: t.type.toList

/-- Going up from a node through these wrappers alone, a class body is met. -/
def Wrapped (p : Place) (wrappers : List Tree) : Prop :=
  ∃ body further, p.ancestors = wrappers ++ body :: further ∧ body.type = classBody ∧
    ∀ w ∈ wrappers, IsWrapper w

/-- The wrappers that are looked through: a single template. -/
def SeenThrough (wrappers : List Tree) : Prop :=
  wrappers.length ≤ 1 ∧ ∀ w ∈ wrappers, w.type = "template_declaration"

theorem not_isWrapper_of_classBody {t : Tree} (h : t.type = classBody) : ¬ IsWrapper t := by
  rw [IsWrapper, h]
  decide

/-- The body itself is no wrapper, so no way through wrappers leads past it. -/
theorem Wrapped.length_le {p : Place} {ws vs : List Tree} (hw : Wrapped p ws)
    (hv : Wrapped p vs) : vs.length ≤ ws.length := by
  obtain ⟨body, further, hws, hbody, -⟩ := hw
  obtain ⟨body', further', hvs, -, hall⟩ := hv
  by_contra hlt
  have hup : p.ancestors[ws.length]? = some body := by simp [hws]
  have hat : vs[ws.length]? = some body := by
    rw [hvs, List.getElem?_append_left (Nat.lt_of_not_le hlt)] at hup
    exact hup
  exact not_isWrapper_of_classBody hbody (hall body (List.mem_of_getElem? hat))

theorem Wrapped.unique {p : Place} {ws vs : List Tree} (hw : Wrapped p ws) (hv : Wrapped p vs) :
    ws = vs := by
  have hlength : ws.length = vs.length := Nat.le_antisymm (hv.length_le hw) (hw.length_le hv)
  obtain ⟨body, further, hws, -⟩ := hw
  obtain ⟨body', further', hvs, -⟩ := hv
  exact (List.append_inj (hws.symm.trans hvs) hlength).1

/-- A member is found exactly if all wrappers around it are looked through. -/
theorem isSome_classMember? {p : Place} :
    (classMember? p).isSome = true ↔ ∃ wrappers, Wrapped p wrappers ∧ SeenThrough wrappers := by
  rw [Option.isSome_iff_exists]
  simp only [classMember?_eq_some]
  constructor
  · rintro ⟨m, ⟨body, further, hup, hbody⟩, rfl | ⟨hparent, htemplate⟩⟩
    · exact ⟨[], ⟨body, further, hup, hbody, by simp⟩, by simp [SeenThrough]⟩
    · rw [Place.parent?_eq_some, hup] at hparent
      have htype : m.tree.type = "template_declaration" := htemplate
      exact ⟨[m.tree], ⟨body, further, hparent, hbody, by simp [IsWrapper, htype]⟩,
        by simp [SeenThrough, htype]⟩
  · rintro ⟨wrappers, ⟨body, further, hup, hbody, -⟩, hone, htemplate⟩
    match wrappers, hone with
    | [], _ => exact ⟨p, ⟨body, further, hup, hbody⟩, .inl rfl⟩
    | [w], _ =>
      refine ⟨⟨w, body :: further⟩, ⟨body, further, rfl, hbody⟩, .inr ⟨?_, ?_⟩⟩
      · exact Place.parent?_eq_some.mpr hup
      · exact htemplate w (List.mem_singleton_self w)

theorem semanticType_function_definition {p : Place} (named : p.tree.isNamed = true)
    (type : p.type = "function_definition") :
    Language.cpp.profile.semanticType p =
      if (classMember? p).isSome then Category.methodDeclaration.name
      else Category.functionDeclaration.name := by
  have hconfig : Language.cpp.profile.configFor? p.tree =
      some (.outer .functionDeclaration .findIdentifier) := by
    refine Profile.configFor?_eq_some.mpr ⟨named, ?_⟩
    change Language.cpp.profile.config? p.type = _
    rw [type]
    rfl
  have hcontext : Language.cpp.profile.context p =
      if (classMember? p).isSome then some .methodDeclaration else none := by
    change context p = _
    simp [context, type]
  unfold Profile.semanticType
  rw [hcontext, hconfig]
  split_ifs <;> rfl

section FunctionDefinition

variable {p : Place} (named : p.tree.isNamed = true) (type : p.type = "function_definition")
include named type

theorem semanticType_eq_method :
    Language.cpp.profile.semanticType p = Category.methodDeclaration.name ↔
      ∃ wrappers, Wrapped p wrappers ∧ SeenThrough wrappers := by
  rw [← isSome_classMember?, semanticType_function_definition named type]
  have hne : Category.functionDeclaration.name ≠ Category.methodDeclaration.name := by decide
  split_ifs with hmember
  · exact iff_of_true rfl hmember
  · exact iff_of_false hne hmember

theorem semanticType_eq_function :
    Language.cpp.profile.semanticType p = Category.functionDeclaration.name ↔
      Language.cpp.profile.semanticType p ≠ Category.methodDeclaration.name := by
  rw [semanticType_function_definition named type]
  split_ifs <;> decide

end FunctionDefinition

theorem not_wrapped_of_no_body {p : Place} (h : ∀ up ∈ p.ancestors, up.type ≠ classBody)
    (wrappers : List Tree) : ¬ Wrapped p wrappers := by
  rintro ⟨body, further, hup, hbody, -⟩
  apply h body _ hbody
  rw [hup]
  exact List.mem_append_right _ List.mem_cons_self

/-- Class bodies decide whether a function definition is a method: it is one if a body is met behind
wrappers only, however many, and none if there is no body above it at all. -/
structure ByClassBody (p : Place) : Prop where
  method : ∀ wrappers, Wrapped p wrappers →
    Language.cpp.profile.semanticType p = Category.methodDeclaration.name
  function : (∀ up ∈ p.ancestors, up.type ≠ classBody) →
    Language.cpp.profile.semanticType p = Category.functionDeclaration.name

/-- Function definitions are methods exactly where a class body is the parent or is met behind a
single template; all others are functions. So class bodies decide, but for the members with other
wrappers around them. -/
theorem function_definition_exact {p : Place} (named : p.tree.isNamed = true)
    (type : p.type = "function_definition") :
    (Language.cpp.profile.semanticType p = Category.methodDeclaration.name ↔
      ∃ wrappers, Wrapped p wrappers ∧ SeenThrough wrappers) ∧
    (Language.cpp.profile.semanticType p = Category.functionDeclaration.name ↔
      ¬ ∃ wrappers, Wrapped p wrappers ∧ SeenThrough wrappers) ∧
    ((∀ up ∈ p.ancestors, up.type ≠ classBody) →
      Language.cpp.profile.semanticType p = Category.functionDeclaration.name) ∧
    (ByClassBody p ↔ ∀ wrappers, Wrapped p wrappers → SeenThrough wrappers) := by
  have hmethod := semanticType_eq_method named type
  have hfunction := (semanticType_eq_function named type).trans (not_congr hmethod)
  have houtside : (∀ up ∈ p.ancestors, up.type ≠ classBody) →
      Language.cpp.profile.semanticType p = Category.functionDeclaration.name := by
    intro hnone
    rw [hfunction]
    rintro ⟨wrappers, hwrapped, -⟩
    exact not_wrapped_of_no_body hnone wrappers hwrapped
  refine ⟨hmethod, hfunction, houtside, ?_⟩
  constructor
  · intro h wrappers hwrapped
    obtain ⟨seen, hseen, hthrough⟩ := hmethod.mp (h.method wrappers hwrapped)
    rwa [hwrapped.unique hseen]
  · intro h
    refine ⟨fun wrappers hwrapped => ?_, houtside⟩
    exact hmethod.mpr ⟨wrappers, hwrapped, h wrappers hwrapped⟩

/-- A class with one member, and a node of the given type around the member. -/
def wrappedMember (wrapper : String) : Tree :=
  .node ⟨"class_specifier", true, none, 0, 37, ⟨0, 0⟩, ⟨4, 1⟩⟩
    [.node ⟨classBody, true, some "body", 7, 37, ⟨0, 7⟩, ⟨4, 1⟩⟩
      [.node ⟨wrapper, true, none, 9, 35, ⟨1, 0⟩, ⟨3, 6⟩⟩
        [.node ⟨"function_definition", true, none, 18, 28, ⟨2, 0⟩, ⟨2, 10⟩⟩ []]]]

theorem wrapped_wrappedMember (wrapper : String) {p : Place}
    (h : (wrappedMember wrapper).top.at? [0, 0, 0] = some p)
    (hwrapper : wrapper = "template_declaration" ∨ "preproc_".toList <+: wrapper.toList) :
    ∃ w : Tree, w.type = wrapper ∧ Wrapped p [w] := by
  obtain rfl := Option.some.inj h
  exact ⟨_, rfl, _, _, rfl, rfl, fun w hw => by rwa [List.mem_singleton.mp hw]⟩

theorem function_definition_exact_template :
    ∃ p, (wrappedMember "template_declaration").top.at? [0, 0, 0] = some p ∧
      p.tree.isNamed = true ∧ p.type = "function_definition" ∧
      Language.cpp.profile.semanticType p = "METHOD_DECLARATION" := by
  obtain ⟨w, hw, hwrapped⟩ := wrapped_wrappedMember "template_declaration" rfl (.inl rfl)
  refine ⟨_, rfl, rfl, rfl, ?_⟩
  apply (function_definition_exact rfl rfl).1.mpr
  exact ⟨[w], hwrapped, by simp [SeenThrough, hw]⟩

/-- A member of a class that stands in a conditional part is taken for a function. -/
theorem conditional_member_becomes_function :
    ¬ ∀ (t : Tree) (q : Address) (p : Place), t.top.at? q = some p → p.tree.isNamed = true →
      p.type = "function_definition" → ByClassBody p := by
  intro h
  obtain ⟨w, hw, hwrapped⟩ := wrapped_wrappedMember "preproc_ifdef" rfl (.inr (by decide))
  have hmethod := (h (wrappedMember "preproc_ifdef") [0, 0, 0] _ rfl rfl rfl).method [w] hwrapped
  exact absurd hmethod (by decide)

end Canopy.Language.Cpp
