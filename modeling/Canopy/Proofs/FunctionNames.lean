import Canopy.Language.Cpp
import Canopy.Proofs.TargetChains

namespace Canopy

theorem Profile.nodeName_of_innerName (l : Profile) {source : Bytes} {t : Tree} {name : String}
    (h : l.innerName source t = some name) : l.nodeName source t = name := by
  rw [nodeName, h]

namespace Language.C
open Canopy.Tree

/-- The child that a node declares. -/
def Declares (t d : Tree) : Prop := IsFirst (HasField "declarator") t.children d

def IsWrapper (d : Tree) : Prop := d.type ∈ wrappers

/-- What a wrapper wraps: the field comes before the types of the children. -/
inductive Wraps (d : Tree) : Tree → Prop where
  | field {e : Tree} (declares : Declares d e) : Wraps d e
  | declarator {e : Tree} (no_field : ∀ b ∈ d.children, ¬ b.HasField "declarator")
    (first : IsFirst EndsInDeclarator d.namedChildren e) : Wraps d e

/-- From the declarator `d` on, `f` comes after `w` wrappers. The chain has no bound of its own, and
nothing but a wrapper is looked through. -/
inductive Leads : Tree → Nat → Tree → Prop where
  | here {d : Tree} : Leads d 0 d
  | through {d e f : Tree} {w : Nat} (wrapper : IsWrapper d) (next : Wraps d e)
    (h : Leads e w f) : Leads d (w + 1) f

/-- The declarator of `t` leads to `f` through `w` wrappers. -/
def Reaches (t : Tree) (w : Nat) (f : Tree) : Prop := ∃ d, Declares t d ∧ Leads d w f

/-- A function declarator takes its name from the first kind of child, in the order of the kinds,
that has a text; of several children of a kind the first one counts. -/
inductive Named (source : Bytes) (f : Tree) : List (List String) → String → Prop where
  | nothing : Named source f [] ""
  | found {kind : List String} {kinds : List (List String)} {c : Tree}
    (first : IsFirst (fun b => b.type ∈ kind) f.children c) (visible : c.text source ≠ "") :
    Named source f (kind :: kinds) (c.text source)
  | skipped {kind : List String} {kinds : List (List String)} {text : String}
    (empty : ∀ c, IsFirst (fun b => b.type ∈ kind) f.children c → c.text source = "")
    (h : Named source f kinds text) : Named source f (kind :: kinds) text

/-- Member names first, then identifiers, then qualified names. -/
def nameKinds : List (List String) := [["field_identifier"], ["identifier"], qualifiedNames]

/-- The same node for a chain that passes through it, whatever field it stands under. -/
structure SameInside (d d' : Tree) : Prop where
  type_eq : d'.type = d.type
  children_eq : d'.children = d.children

/-- The chain from `d'` on is the chain from `d` on with one more wrapper in it. -/
inductive OneMore : Tree → Tree → Prop where
  /-- The new wrapper stands where `d` stood. -/
  | here {d u d' : Tree} (wrapper : IsWrapper u) (next : Wraps u d') (same : SameInside d d') :
    OneMore d u
  | further {d d' e e' : Tree} (wrapper : IsWrapper d) (wrapper' : IsWrapper d') (next : Wraps d e)
    (next' : Wraps d' e') (h : OneMore e e') : OneMore d d'

/-- Two nodes whose declarators differ by one wrapper. -/
def Rewrapped (t t' : Tree) : Prop := ∃ d d', Declares t d ∧ Declares t' d' ∧ OneMore d d'

section Chains

variable {t d d' e f f' : Tree} {w w' : Nat}

theorem IsWrapper.type_ne (h : IsWrapper d) : d.type ≠ "function_declarator" := by
  intro htype
  rw [IsWrapper, htype] at h
  exact absurd h (by decide)

theorem Declares.unique (h : Declares t d) (h' : Declares t d') : d = d' := by
  rw [Declares, ← childByField?_eq_some] at h h'
  exact Option.some.inj (h.symm.trans h')

theorem unwrap?_eq_some : unwrap? d = some e ↔ Wraps d e := by
  unfold unwrap?
  cases hfield : d.childByField? "declarator" with
  | some c =>
    have hc : Declares d c := childByField?_eq_some.mp hfield
    constructor
    · intro h
      cases h
      exact .field hc
    · intro h
      cases h with
      | field declares => rw [← hfield, childByField?_eq_some.mpr declares]
      | declarator no_field _ => simp [childByField?_eq_none.mpr no_field] at hfield
  | none =>
    constructor
    · intro h
      exact .declarator (childByField?_eq_none.mp hfield) (declarator?_eq_some.mp h)
    · intro h
      cases h with
      | field declares => simp [childByField?_eq_some.mpr declares] at hfield
      | declarator _ first => exact declarator?_eq_some.mpr first

theorem Wraps.unique {e' : Tree} (h : Wraps d e) (h' : Wraps d e') : e = e' := by
  rw [← unwrap?_eq_some] at h h'
  exact Option.some.inj (h.symm.trans h')

theorem findFunctionDeclarator?_wrapper (wrapper : IsWrapper d) (next : Wraps d e) (fuel : Nat) :
    findFunctionDeclarator? (fuel + 1) (some d) = findFunctionDeclarator? fuel (some e) := by
  rw [findFunctionDeclarator?, if_neg wrapper.type_ne, if_pos (List.contains_iff_mem.mpr wrapper),
    unwrap?_eq_some.mpr next]

/-- Each wrapper on the way costs one unit of fuel. -/
theorem Leads.findFunctionDeclarator?_eq (h : Leads d w f) (fuel : Nat) :
    findFunctionDeclarator? (w + fuel) (some d) = findFunctionDeclarator? fuel (some f) := by
  induction h with
  | here => rw [Nat.zero_add]
  | @through d e f w wrapper next _ ih =>
    rw [show w + 1 + fuel = (w + fuel) + 1 by omega, findFunctionDeclarator?_wrapper wrapper next,
      ih]

theorem exists_leads_of_findFunctionDeclarator? {fuel : Nat}
    (h : findFunctionDeclarator? fuel (some d) = some f) :
    ∃ w, w < fuel ∧ Leads d w f ∧ f.type = "function_declarator" := by
  induction fuel generalizing d with
  | zero => simp [findFunctionDeclarator?] at h
  | succ fuel ih =>
    rw [findFunctionDeclarator?] at h
    split_ifs at h with htype hwrapper
    · cases h
      exact ⟨0, Nat.succ_pos fuel, .here, htype⟩
    · cases hnext : unwrap? d with
      | none => cases fuel <;> simp [hnext, findFunctionDeclarator?] at h
      | some e =>
        rw [hnext] at h
        obtain ⟨w, hw, hleads, hf⟩ := ih h
        have hlead : Leads d (w + 1) f :=
          .through (List.contains_iff_mem.mp hwrapper) (unwrap?_eq_some.mp hnext) hleads
        exact ⟨w + 1, Nat.succ_lt_succ hw, hlead, hf⟩

/-- The search finds what the chain leads to, as long as fewer wrappers than fuel are in between. -/
theorem findFunctionDeclarator?_eq_some {fuel : Nat} :
    findFunctionDeclarator? fuel (some d) = some f ↔
      ∃ w, w < fuel ∧ Leads d w f ∧ f.type = "function_declarator" := by
  constructor
  · exact exists_leads_of_findFunctionDeclarator?
  · rintro ⟨w, hw, hleads, hf⟩
    -- the wrappers take `w` units, and one more is spent on the function declarator itself
    obtain ⟨rest, rfl⟩ : ∃ rest, fuel = w + (rest + 1) := ⟨fuel - w - 1, by omega⟩
    rw [hleads.findFunctionDeclarator?_eq, findFunctionDeclarator?, if_pos hf]

theorem functionDeclarator?_eq_some :
    functionDeclarator? t = some f ↔
      ∃ w, w ≤ 15 ∧ Reaches t w f ∧ f.type = "function_declarator" := by
  have hbound : ∀ w, w ≤ 15 ↔ w < chainBound := by
    intro w
    rw [chainBound]
    omega
  simp only [hbound]
  unfold functionDeclarator?
  cases hfield : t.childByField? "declarator" with
  | none =>
    have hnone : ∀ d, ¬ Declares t d := by
      intro d hd
      simp [childByField?_eq_some.mpr hd] at hfield
    constructor
    · intro h
      simp [chainBound, findFunctionDeclarator?] at h
    · rintro ⟨w, -, ⟨d, hd, -⟩, -⟩
      exact absurd hd (hnone d)
  | some d =>
    have hd : Declares t d := childByField?_eq_some.mp hfield
    rw [findFunctionDeclarator?_eq_some]
    constructor
    · rintro ⟨w, hw, hleads, hf⟩
      exact ⟨w, hw, ⟨d, hd, hleads⟩, hf⟩
    · rintro ⟨w, hw, ⟨e, he, hleads⟩, hf⟩
      obtain rfl := hd.unique he
      exact ⟨w, hw, hleads, hf⟩

/-- A chain has one function declarator at most, since the chain is over there. -/
theorem Leads.wrappers_eq (h : Leads d w f) (hf : f.type = "function_declarator")
    (h' : Leads d w' f') (hf' : f'.type = "function_declarator") : w = w' := by
  induction h generalizing w' with
  | here =>
    cases h' with
    | here => rfl
    | through wrapper _ _ => exact absurd hf wrapper.type_ne
  | through wrapper next _ ih =>
    cases h' with
    | here => exact absurd hf' wrapper.type_ne
    | through _ next' hrest =>
      rw [next'.unique next] at hrest
      rw [ih hf hrest]

theorem Reaches.wrappers_eq (h : Reaches t w f) (hf : f.type = "function_declarator")
    (h' : Reaches t w' f') (hf' : f'.type = "function_declarator") : w = w' := by
  obtain ⟨d, hd, hleads⟩ := h
  obtain ⟨d', hd', hleads'⟩ := h'
  obtain rfl := hd.unique hd'
  exact hleads.wrappers_eq hf hleads' hf'

end Chains

section Names

variable {source : Bytes} {t f f' : Tree}

/-- The texts of the kinds, one after the other, until one is not empty. -/
def preferred (source : Bytes) (f : Tree) : List (List String) → String
  | [] => ""
  | kind :: kinds => orElseText (f.childText source kind) (preferred source f kinds)

theorem firstOfKind_iff {kind : List String} {c : Tree} :
    (f.children.find? fun b => kind.contains b.type) = some c ↔
      IsFirst (fun b => b.type ∈ kind) f.children c :=
  find?_eq_some_iff_isFirst fun _ => List.contains_iff_mem

theorem named_preferred (source : Bytes) (f : Tree) (kinds : List (List String)) :
    Named source f kinds (preferred source f kinds) := by
  induction kinds with
  | nil => exact .nothing
  | cons kind kinds ih =>
    rw [preferred, childText]
    cases hfind : f.children.find? fun b => kind.contains b.type with
    | none =>
      rw [orElseText, if_pos rfl]
      apply Named.skipped _ ih
      intro c hc
      rw [firstOfKind_iff.mpr hc] at hfind
      cases hfind
    | some c =>
      dsimp only
      by_cases htext : c.text source = ""
      · rw [orElseText, if_pos htext]
        apply Named.skipped _ ih
        intro b hb
        obtain rfl : c = b := Option.some.inj (hfind.symm.trans (firstOfKind_iff.mpr hb))
        exact htext
      · rw [orElseText, if_neg htext]
        exact .found (firstOfKind_iff.mp hfind) htext

theorem preferred_congr (source : Bytes) (h : f'.children = f.children)
    (kinds : List (List String)) : preferred source f' kinds = preferred source f kinds := by
  induction kinds with
  | nil => rfl
  | cons kind kinds ih => rw [preferred, preferred, childText, childText, h, ih]

theorem functionName_of_declarator (source : Bytes) (h : functionDeclarator? t = some f) :
    functionName source t = preferred source f nameKinds := by
  have hlast : ∀ text, orElseText text "" = text := by
    intro text
    unfold orElseText
    split_ifs with htext
    · exact htext.symm
    · rfl
  rw [functionName, h]
  simp only [nameKinds, preferred, hlast]

theorem functionName_of_none (source : Bytes) (h : functionDeclarator? t = none) :
    functionName source t = "" := by
  rw [functionName, h]

end Names

section Insertions

variable {t t' d d' f f' : Tree} {w : Nat}

theorem SameInside.symm (h : SameInside d d') : SameInside d' d :=
  ⟨h.type_eq.symm, h.children_eq.symm⟩

theorem SameInside.wraps {e : Tree} (h : SameInside d d') (next : Wraps d e) : Wraps d' e := by
  cases next with
  | field declares =>
    rw [Declares, ← h.children_eq] at declares
    exact .field declares
  | declarator no_field first =>
    rw [← h.children_eq] at no_field
    rw [namedChildren, ← h.children_eq] at first
    exact .declarator no_field first

theorem SameInside.leads (h : SameInside d d') (hleads : Leads d w f) :
    ∃ f', Leads d' w f' ∧ SameInside f f' := by
  cases hleads with
  | here => exact ⟨d', .here, h⟩
  | through wrapper next hrest =>
    -- from the second declarator on, both chains are one
    have wrapper' : IsWrapper d' := by
      rw [IsWrapper, h.type_eq]
      exact wrapper
    exact ⟨f, .through wrapper' (h.wraps next) hrest, rfl, rfl⟩

/-- A function declarator is reached through one wrapper more. -/
theorem OneMore.leads (h : OneMore d d') (hleads : Leads d w f)
    (hf : f.type = "function_declarator") : ∃ f', Leads d' (w + 1) f' ∧ SameInside f f' := by
  induction h generalizing w with
  | here wrapper next same =>
    obtain ⟨f', hleads', hsame⟩ := same.leads hleads
    exact ⟨f', .through wrapper next hleads', hsame⟩
  | further wrapper wrapper' next next' _ ih =>
    cases hleads with
    | here => exact absurd hf wrapper.type_ne
    | through _ next₂ hrest =>
      rw [next₂.unique next] at hrest
      obtain ⟨f', hleads', hsame⟩ := ih hrest
      exact ⟨f', .through wrapper' next' hleads', hsame⟩

/-- There is no other function declarator to be reached. -/
theorem OneMore.leads_of_leads (h : OneMore d d') (hleads : Leads d' w f')
    (hf : f'.type = "function_declarator") :
    ∃ v f, w = v + 1 ∧ Leads d v f ∧ SameInside f f' := by
  induction h generalizing w with
  | here wrapper next same =>
    cases hleads with
    | here => exact absurd hf wrapper.type_ne
    | @through _ _ _ v _ next₂ hrest =>
      rw [next₂.unique next] at hrest
      obtain ⟨f, hleads', hsame⟩ := same.symm.leads hrest
      exact ⟨v, f, rfl, hleads', hsame.symm⟩
  | further wrapper wrapper' next next' _ ih =>
    cases hleads with
    | here => exact absurd hf wrapper'.type_ne
    | through _ next₂ hrest =>
      rw [next₂.unique next'] at hrest
      obtain ⟨v, f, rfl, hleads', hsame⟩ := ih hrest
      exact ⟨v + 1, f, rfl, .through wrapper next hleads', hsame⟩

theorem Rewrapped.functionName_eq (source : Bytes) (h : Rewrapped t t')
    (hbound : ∀ w f, Reaches t' w f → w ≤ 15) :
    functionName source t' = functionName source t := by
  obtain ⟨d, d', hd, hd', hmore⟩ := h
  cases hfound : functionDeclarator? t' with
  | some f' =>
    obtain ⟨w, hw, ⟨e, he, hleads⟩, hf⟩ := functionDeclarator?_eq_some.mp hfound
    obtain rfl := hd'.unique he
    obtain ⟨v, f, rfl, hleads', hsame⟩ := hmore.leads_of_leads hleads hf
    have hfound' : functionDeclarator? t = some f :=
      functionDeclarator?_eq_some.mpr
        ⟨v, by omega, ⟨d, hd, hleads'⟩, hsame.type_eq.symm.trans hf⟩
    rw [functionName_of_declarator source hfound, functionName_of_declarator source hfound',
      preferred_congr source hsame.children_eq]
  | none =>
    have hnone : functionDeclarator? t = none := by
      rw [Option.eq_none_iff_forall_ne_some]
      intro f hsome
      obtain ⟨w, -, ⟨e, he, hleads⟩, hf⟩ := functionDeclarator?_eq_some.mp hsome
      obtain rfl := hd.unique he
      obtain ⟨f', hleads', hsame⟩ := hmore.leads hleads hf
      -- the chain with the new wrapper is still short enough to be followed to its end
      have hreaches : Reaches t' (w + 1) f' := ⟨d', hd', hleads'⟩
      have hfound' := functionDeclarator?_eq_some.mpr
        ⟨w + 1, hbound _ _ hreaches, hreaches, hsame.type_eq.trans hf⟩
      simp [hfound] at hfound'
    rw [functionName_of_none source hfound, functionName_of_none source hnone]

end Insertions

/-- The name of a function definition stands in the function declarator that its chain of
declarators leads to, through fifteen wrappers at most. One more wrapper anywhere in the chain is
not noticed unless it is the sixteenth. -/
theorem functionName_sees_through_wrappers (source : Bytes) (t : Tree) :
    (∀ w f, Reaches t w f → f.type = "function_declarator" →
      (w ≤ 15 → Named source f nameKinds (functionName source t)) ∧
      (16 ≤ w → functionName source t = "")) ∧
    ((∀ w f, Reaches t w f → f.type ≠ "function_declarator") → functionName source t = "") ∧
    (∀ t', Rewrapped t t' → (∀ w f, Reaches t' w f → w ≤ 15) →
      functionName source t' = functionName source t) ∧
    (t.type = "function_definition" →
      C.profile.nodeName source t = functionName source t ∧
      Cpp.profile.nodeName source t = functionName source t) := by
  refine ⟨?_, ?_, ?_, ?_⟩
  · intro w f hreaches hf
    constructor
    · intro hw
      have hfound : functionDeclarator? t = some f :=
        functionDeclarator?_eq_some.mpr ⟨w, hw, hreaches, hf⟩
      rw [functionName_of_declarator source hfound]
      exact named_preferred source f nameKinds
    · intro hw
      apply functionName_of_none source
      rw [Option.eq_none_iff_forall_ne_some]
      intro f' hsome
      obtain ⟨w', hw', hreaches', hf'⟩ := functionDeclarator?_eq_some.mp hsome
      have heq := hreaches.wrappers_eq hf hreaches' hf'
      omega
  · intro hnever
    apply functionName_of_none source
    rw [Option.eq_none_iff_forall_ne_some]
    intro f hsome
    obtain ⟨w, -, hreaches, hf⟩ := functionDeclarator?_eq_some.mp hsome
    exact hnever w f hreaches hf
  · intro t' h hbound
    exact h.functionName_eq source hbound
  · intro htype
    have hinner : innerName source t = some (functionName source t) := by
      rw [innerName, if_pos htype]
    exact ⟨C.profile.nodeName_of_innerName hinner, Cpp.profile.nodeName_of_innerName hinner⟩

section Wrapped

/-- A function declarator behind `n` wrappers: pointers and brackets in turn. The brackets have no
field for what they wrap. -/
def behindWrappers : Nat → Option String → Tree
  | 0, field =>
    .node ⟨"function_declarator", true, field, 0, 3, ⟨0, 0⟩, ⟨0, 3⟩⟩
      [.node ⟨"identifier", true, some "declarator", 0, 1, ⟨0, 0⟩, ⟨0, 1⟩⟩ [],
        .node ⟨"parameter_list", true, some "parameters", 1, 3, ⟨0, 1⟩, ⟨0, 3⟩⟩ []]
  | n + 1, field =>
    if n % 2 = 0 then
      .node ⟨"pointer_declarator", true, field, 0, 3, ⟨0, 0⟩, ⟨0, 3⟩⟩
        [.node ⟨"*", false, none, 0, 0, ⟨0, 0⟩, ⟨0, 0⟩⟩ [], behindWrappers n (some "declarator")]
    else
      .node ⟨"parenthesized_declarator", true, field, 0, 3, ⟨0, 0⟩, ⟨0, 3⟩⟩
        [.node ⟨"(", false, none, 0, 0, ⟨0, 0⟩, ⟨0, 0⟩⟩ [], behindWrappers n none]

def wrappedDefinition (n : Nat) : Tree :=
  .node ⟨"function_definition", true, none, 0, 3, ⟨0, 0⟩, ⟨0, 3⟩⟩
    [behindWrappers n (some "declarator")]

theorem label_behindWrappers (n : Nat) (field : Option String) :
    (behindWrappers n field).label.field = field ∧ (behindWrappers n field).isNamed = true ∧
      EndsInDeclarator (behindWrappers n field) := by
  simp only [← isDeclarator_iff]
  cases n with
  | zero => exact ⟨rfl, rfl, show Text.endsWith "function_declarator" "declarator" = true by decide⟩
  | succ n =>
    unfold behindWrappers
    split_ifs
    · exact ⟨rfl, rfl, show Text.endsWith "pointer_declarator" "declarator" = true by decide⟩
    · exact ⟨rfl, rfl, show Text.endsWith "parenthesized_declarator" "declarator" = true by decide⟩

theorem declares_wrappedDefinition (n : Nat) :
    Declares (wrappedDefinition n) (behindWrappers n (some "declarator")) :=
  ⟨(label_behindWrappers n _).1, [], [], rfl, by simp⟩

theorem exists_wraps_behindWrappers (n : Nat) (field : Option String) :
    IsWrapper (behindWrappers (n + 1) field) ∧
      ∃ field', Wraps (behindWrappers (n + 1) field) (behindWrappers n field') := by
  rw [behindWrappers]
  split_ifs
  · refine ⟨show "pointer_declarator" ∈ wrappers by decide, some "declarator", .field ?_⟩
    exact ⟨(label_behindWrappers n _).1, [_], [], rfl, by simp [HasField, label]⟩
  · obtain ⟨hfield, hnamed, hends⟩ := label_behindWrappers n none
    refine ⟨show "parenthesized_declarator" ∈ wrappers by decide, none, .declarator ?_ ?_⟩
    · intro b hb
      rcases List.mem_pair.mp hb with rfl | rfl
      · simp [HasField, label]
      · simp [HasField, hfield]
    · refine ⟨hends, [], [], ?_, by simp⟩
      change List.filter isNamed [_, _] = _
      rw [List.filter_cons_of_neg (by decide), List.filter_cons_of_pos hnamed]
      rfl

theorem leads_behindWrappers (n : Nat) (field : Option String) :
    ∃ field', Leads (behindWrappers n field) n (behindWrappers 0 field') := by
  induction n generalizing field with
  | zero => exact ⟨field, .here⟩
  | succ n ih =>
    obtain ⟨hwrapper, inner, hnext⟩ := exists_wraps_behindWrappers n field
    obtain ⟨field', hleads⟩ := ih inner
    exact ⟨field', .through hwrapper hnext hleads⟩

theorem wrappers_behindWrappers {n w : Nat} {field : Option String} {f : Tree}
    (h : Leads (behindWrappers n field) w f) : w ≤ n := by
  induction n generalizing w field with
  | zero =>
    cases h with
    | here => exact Nat.le_refl 0
    | through wrapper _ _ => exact absurd rfl wrapper.type_ne
  | succ n ih =>
    cases h with
    | here => exact Nat.zero_le _
    | through _ next hrest =>
      obtain ⟨-, inner, hnext⟩ := exists_wraps_behindWrappers n field
      rw [next.unique hnext] at hrest
      exact Nat.succ_le_succ (ih hrest)

theorem reaches_wrappedDefinition (n : Nat) :
    ∃ f, Reaches (wrappedDefinition n) n f ∧ f.type = "function_declarator" := by
  obtain ⟨field, hleads⟩ := leads_behindWrappers n (some "declarator")
  exact ⟨_, ⟨_, declares_wrappedDefinition n, hleads⟩, rfl⟩

theorem rewrapped_wrappedDefinition (n : Nat) :
    Rewrapped (wrappedDefinition n) (wrappedDefinition (n + 1)) := by
  obtain ⟨hwrapper, inner, hnext⟩ := exists_wraps_behindWrappers n (some "declarator")
  have hsame : SameInside (behindWrappers n (some "declarator")) (behindWrappers n inner) := by
    cases n with
    | zero => exact ⟨rfl, rfl⟩
    | succ n =>
      unfold behindWrappers
      split_ifs <;> exact ⟨rfl, rfl⟩
  exact ⟨_, _, declares_wrappedDefinition n, declares_wrappedDefinition (n + 1),
    .here hwrapper hnext hsame⟩

/-- Fifteen wrappers are looked through and a sixteenth is not; the fifteenth changes nothing. -/
theorem functionName_sees_through_wrappers_mixed :
    C.profile.nodeName [102, 40, 41] (wrappedDefinition 15) = "f" ∧
      functionName [102, 40, 41] (wrappedDefinition 15) =
        functionName [102, 40, 41] (wrappedDefinition 14) ∧
      (∃ f, Reaches (wrappedDefinition 16) 16 f ∧ f.type = "function_declarator") ∧
      functionName [102, 40, 41] (wrappedDefinition 16) = "" := by
  have hspec := fun n => functionName_sees_through_wrappers [102, 40, 41] (wrappedDefinition n)
  have hsame : functionName [102, 40, 41] (wrappedDefinition 15) =
      functionName [102, 40, 41] (wrappedDefinition 14) := by
    apply (hspec 14).2.2.1 _ (rewrapped_wrappedDefinition 14)
    intro w f hreaches
    obtain ⟨d, hd, hleads⟩ := hreaches
    obtain rfl := (declares_wrappedDefinition 15).unique hd
    exact wrappers_behindWrappers hleads
  obtain ⟨f, hreaches, hf⟩ := reaches_wrappedDefinition 16
  refine ⟨?_, hsame, ⟨f, hreaches, hf⟩, ((hspec 16).1 16 f hreaches hf).2 (Nat.le_refl 16)⟩
  rw [((hspec 15).2.2.2 rfl).1, hsame]
  decide +kernel

end Wrapped

end Language.C
end Canopy
