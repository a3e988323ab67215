import Canopy.Proofs.Ancestry
import Canopy.Proofs.NodeTraits

namespace Canopy

namespace Language.C

/-- A storage class specifier among the children reads `static`. -/
def DeclaresStatic (source : Bytes) (t : Tree) : Prop :=
  ∃ c ∈ t.children, c.type = "storage_class_specifier" ∧ c.text source = "static"

/-- Visibility as it is handed down from the root: each node on the way passes on what it was
given, unless it declares static storage. -/
def HandsDown (source : Bytes) : Prop → Tree → Address → Prop
  | given, t, [] => ¬ DeclaresStatic source t ∧ given
  | given, t, i :: q =>
    ∃ c, t.children[i]? = some c ∧ HandsDown source (¬ DeclaresStatic source t ∧ given) c q

variable (source : Bytes)

theorem hasStaticChild_iff (t : Tree) :
    hasStaticChild source t = true ↔ DeclaresStatic source t := by
  simp [hasStaticChild, DeclaresStatic]

theorem isPublic_iff (p : Place) :
    Language.c.profile.isPublic source p = true ↔
      ∀ t ∈ p.tree :: p.ancestors, ¬ DeclaresStatic source t := by
  change (!isStatic source p) = true ↔ _
  rw [Bool.not_eq_true', ← Bool.not_eq_true, isStatic, List.any_eq_true]
  simp only [hasStaticChild_iff, not_exists, not_and]

/-- The walk up the ancestors, one step at a time. -/
theorem isPublic_step (p : Place) :
    Language.c.profile.isPublic source p = true ↔ ¬ DeclaresStatic source p.tree ∧
      (p.parent? = none ∨
        ∃ u, p.parent? = some u ∧ Language.c.profile.isPublic source u = true) := by
  obtain ⟨t, ancestors⟩ := p
  rw [isPublic_iff, List.forall_mem_cons]
  apply and_congr_right
  intro _
  cases ancestors with
  | nil => simp [Place.parent?]
  | cons up further => simp [Place.parent?, isPublic_iff]

/-- What the nodes above an address leave over is what is handed down to it. -/
theorem isPublic_iff_handsDown {p s : Place} {q : Address} (h : p.at? q = some s) :
    Language.c.profile.isPublic source s = true ↔
      HandsDown source (∀ t ∈ p.ancestors, ¬ DeclaresStatic source t) p.tree q := by
  induction q generalizing p with
  | nil =>
    obtain rfl : p = s := Option.some.inj h
    rw [isPublic_iff, List.forall_mem_cons]
    rfl
  | cons i q ih =>
    obtain ⟨c, hc, hs⟩ := Place.at?_cons_eq_some h
    rw [ih hs, HandsDown]
    simp only [hc, Option.some.injEq, exists_eq_left', List.forall_mem_cons]

theorem isPublic_iff_handsDown_top {t : Tree} {q : Address} {s : Place}
    (h : t.top.at? q = some s) :
    Language.c.profile.isPublic source s = true ↔ HandsDown source True t q := by
  have hnone : (∀ up ∈ t.top.ancestors, ¬ DeclaresStatic source up) = True := by simp [Tree.top]
  rw [isPublic_iff_handsDown source h, hnone]
  rfl

/-- Below a hidden node everything is hidden. -/
theorem isPublic_of_below {u s : Place} {r : Address} (h : u.at? r = some s)
    (hs : Language.c.profile.isPublic source s = true) :
    Language.c.profile.isPublic source u = true := by
  induction r generalizing u with
  | nil =>
    obtain rfl : u = s := Option.some.inj h
    exact hs
  | cons i r ih =>
    obtain ⟨c, -, hbelow⟩ := Place.at?_cons_eq_some h
    have hchild := (isPublic_step source _).mp (ih hbelow)
    simpa [Place.parent?] using hchild.2

end Language.C

namespace Ast
open Canopy.Tree

/-- Visibility is shown only as the rule of the language gives it. -/
theorem isPublic_of_nodeAt {l : Profile} {options : BuildOptions} {source : Bytes} {t : Tree}
    {q : Address} {s : Place} {b : Bool} (h : (nodeAt l options source t q s).isPublic = some b) :
    l.isPublic source s = b := by
  simp only [nodeAt, Node.ofPlace] at h
  split at h
  · split_ifs at h
    exact Option.some.inj h
  · cases h

/-- A node of the flat list that is shown as hidden hides all below it that has a visibility. The
nodes between the two need not have one. -/
theorem hidden_below_flatten (options : BuildOptions) (source : Bytes) {t : Tree} {i j : Nat}
    {m n : Node} (hm : (flatten Language.c.profile options source t)[i]? = some m)
    (hn : (flatten Language.c.profile options source t)[j]? = some n)
    (hancestor : IsAncestor (flatten Language.c.profile options source t) i j)
    (hidden : m.isPublic = some false) (hshown : n.isPublic ≠ none) :
    n.isPublic = some false := by
  obtain ⟨q, u, hu, rfl, rfl⟩ := (flatten_getElem?_eq_some _ options source).mp hm
  obtain ⟨q', s, hs, rfl, rfl⟩ := (flatten_getElem?_eq_some _ options source).mp hn
  obtain ⟨a, r, s', -, hs', ha, hr⟩ := (isAncestor_flatten _ options source).mp hancestor
  obtain ⟨u', hu', hbelow⟩ := Place.at?_append_eq_some hs'
  obtain rfl : a = q := rank_injective (p := t.top) hu' hu ha
  obtain rfl : a ++ r = q' := rank_injective (p := t.top) hs' hs hr
  obtain rfl : u' = u := Option.some.inj (hu'.symm.trans hu)
  obtain rfl : s' = s := Option.some.inj (hs'.symm.trans hs)
  obtain ⟨b, hb⟩ := Option.ne_none_iff_exists'.mp hshown
  cases b with
  | false => exact hb
  | true =>
    have hpublic := Language.C.isPublic_of_below source hbelow (isPublic_of_nodeAt hb)
    rw [isPublic_of_nodeAt hidden] at hpublic
    cases hpublic

/-- Visibility in C is an inherited attribute: the walk from a node up to the root finds what is
handed down from the root to the node. So in a result nothing below a hidden node is public. -/
theorem visibility_handed_down :
    (∀ (source : Bytes) (t : Tree) (q : Address) (s : Place), t.top.at? q = some s →
      (Language.c.profile.isPublic source s = true ↔
        ¬ Language.C.DeclaresStatic source s.tree ∧
          (q = [] ∨ ∃ u, s.parent? = some u ∧ Language.c.profile.isPublic source u = true)) ∧
      (Language.c.profile.isPublic source s = true ↔
        Language.C.HandsDown source True t q)) ∧
    ∀ (world : World) (options : BuildOptions) (source : Bytes) (provider : Provider) (ast : Ast),
      (build world options source ⟨Language.c.profile, provider⟩).result = .ok ast →
      ∀ (i j : Nat) (m n : Node), ast.nodes[i]? = some m → ast.nodes[j]? = some n →
        IsAncestor ast.nodes i j → m.isPublic = some false → n.isPublic ≠ none →
        n.isPublic = some false := by
  refine ⟨?_, ?_⟩
  · intro source t q s hs
    refine ⟨?_, Language.C.isPublic_iff_handsDown_top source hs⟩
    rw [← parent?_eq_none hs]
    exact Language.C.isPublic_step source s
  · intro world options source provider ast h i j m n hm hn hancestor hidden hshown
    obtain ⟨parse, -, -, rfl⟩ := (build_eq_ok options source).mp h
    exact hidden_below_flatten options source hm hn hancestor hidden hshown

/-- A static declaration of a struct with one field. -/
def staticStruct : Tree :=
  .node ⟨"translation_unit", true, none, 0, 6, ⟨0, 0⟩, ⟨0, 6⟩⟩
    [.node ⟨"declaration", true, none, 0, 6, ⟨0, 0⟩, ⟨0, 6⟩⟩
      [.node ⟨"storage_class_specifier", true, none, 0, 6, ⟨0, 0⟩, ⟨0, 6⟩⟩ [],
        .node ⟨"struct_specifier", true, some "type", 6, 6, ⟨0, 6⟩, ⟨0, 6⟩⟩
          [.node ⟨"field_declaration_list", true, some "body", 6, 6, ⟨0, 6⟩, ⟨0, 6⟩⟩
            [.node ⟨"field_declaration", true, none, 6, 6, ⟨0, 6⟩, ⟨0, 6⟩⟩ []]]]]

/-- The octets of `static`. -/
def staticWord : Bytes := [115, 116, 97, 116, 105, 99]

/-- The word hides the field along with the declaration. The list of fields between them has no
visibility. -/
theorem visibility_handed_down_static :
    ∃ ast m n, (build ⟨Pack.bundled.loader, some ⟨staticStruct, false⟩⟩ {} staticWord
        (.ofLanguage .c)).result = .ok ast ∧
      ast.nodes[1]? = some m ∧ m.isPublic = some false ∧
      ast.nodes[5]? = some n ∧ n.rawType = "field_declaration" ∧ n.isPublic = some false := by
  have htypes : ∀ q s, staticStruct.top.at? q = some s → s.type ≠ "" :=
    fun _ _ => type_ne_empty (by decide)
  have hast : (build ⟨Pack.bundled.loader, some ⟨staticStruct, false⟩⟩ {} staticWord
      (.ofLanguage .c)).result =
      .ok ⟨"c", 6, false, flatten Language.c.profile {} staticWord staticStruct⟩ :=
    (build_eq_ok {} staticWord).mpr ⟨⟨staticStruct, false⟩, rfl, htypes, rfl⟩
  have hm := flatten_getElem?_rank Language.c.profile {} staticWord
    (t := staticStruct) (q := [0]) rfl
  have hn := flatten_getElem?_rank Language.c.profile {} staticWord
    (t := staticStruct) (q := [0, 1, 0, 0]) rfl
  have hancestor : IsAncestor (flatten Language.c.profile {} staticWord staticStruct) 1 5 :=
    (isAncestor_flatten _ _ _).mpr ⟨[0], [1, 0, 0], _, by decide, rfl, by decide, by decide⟩
  have hidden := visibility_handed_down.2 _ _ _ _ _ hast 1 5 _ _ hm hn hancestor
    (by decide +kernel) (by decide +kernel)
  exact ⟨_, _, _, hast, hm, by decide +kernel, hn, rfl, hidden⟩

end Ast
end Canopy
