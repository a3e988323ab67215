import Canopy.Grammar.Pack
import Canopy.Proofs.Descendants

namespace Canopy

theorem Category.name_ne_empty (c : Category) : c.name ≠ "" := by
  cases c <;> decide

/-- Only a raw type that is passed through can be empty. -/
theorem Profile.semanticType_eq_empty {l : Profile} {p : Place} (h : l.semanticType p = "") :
    p.type = "" := by
  unfold Profile.semanticType at h
  split at h
  · exact absurd h (Category.name_ne_empty _)
  · split at h
    · exact absurd h (Category.name_ne_empty _)
    · exact h

theorem Profile.configFor?_eq_some {l : Profile} {t : Tree} {c : NodeConfig} :
    l.configFor? t = some c ↔ t.isNamed = true ∧ l.config? t.type = some c := by
  unfold configFor?
  split_ifs with h <;> simp [h]

namespace Ast
open Canopy.Tree

variable (l : Profile) (options : BuildOptions) (source : Bytes) {t : Tree}

/-- The node of the result that stands for the raw node at an address. -/
def nodeAt (t : Tree) (q : Address) (s : Place) : Node :=
  { Node.ofPlace l options source (t.rank q)
      ⟨s, parentRank t 0 none q, s.ancestors.length⟩ with
    descendantCount := sizeAll s.tree.children }

theorem flatten_eq (t : Tree) :
    flatten l options source t =
      countDescendants (preorder (Node.ofPlace l options source) 0 none [] t) :=
  congrArg countDescendants (walk_eq_preorder _ t)

theorem length_flatten (t : Tree) : (flatten l options source t).length = t.size := by
  rw [flatten_eq, countDescendants, List.length_map, length_preorder]

/-- The whole result, node by node. -/
theorem flatten_getElem?_rank {q : Address} {s : Place} (h : t.top.at? q = some s) :
    (flatten l options source t)[t.rank q]? = some (nodeAt l options source t q s) := by
  have hnode : (preorder (Node.ofPlace l options source) 0 none [] t)[t.rank q]? =
      some (Node.ofPlace l options source (t.rank q)
        ⟨s, parentRank t 0 none q, s.ancestors.length⟩) := by
    have := preorder_getElem?_rank (Node.ofPlace l options source) h 0 none
    rwa [Nat.zero_add] at this
  have hparent : ∀ i p, (Node.ofPlace l options source i p).parent = p.parent := fun _ _ => rfl
  have hcount := descendantCounts_getElem?_rank hparent h
  rw [flatten_eq, countDescendants, List.getElem?_map, hnode, Option.map_some]
  simp only [show ∀ i p, (Node.ofPlace l options source i p).index = i from fun _ _ => rfl,
    hcount, Option.getD_some]
  rfl

theorem flatten_getElem?_eq_some {k : Nat} {n : Node} :
    (flatten l options source t)[k]? = some n ↔
      ∃ q s, t.top.at? q = some s ∧ t.rank q = k ∧ n = nodeAt l options source t q s := by
  constructor
  · intro h
    have hk := (List.getElem?_eq_some_iff.mp h).1
    rw [length_flatten] at hk
    obtain ⟨q, s, hs, rfl⟩ := exists_of_lt_size (p := t.top) hk
    refine ⟨q, s, hs, rfl, Option.some.inj ?_⟩
    rw [← h, ← flatten_getElem?_rank l options source hs]
    rfl
  · rintro ⟨q, s, hs, rfl, rfl⟩
    exact flatten_getElem?_rank l options source hs

theorem issues_nodeAt {q : Address} {s : Place} :
    (nodeAt l options source t q s).issues = [] ↔ s.type ≠ "" := by
  have hraw : (nodeAt l options source t q s).rawType = s.type := rfl
  have hsemantic : (nodeAt l options source t q s).semanticType = l.semanticType s := rfl
  have hempty := Profile.semanticType_eq_empty (l := l) (p := s)
  simp only [Node.issues, hraw, hsemantic, List.append_eq_nil_iff]
  split_ifs <;> simp_all

/-- A result is refused exactly where some raw node has no type. -/
theorem firstIssues_flatten :
    firstIssues (flatten l options source t) = none ↔
      ∀ q s, t.top.at? q = some s → s.type ≠ "" := by
  simp only [firstIssues, Option.map_eq_none_iff, List.find?_eq_none, Bool.not_eq_true']
  constructor
  · intro h q s hs
    have hmem := List.mem_of_getElem? (flatten_getElem?_rank l options source hs)
    exact (issues_nodeAt l options source).mp (by simpa using h _ hmem)
  · intro h n hn
    obtain ⟨k, hk⟩ := List.getElem?_of_mem hn
    obtain ⟨q, s, hs, -, rfl⟩ := (flatten_getElem?_eq_some l options source).mp hk
    simpa using (issues_nodeAt l options source (t := t) (q := q)).mpr (h q s hs)

theorem build_eq_ok {world : World} {a : Adapter} {ast : Ast} :
    (build world options source a).result = .ok ast ↔
      ∃ parse, (a.provider.parse (world.load a.provider.grammar) world.found
          source.length).result = .ok parse ∧
        (∀ q s, parse.tree.top.at? q = some s → s.type ≠ "") ∧
        ast = ⟨a.name, source.length, parse.hasError,
          flatten a.profile options source parse.tree⟩ := by
  cases hparse : (a.provider.parse (world.load a.provider.grammar) world.found
    source.length).result with
  | error fault => simp [build, hparse]
  | ok parse =>
    simp only [← firstIssues_flatten a.profile options source]
    cases hissues : firstIssues (flatten a.profile options source parse.tree) with
    | some issues => simp [build, hparse, hissues]
    | none => simp [build, hparse, hissues, eq_comm]

/-- What the `k`-th node of a result says of the raw node at address `q`. -/
structure Describes (t : Tree) (k : Nat) (q : Address) (s : Place) (n : Node) : Prop where
  index_eq : n.index = k
  rawType_eq : n.rawType = s.type
  startByte_eq : n.startByte = s.tree.startByte
  endByte_eq : n.endByte = s.tree.endByte
  startPoint_eq : (⟨n.startLine, n.startColumn⟩ : Point) = s.tree.label.startPoint
  endPoint_eq : (⟨n.endLine, n.endColumn⟩ : Point) = s.tree.label.endPoint
  /-- The parent is given by its own position in pre-order. -/
  parent_eq : n.parent = (parentAddress? q).map fun up => t.addresses.idxOf up
  parent_none : n.parent = none ↔ k = 0
  depth_eq : n.depth = s.ancestors.length ∧ n.depth = q.length
  childCount_eq : n.childCount = s.tree.children.length

theorem describes_nodeAt {q : Address} {s : Place} (h : t.top.at? q = some s) :
    Describes t (t.rank q) q s (nodeAt l options source t q s) where
  index_eq := rfl
  rawType_eq := rfl
  startByte_eq := rfl
  endByte_eq := rfl
  startPoint_eq := rfl
  endPoint_eq := rfl
  parent_eq := by
    change parentRank t 0 none q = _
    rw [parentRank_top]
    rcases List.eq_nil_or_concat q with rfl | ⟨r, i, rfl⟩
    · rfl
    · rw [List.concat_eq_append] at h ⊢
      obtain ⟨u, hu, -⟩ := Place.at?_append_eq_some h
      rw [parentAddress?_concat, Option.map_some, Option.map_some]
      exact congrArg some (idxOf_addresses hu).symm
  parent_none := by
    change parentRank t 0 none q = none ↔ _
    cases q with
    | nil => simp [parentRank, rank_nil]
    | cons i q =>
      obtain ⟨c, hc, -⟩ := Place.at?_cons_eq_some h
      have hrank := rank_cons hc q
      simp only [parentRank, reduceCtorEq, false_iff]
      change t.rank (i :: q) = _ at hrank
      omega
  depth_eq := by
    have hlength := Place.ancestors_length_at? h
    exact ⟨rfl, hlength.trans (Nat.zero_add _)⟩
  childCount_eq := rfl

/-- The stack machine gives the recursive traversal: the result has one node for each raw node, and
the `k`-th describes the one that is `k`-th in pre-order. -/
theorem build_follows_preorder (options : BuildOptions) (source : Bytes) {world : World}
    {a : Adapter} {parse : Parse}
    (hparse : (a.provider.parse (world.load a.provider.grammar) world.found
      source.length).result = .ok parse)
    (htypes : ∀ q s, parse.tree.top.at? q = some s → s.type ≠ "") :
    ∃ ast, (build world options source a).result = .ok ast ∧
      ast.nodes.length = parse.tree.addresses.length ∧
      parse.tree.addresses.Nodup ∧
      (∀ q, q ∈ parse.tree.addresses ↔ (parse.tree.top.at? q).isSome) ∧
      ∀ k q, parse.tree.addresses[k]? = some q → ∃ s n,
        parse.tree.top.at? q = some s ∧
        (parentAddress? q).bind parse.tree.top.at? = s.parent? ∧
        ast.nodes[k]? = some n ∧ Describes parse.tree k q s n := by
  refine ⟨_, (build_eq_ok options source).mpr ⟨parse, hparse, htypes, rfl⟩, ?_,
    nodup_addresses _, fun q => mem_addresses (p := parse.tree.top), ?_⟩
  · rw [length_flatten, length_addresses]
  · intro k q hq
    obtain ⟨s, hs, hk⟩ := exists_of_addresses_getElem? (p := parse.tree.top) hq
    obtain rfl : parse.tree.rank q = k := hk
    exact ⟨s, _, hs, at?_parentAddress? hs, flatten_getElem?_rank a.profile options source hs,
      describes_nodeAt a.profile options source hs⟩

/-- The types of a tree can be checked along its addresses. -/
theorem type_ne_empty (hall : ∀ r ∈ t.addresses, (t.top.at? r).map Place.type ≠ some "")
    {q : Address} {s : Place} (h : t.top.at? q = some s) : s.type ≠ "" := by
  have hq : q ∈ t.addresses := (mem_addresses (p := t.top)).mpr (by rw [h]; rfl)
  simpa [h] using hall q hq

/-- The tree of `x=1`. -/
def assignmentTree : Tree :=
  .node ⟨"module", true, none, 0, 3, ⟨0, 0⟩, ⟨0, 3⟩⟩
    [.node ⟨"expression_statement", true, none, 0, 3, ⟨0, 0⟩, ⟨0, 3⟩⟩
      [.node ⟨"assignment", true, none, 0, 3, ⟨0, 0⟩, ⟨0, 3⟩⟩
        [.node ⟨"identifier", true, some "left", 0, 1, ⟨0, 0⟩, ⟨0, 1⟩⟩ [],
          .node ⟨"=", false, none, 1, 2, ⟨0, 1⟩, ⟨0, 2⟩⟩ [],
          .node ⟨"integer", true, some "right", 2, 3, ⟨0, 2⟩, ⟨0, 3⟩⟩ []]]]

def assignmentWorld : World := ⟨Pack.bundled.loader, some ⟨assignmentTree, false⟩⟩

theorem assignmentTree_types (q : Address) (s : Place) (h : assignmentTree.top.at? q = some s) :
    s.type ≠ "" :=
  type_ne_empty (by decide) h

theorem parse_assignmentWorld : ((Adapter.ofLanguage .python).provider.parse
    (assignmentWorld.load (Adapter.ofLanguage .python).provider.grammar) assignmentWorld.found
    3).result = .ok ⟨assignmentTree, false⟩ := rfl

theorem build_follows_preorder_assignment :
    ∃ ast, (build assignmentWorld {} [120, 61, 49] (.ofLanguage .python)).result = .ok ast ∧
      ast.nodes.length = 6 ∧
      ∀ k q, assignmentTree.addresses[k]? = some q → ∃ s n,
        assignmentTree.top.at? q = some s ∧ ast.nodes[k]? = some n ∧
        Describes assignmentTree k q s n := by
  have hparse : ((Adapter.ofLanguage .python).provider.parse
      (assignmentWorld.load (Adapter.ofLanguage .python).provider.grammar) assignmentWorld.found
      3).result = .ok ⟨assignmentTree, false⟩ := rfl
  obtain ⟨ast, hast, hlen, -, -, hnodes⟩ :=
    build_follows_preorder {} [120, 61, 49] hparse assignmentTree_types
  refine ⟨ast, hast, hlen, fun k q hq => ?_⟩
  obtain ⟨s, n, hs, -, hn, hd⟩ := hnodes k q hq
  exact ⟨s, n, hs, hn, hd⟩

end Ast
end Canopy
