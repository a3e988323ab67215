import Canopy.Proofs.Flatten
import Mathlib.Data.List.Induction
import Mathlib.Data.Set.Lattice
import Mathlib.Order.CompletePartialOrder
import Mathlib.Order.Interval.Set.Basic

namespace Canopy.Ast
open Canopy.Tree

/-- The node at `i` is what the node at `j` names as its parent. -/
def IsParent (nodes : List Node) (i j : Nat) : Prop :=
  ∃ n, nodes[j]? = some n ∧ n.parent = some i

/-- A proper ancestor: one or more steps up along the parents. -/
def IsAncestor (nodes : List Node) : Nat → Nat → Prop := Relation.TransGen (IsParent nodes)

/-- The positions of a node and its descendants. -/
def span (i : Nat) (n : Node) : Set Nat := Set.Icc i (i + n.descendantCount)

/-- The raw nodes strictly below an address. -/
def below (t : Tree) (q : Address) : List Address :=
  t.addresses.filter fun r => q <+: r ∧ r ≠ q

theorem mem_addresses_append {t : Tree} {q r : Address} {s : Place} (h : t.top.at? q = some s) :
    q ++ r ∈ t.addresses ↔ r ∈ s.tree.addresses := by
  rw [mem_addresses (p := s), ← Option.bind_some s fun u => u.at? r, ← h, ← Place.at?_append]
  exact mem_addresses (p := t.top)

theorem length_below {t : Tree} {q : Address} {s : Place} (h : t.top.at? q = some s) :
    (below t q).length = sizeAll s.tree.children := by
  have hroot : [] ∈ s.tree.addresses := (mem_addresses (p := s)).mpr rfl
  -- with the node itself, what is below it is a copy of the subtree
  have hperm : (q :: below t q).Perm (s.tree.addresses.map (q ++ ·)) := by
    rw [List.perm_ext_iff_of_nodup]
    · intro r
      simp only [below, List.mem_cons, List.mem_filter, List.mem_map, decide_eq_true_eq]
      constructor
      · rintro (rfl | ⟨hr, ⟨e, rfl⟩, -⟩)
        · exact ⟨[], hroot, List.append_nil r⟩
        · exact ⟨e, (mem_addresses_append h).mp hr, rfl⟩
      · rintro ⟨e, he, rfl⟩
        by_cases hnil : e = []
        · exact .inl (by rw [hnil, List.append_nil])
        · exact .inr ⟨(mem_addresses_append h).mpr he, List.prefix_append q e, by simpa using hnil⟩
    · rw [List.nodup_cons]
      exact ⟨by simp [below], (nodup_addresses t).filter _⟩
    · exact (nodup_addresses _).map (List.append_right_injective q)
  have hlen := hperm.length_eq
  rw [List.length_cons, List.length_map, length_addresses, size_eq] at hlen
  omega

variable (l : Profile) (options : BuildOptions) (source : Bytes) {t : Tree}

/-- Every count is the number of raw nodes below. -/
theorem descendantCounts_flatten :
    (flatten l options source t).map Node.descendantCount =
      t.addresses.map fun q => (below t q).length := by
  apply List.ext_getElem?
  intro k
  rw [List.getElem?_map, List.getElem?_map]
  cases hq : t.addresses[k]? with
  | none =>
    rw [List.getElem?_eq_none_iff, length_addresses, ← length_flatten l options source] at hq
    rw [List.getElem?_eq_none hq]
    rfl
  | some q =>
    obtain ⟨s, hs, hk⟩ := exists_of_addresses_getElem? (p := t.top) hq
    obtain rfl : t.rank q = k := hk
    rw [flatten_getElem?_rank l options source hs, Option.map_some, Option.map_some,
      length_below hs]
    rfl

theorem isParent_flatten {i j : Nat} :
    IsParent (flatten l options source t) i j ↔
      ∃ q x s, t.top.at? (q ++ [x]) = some s ∧ t.rank q = i ∧ t.rank (q ++ [x]) = j := by
  constructor
  · rintro ⟨n, hn, hp⟩
    obtain ⟨q, s, hs, rfl, rfl⟩ := (flatten_getElem?_eq_some l options source).mp hn
    change parentRank t 0 none q = some i at hp
    rw [parentRank_top] at hp
    rcases List.eq_nil_or_concat q with rfl | ⟨r, x, rfl⟩
    · simp [parentAddress?] at hp
    · rw [List.concat_eq_append] at hs hp ⊢
      rw [parentAddress?_concat, Option.map_some] at hp
      exact ⟨r, x, s, hs, Option.some.inj hp, rfl⟩
  · rintro ⟨q, x, s, hs, rfl, rfl⟩
    refine ⟨_, flatten_getElem?_rank l options source hs, ?_⟩
    change parentRank t 0 none (q ++ [x]) = _
    rw [parentRank_top, parentAddress?_concat, Option.map_some]

/-- Ancestry along the parents is extension of addresses. -/
theorem isAncestor_flatten {i j : Nat} :
    IsAncestor (flatten l options source t) i j ↔
      ∃ q r s, r ≠ [] ∧ t.top.at? (q ++ r) = some s ∧ t.rank q = i ∧ t.rank (q ++ r) = j := by
  constructor
  · intro h
    induction h with
    | single hstep =>
      obtain ⟨q, x, s, hs, hi, hj⟩ := (isParent_flatten l options source).mp hstep
      exact ⟨q, [x], s, by simp, hs, hi, hj⟩
    | tail _ hstep ih =>
      obtain ⟨q, r, s, hr, hs, hi, hm⟩ := ih
      obtain ⟨q', x, s', hs', hm', hj⟩ := (isParent_flatten l options source).mp hstep
      obtain ⟨u, hu, -⟩ := Place.at?_append_eq_some hs'
      -- both steps name the node between them by its position, so they have one address for it
      obtain rfl : q' = q ++ r := rank_injective (p := t.top) hu hs (hm'.trans hm.symm)
      refine ⟨q, r ++ [x], s', by simp, ?_, hi, ?_⟩
      · rwa [← List.append_assoc]
      · rwa [← List.append_assoc]
  · rintro ⟨q, r, s, hr, hs, rfl, rfl⟩
    -- the step from a parent is the last of a chain, so the address is taken apart from its end
    induction r using List.reverseRecOn generalizing s with
    | nil => exact absurd rfl hr
    | append_singleton r x ih =>
      rw [← List.append_assoc] at hs ⊢
      have hlast : IsParent (flatten l options source t) (t.rank (q ++ r))
          (t.rank (q ++ r ++ [x])) :=
        (isParent_flatten l options source).mpr ⟨q ++ r, x, s, hs, rfl, rfl⟩
      obtain ⟨u, hu, -⟩ := Place.at?_append_eq_some hs
      cases r with
      | nil =>
        rw [List.append_nil] at hlast ⊢
        exact .single hlast
      | cons y r => exact (ih u (by simp) hu).tail hlast

/-- The descendants of a node are the next so many nodes. -/
theorem interval_iff_isAncestor {i j : Nat} {n : Node}
    (hn : (flatten l options source t)[i]? = some n)
    (hj : j < (flatten l options source t).length) :
    i < j ∧ j ≤ i + n.descendantCount ↔ IsAncestor (flatten l options source t) i j := by
  obtain ⟨q, s, hq, rfl, rfl⟩ := (flatten_getElem?_eq_some l options source).mp hn
  rw [length_flatten] at hj
  obtain ⟨r, u, hr, hrank⟩ := exists_of_lt_size (p := t.top) hj
  obtain rfl : t.rank r = j := hrank
  have hinterval : t.rank q ≤ t.rank r ∧ t.rank r < t.rank q + s.tree.size ↔ q <+: r :=
    rank_interval_iff hq hr
  rw [size_eq] at hinterval
  change _ ∧ _ ≤ t.rank q + sizeAll s.tree.children ↔ _
  constructor
  · rintro ⟨hlt, hle⟩
    obtain ⟨e, rfl⟩ := hinterval.mp ⟨by omega, by omega⟩
    refine (isAncestor_flatten l options source).mpr ⟨q, e, u, ?_, hr, rfl, rfl⟩
    rintro rfl
    rw [List.append_nil] at hlt
    exact absurd hlt (Nat.lt_irrefl _)
  · intro h
    obtain ⟨q', e, u', he, hu', hi, hj'⟩ := (isAncestor_flatten l options source).mp h
    obtain ⟨s', hs', -⟩ := Place.at?_append_eq_some hu'
    obtain rfl : q' = q := rank_injective (p := t.top) hs' hq hi
    obtain rfl : q' ++ e = r := rank_injective (p := t.top) hu' hr hj'
    have hne : t.rank q' ≠ t.rank (q' ++ e) := by
      intro heq
      have := rank_injective (p := t.top) hq hr heq
      exact he (by simpa using this)
    have := hinterval.mpr (List.prefix_append q' e)
    omega

/-- Of two nodes, the later one and its descendants are all below the earlier one, or none is. -/
theorem span_subset_or_disjoint {i j : Nat} {m n : Node}
    (hm : (flatten l options source t)[i]? = some m)
    (hn : (flatten l options source t)[j]? = some n) (hij : i ≤ j) :
    span j n ⊆ span i m ∨ Disjoint (span i m) (span j n) := by
  obtain ⟨q, s, hq, rfl, rfl⟩ := (flatten_getElem?_eq_some l options source).mp hm
  obtain ⟨r, u, hr, rfl, rfl⟩ := (flatten_getElem?_eq_some l options source).mp hn
  by_cases hlt : t.rank q + sizeAll s.tree.children < t.rank r
  · refine .inr (Set.disjoint_left.mpr fun x hx hx' => ?_)
    exact absurd (hx'.1.trans hx.2) (Nat.not_le.mpr hlt)
  · refine .inl (Set.Icc_subset_Icc hij ?_)
    have hs := size_eq s.tree
    have hu := size_eq u.tree
    obtain ⟨e, rfl⟩ : q <+: r := (rank_interval_iff (p := t.top) hq hr).mp
      ⟨hij, by change t.rank r < t.rank q + _; omega⟩
    have hrank : t.rank (q ++ e) = t.rank q + s.tree.rank e := rank_append hq e
    obtain ⟨s', hs', he⟩ := Place.at?_append_eq_some hr
    obtain rfl : s = s' := Option.some.inj (hq.symm.trans hs')
    have hend := rank_add_size_le he
    change t.rank (q ++ e) + sizeAll u.tree.children ≤ t.rank q + sizeAll s.tree.children
    omega

/-- Positions and counts of a result hold the whole ancestry of the raw tree: the count of a node
is the number of raw nodes below it, and these are the nodes that follow it. -/
theorem build_intervals_encode_ancestry (options : BuildOptions) (source : Bytes) {world : World}
    {a : Adapter} {ast : Ast} (h : (build world options source a).result = .ok ast) :
    ∃ parse, (a.provider.parse (world.load a.provider.grammar) world.found
        source.length).result = .ok parse ∧
      ast.nodes.map Node.descendantCount =
        parse.tree.addresses.map (fun q => (below parse.tree q).length) ∧
      (∀ (i j : Nat) (n : Node), ast.nodes[i]? = some n → j < ast.nodes.length →
        (i < j ∧ j ≤ i + n.descendantCount ↔ IsAncestor ast.nodes i j)) ∧
      (∀ (i j : Nat) (m n : Node), ast.nodes[i]? = some m → ast.nodes[j]? = some n →
        span i m ⊆ span j n ∨ span j n ⊆ span i m ∨ Disjoint (span i m) (span j n)) ∧
      ∃ root, ast.root? = some root ∧ root.descendantCount + 1 = ast.nodes.length := by
  obtain ⟨parse, hparse, -, rfl⟩ := (build_eq_ok options source).mp h
  refine ⟨parse, hparse, descendantCounts_flatten a.profile options source, ?_, ?_, ?_⟩
  · intro i j n hn hj
    exact interval_iff_isAncestor a.profile options source hn hj
  · intro i j m n hm hn
    rcases Nat.le_total i j with hij | hji
    · exact .inr (span_subset_or_disjoint a.profile options source hm hn hij)
    · rcases span_subset_or_disjoint a.profile options source hn hm hji with hsub | hdis
      · exact .inl hsub
      · exact .inr (.inr hdis.symm)
  · have hroot := flatten_getElem?_rank a.profile options source (Place.at?_nil parse.tree.top)
    rw [rank_nil, ← List.head?_eq_getElem?] at hroot
    refine ⟨_, hroot, ?_⟩
    rw [length_flatten, size_eq]
    rfl

theorem build_intervals_encode_ancestry_assignment :
    ∃ ast, (build assignmentWorld {} [120, 61, 49] (.ofLanguage .python)).result = .ok ast ∧
      (∀ (i j : Nat) (n : Node), ast.nodes[i]? = some n → j < ast.nodes.length →
        (i < j ∧ j ≤ i + n.descendantCount ↔ IsAncestor ast.nodes i j)) ∧
      ∃ root, ast.root? = some root ∧ root.descendantCount = 5 := by
  have hast : (build assignmentWorld {} [120, 61, 49] (.ofLanguage .python)).result =
      .ok ⟨"python", 3, false, flatten Language.Python.profile {} [120, 61, 49] assignmentTree⟩ :=
    (build_eq_ok {} [120, 61, 49]).mpr ⟨⟨assignmentTree, false⟩, rfl, assignmentTree_types, rfl⟩
  obtain ⟨parse, -, -, hancestry, -, root, hroot, hcount⟩ :=
    build_intervals_encode_ancestry {} [120, 61, 49] hast
  refine ⟨_, hast, hancestry, root, hroot, ?_⟩
  rw [length_flatten] at hcount
  exact Nat.succ.inj hcount

end Canopy.Ast
