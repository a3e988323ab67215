import Canopy.Syntax.Tree
import Mathlib.Data.List.Nodup

namespace Canopy

/-- The way down to a node: which child to take at each node, from the root on. -/
abbrev Address := List Nat

/-- The node at an address below `p`, with all its ancestors. -/
def Place.at? : Place → Address → Option Place
  | p, [] => some p
  | p, i :: rest =>
    match p.children[i]? with
    | none => none
    | some c => c.at? rest

namespace Tree

/-- The address of the node above, if there is one. -/
def parentAddress? : Address → Option Address
  | [] => none
  | i :: q => some (i :: q).dropLast

/-- The root of a tree where it stands. -/
def top (t : Tree) : Place := { tree := t }

mutual

/-- Pre-order by plain recursion: a node, then all that is below its first child, and so on. -/
def addresses : Tree → List Address
  | .node _ children => [] :: addressesFrom 0 children

/-- The addresses in trees that are the children of one node from the `n`-th on. -/
def addressesFrom (n : Nat) : List Tree → List Address
  | [] => []
  | t :: rest => t.addresses.map (n :: ·) ++ addressesFrom (n + 1) rest

end

/-- How many nodes come before an address in pre-order: on the way down, each node itself and all
that is below the children to the left. -/
def rank : Tree → Address → Nat
  | _, [] => 0
  | t, i :: rest =>
    match t.children[i]? with
    | none => 0
    | some c => 1 + sizeAll (t.children.take i) + c.rank rest

end Tree

namespace Place

theorem children_getElem? (p : Place) (i : Nat) :
    p.children[i]? = p.tree.children[i]?.map fun c => ⟨c, p.tree :: p.ancestors⟩ := by
  simp [children]

theorem length_children (p : Place) : p.children.length = p.tree.children.length :=
  List.length_map _

theorem parent?_eq_some {p u : Place} :
    p.parent? = some u ↔ p.ancestors = u.tree :: u.ancestors := by
  obtain ⟨t, ancestors⟩ := p
  obtain ⟨v, further⟩ := u
  cases ancestors with
  | nil => simp [parent?]
  | cons up above => simp [parent?]

theorem at?_nil (p : Place) : p.at? [] = some p := rfl

/-- A way that goes down at least once goes down to a child first. -/
theorem at?_cons_eq_some {p s : Place} {i : Nat} {q : Address} (h : p.at? (i :: q) = some s) :
    ∃ c : Tree, p.tree.children[i]? = some c ∧ Place.at? ⟨c, p.tree :: p.ancestors⟩ q = some s := by
  simp only [at?, children_getElem?] at h
  cases hc : p.tree.children[i]? with
  | none => simp [hc] at h
  | some c => exact ⟨c, rfl, by simpa [hc] using h⟩

theorem at?_append (p : Place) (q r : Address) :
    p.at? (q ++ r) = (p.at? q).bind fun s => s.at? r := by
  induction q generalizing p with
  | nil => simp [at?]
  | cons i q ih =>
    simp only [List.cons_append, at?]
    cases p.children[i]? with
    | none => rfl
    | some c => exact ih c

/-- Every step down adds one ancestor. -/
theorem ancestors_length_at? {p s : Place} {q : Address} (h : p.at? q = some s) :
    s.ancestors.length = p.ancestors.length + q.length := by
  induction q generalizing p with
  | nil =>
    obtain rfl : p = s := by simpa [at?] using h
    rfl
  | cons i q ih =>
    obtain ⟨c, -, hs⟩ := at?_cons_eq_some h
    have := ih hs
    simp only [List.length_cons] at this ⊢
    omega

/-- A way down stops at each node that it leads through. -/
theorem at?_append_eq_some {p s : Place} {q r : Address} (h : p.at? (q ++ r) = some s) :
    ∃ u, p.at? q = some u ∧ u.at? r = some s := by
  rw [at?_append] at h
  exact Option.bind_eq_some_iff.mp h

/-- One more step down leads to a child. -/
theorem at?_concat {p s : Place} {q : Address} (h : p.at? q = some s) (i : Nat) :
    p.at? (q ++ [i]) = s.children[i]? := by
  rw [at?_append, h, Option.bind_some, at?]
  cases s.children[i]? with
  | none => rfl
  | some c => rfl

theorem children_of_at?_concat {p s u : Place} {q : Address} {i : Nat} (hu : p.at? q = some u)
    (hs : p.at? (q ++ [i]) = some s) : u.tree.children[i]? = some s.tree := by
  rw [at?_concat hu, children_getElem?, Option.map_eq_some_iff] at hs
  obtain ⟨c, hc, rfl⟩ := hs
  exact hc

theorem at?_concat_parent? {p s : Place} {q : Address} {i : Nat} (h : p.at? (q ++ [i]) = some s) :
    p.at? q = s.parent? := by
  obtain ⟨u, hu, hs⟩ := at?_append_eq_some h
  obtain ⟨c, -, hc⟩ := at?_cons_eq_some hs
  obtain rfl : Place.mk c (u.tree :: u.ancestors) = s := by simpa [at?] using hc
  exact hu

end Place

namespace Tree

theorem children_node (label : Label) (cs : List Tree) : (Tree.node label cs).children = cs := rfl

theorem parentAddress?_concat (q : Address) (i : Nat) : parentAddress? (q ++ [i]) = some q := by
  cases q with
  | nil => rfl
  | cons j q =>
    rw [List.cons_append, parentAddress?, ← List.cons_append, List.dropLast_concat]

/-- The address above leads to the parent. -/
theorem at?_parentAddress? {t : Tree} {q : Address} {s : Place} (h : t.top.at? q = some s) :
    (parentAddress? q).bind t.top.at? = s.parent? := by
  rcases List.eq_nil_or_concat q with rfl | ⟨r, i, rfl⟩
  · obtain rfl : t.top = s := by simpa [Place.at?] using h
    rfl
  · rw [List.concat_eq_append] at h ⊢
    rw [parentAddress?_concat, Option.bind_some, Place.at?_concat_parent? h]

/-- A node with a parent stands one step from it. -/
theorem exists_concat_of_parent? {t : Tree} {q : Address} {s u : Place}
    (h : t.top.at? q = some s) (hup : s.parent? = some u) :
    ∃ r i, q = r ++ [i] ∧ t.top.at? r = some u := by
  rcases List.eq_nil_or_concat q with rfl | ⟨r, i, rfl⟩
  · obtain rfl : t.top = s := by simpa [Place.at?] using h
    cases hup
  · rw [List.concat_eq_append] at h ⊢
    exact ⟨r, i, rfl, (Place.at?_concat_parent? h).trans hup⟩

theorem parent?_eq_none {t : Tree} {q : Address} {s : Place} (h : t.top.at? q = some s) :
    s.parent? = none ↔ q = [] := by
  have hlength : s.ancestors.length = q.length :=
    (Place.ancestors_length_at? h).trans (Nat.zero_add _)
  rw [← List.length_eq_zero_iff, ← hlength, List.length_eq_zero_iff]
  cases hup : s.ancestors with
  | nil => simp [Place.parent?, hup]
  | cons up further => simp [Place.parent?, hup]

theorem size_eq (t : Tree) : t.size = sizeAll t.children + 1 := by
  cases t with
  | node label cs => simp [size, children]

theorem size_lt_of_mem_children {t c : Tree} (h : c ∈ t.children) : c.size < t.size := by
  obtain ⟨before, after, hsplit⟩ := List.append_of_mem h
  have hsum : sizeAll t.children = sizeAll before + (c.size + sizeAll after) := by
    rw [hsplit, sizeAll_append, sizeAll]
  have hsize := size_eq t
  omega

/-- The children to the left of the `i`-th, that child, and the children to its right. -/
theorem split_at_child {cs : List Tree} {i : Nat} {c : Tree} (h : cs[i]? = some c) :
    (cs.take i).length = i ∧ cs = cs.take i ++ c :: cs.drop (i + 1) := by
  obtain ⟨hi, rfl⟩ := List.getElem?_eq_some_iff.mp h
  refine ⟨List.length_take_of_le (Nat.le_of_lt hi), ?_⟩
  rw [List.getElem_cons_drop, List.take_append_drop]

theorem getElem?_block {α : Type} {before block after : List α} {m : Nat} (h : m < block.length) :
    (before ++ (block ++ after))[before.length + m]? = block[m]? := by
  rw [List.getElem?_append_right (Nat.le_add_right _ _), Nat.add_sub_cancel_left,
    List.getElem?_append_left h]

theorem rank_nil (t : Tree) : t.rank [] = 0 := by
  simp [rank]

theorem rank_cons {t c : Tree} {i : Nat} (h : t.children[i]? = some c) (q : Address) :
    t.rank (i :: q) = 1 + sizeAll (t.children.take i) + c.rank q := by
  simp [rank, h]

/-- All that is below a node follows it without a gap, in the order it has there. -/
theorem rank_append {p s : Place} {q : Address} (h : p.at? q = some s) (r : Address) :
    p.tree.rank (q ++ r) = p.tree.rank q + s.tree.rank r := by
  induction q generalizing p with
  | nil =>
    obtain rfl : p = s := by simpa [Place.at?] using h
    simp [rank_nil]
  | cons i q ih =>
    obtain ⟨c, hc, hs⟩ := Place.at?_cons_eq_some h
    have hstep : c.rank (q ++ r) = c.rank q + s.tree.rank r := ih hs
    rw [List.cons_append, rank_cons hc, rank_cons hc, hstep]
    omega

theorem sizeAll_take_lt {cs : List Tree} {i j : Nat} {c : Tree} (h : cs[i]? = some c)
    (hij : i < j) : sizeAll (cs.take i) < sizeAll (cs.take j) := by
  have hc : (cs.take j)[i]? = some c := by rw [List.getElem?_take, if_pos hij, h]
  have hsplit := congrArg sizeAll (split_at_child hc).2
  rw [List.take_take, Nat.min_eq_left (Nat.le_of_lt hij), sizeAll_append, sizeAll] at hsplit
  have hpos := size_eq c
  omega

/-- Children stand in pre-order as they stand below their parent. -/
theorem rank_concat_lt {p s : Place} {q : Address} (h : p.at? q = some s) {i j : Nat}
    (hij : i < j) (hj : j < s.children.length) :
    p.tree.rank (q ++ [i]) < p.tree.rank (q ++ [j]) := by
  rw [Place.length_children] at hj
  have hrank : ∀ k, k < s.tree.children.length →
      p.tree.rank (q ++ [k]) = p.tree.rank q + (1 + sizeAll (s.tree.children.take k)) := by
    intro k hk
    rw [rank_append h, rank_cons (List.getElem?_eq_getElem hk), rank_nil, Nat.add_zero]
  have hi : i < s.tree.children.length := by omega
  have hlt := sizeAll_take_lt (List.getElem?_eq_getElem hi) hij
  rw [hrank i hi, hrank j hj]
  omega

mutual

theorem length_addresses : ∀ t : Tree, t.addresses.length = t.size
  | .node label cs => by
    rw [addresses, size, List.length_cons, length_addressesFrom 0 cs]

theorem length_addressesFrom : ∀ (n : Nat) (cs : List Tree),
    (addressesFrom n cs).length = sizeAll cs
  | _, [] => by simp [addressesFrom, sizeAll]
  | n, t :: rest => by
    rw [addressesFrom, sizeAll, List.length_append, List.length_map, length_addresses t,
      length_addressesFrom (n + 1) rest]

end

theorem addressesFrom_append (n : Nat) (cs ds : List Tree) :
    addressesFrom n (cs ++ ds) = addressesFrom n cs ++ addressesFrom (n + cs.length) ds := by
  induction cs generalizing n with
  | nil => simp [addressesFrom]
  | cons c cs ih =>
    rw [List.cons_append, addressesFrom, addressesFrom, ih, List.append_assoc, List.length_cons,
      show n + 1 + cs.length = n + (cs.length + 1) by omega]

/-- The addresses below the `i`-th child stand in one block, after those of the children to the
left. -/
theorem addressesFrom_getElem? {cs : List Tree} {i : Nat} {c : Tree} (n : Nat) {m : Nat}
    (h : cs[i]? = some c) (hm : m < c.size) :
    (addressesFrom n cs)[sizeAll (cs.take i) + m]? = c.addresses[m]?.map ((n + i) :: ·) := by
  obtain ⟨hlen, hcs⟩ := split_at_child h
  have hblock : addressesFrom n cs = addressesFrom n (cs.take i) ++
      (c.addresses.map ((n + i) :: ·) ++ addressesFrom (n + i + 1) (cs.drop (i + 1))) := by
    conv_lhs => rw [hcs, addressesFrom_append, hlen, addressesFrom]
  rw [hblock, ← length_addressesFrom n (cs.take i), getElem?_block, List.getElem?_map]
  rw [List.length_map, length_addresses]
  exact hm

theorem mem_addressesFrom {n : Nat} {cs : List Tree} {q : Address} :
    q ∈ addressesFrom n cs ↔ ∃ i c r, cs[i]? = some c ∧ r ∈ c.addresses ∧ q = (n + i) :: r := by
  induction cs generalizing n with
  | nil => simp [addressesFrom]
  | cons d cs ih =>
    rw [addressesFrom, List.mem_append, ih, List.mem_map]
    constructor
    · rintro (⟨r, hr, rfl⟩ | ⟨i, c, r, hc, hr, rfl⟩)
      · exact ⟨0, d, r, rfl, hr, rfl⟩
      · exact ⟨i + 1, c, r, hc, hr, by rw [show n + 1 + i = n + (i + 1) by omega]⟩
    · rintro ⟨i, c, r, hc, hr, rfl⟩
      cases i with
      | zero =>
        obtain rfl : d = c := by simpa using hc
        exact .inl ⟨r, hr, rfl⟩
      | succ i => exact .inr ⟨i, c, r, hc, hr, by rw [show n + 1 + i = n + (i + 1) by omega]⟩

/-- The list has the addresses of the tree's nodes and no others. -/
theorem mem_addresses {p : Place} {q : Address} : q ∈ p.tree.addresses ↔ (p.at? q).isSome := by
  induction q generalizing p with
  | nil =>
    obtain ⟨⟨label, cs⟩, ancestors⟩ := p
    simp [addresses, Place.at?]
  | cons i q ih =>
    obtain ⟨⟨label, cs⟩, ancestors⟩ := p
    rw [addresses, List.mem_cons, mem_addressesFrom, Place.at?, Place.children_getElem?,
      children_node]
    constructor
    · rintro (h | ⟨j, c, r, hc, hr, hq⟩)
      · -- the root's address goes nowhere
        simp at h
      · obtain ⟨rfl, rfl⟩ : i = j ∧ q = r := by simpa using hq
        rw [hc]
        exact (ih (p := ⟨c, .node label cs :: ancestors⟩)).mp hr
    · intro h
      cases hc : cs[i]? with
      | none => simp [hc] at h
      | some c =>
        rw [hc] at h
        exact .inr ⟨i, c, q, hc, ih.mpr h, by rw [Nat.zero_add]⟩

mutual

theorem nodup_addresses : ∀ t : Tree, t.addresses.Nodup
  | .node _ cs => by
    rw [addresses, List.nodup_cons]
    refine ⟨fun h => ?_, nodup_addressesFrom 0 cs⟩
    obtain ⟨i, c, r, -, -, hr⟩ := mem_addressesFrom.mp h
    simp at hr

theorem nodup_addressesFrom : ∀ (n : Nat) (cs : List Tree), (addressesFrom n cs).Nodup
  | _, [] => by simp [addressesFrom]
  | n, t :: rest => by
    rw [addressesFrom]
    apply List.Nodup.append
    · exact (nodup_addresses t).map (List.cons_injective)
    · exact nodup_addressesFrom (n + 1) rest
    · -- the two parts differ in the child that their addresses start with
      intro q hq hq'
      obtain ⟨r, -, rfl⟩ := List.mem_map.mp hq
      obtain ⟨i, c, r', -, -, hr⟩ := mem_addressesFrom.mp hq'
      have := (List.cons.inj hr).1
      omega

end

/-- The rank of a node is its position in pre-order. -/
theorem addresses_getElem?_rank {p s : Place} {q : Address} (h : p.at? q = some s) :
    p.tree.addresses[p.tree.rank q]? = some q := by
  induction q generalizing p with
  | nil =>
    obtain ⟨⟨label, cs⟩, ancestors⟩ := p
    simp [addresses, rank]
  | cons i q ih =>
    obtain ⟨⟨label, cs⟩, ancestors⟩ := p
    obtain ⟨c, hc, hs⟩ := Place.at?_cons_eq_some h
    have hq : c.addresses[c.rank q]? = some q := ih hs
    have hlt : c.rank q < c.size := by
      rw [← length_addresses]
      exact (List.getElem?_eq_some_iff.mp hq).1
    simp only [children_node] at hc
    rw [rank_cons hc, addresses, children_node,
      show 1 + sizeAll (cs.take i) + c.rank q = sizeAll (cs.take i) + c.rank q + 1 by omega,
      List.getElem?_cons_succ, addressesFrom_getElem? 0 hc hlt, hq]
    simp

theorem rank_lt_size {p s : Place} {q : Address} (h : p.at? q = some s) :
    p.tree.rank q < p.tree.size := by
  rw [← length_addresses]
  exact (List.getElem?_eq_some_iff.mp (addresses_getElem?_rank h)).1

/-- Each position in pre-order belongs to one node, and is its rank. -/
theorem exists_of_addresses_getElem? {p : Place} {k : Nat} {q : Address}
    (h : p.tree.addresses[k]? = some q) : ∃ s, p.at? q = some s ∧ p.tree.rank q = k := by
  obtain ⟨s, hs⟩ := Option.isSome_iff_exists.mp (mem_addresses.mp (List.mem_of_getElem? h))
  have hr := addresses_getElem?_rank hs
  have hlt := (List.getElem?_eq_some_iff.mp hr).1
  exact ⟨s, hs, (List.getElem?_inj hlt (nodup_addresses _)).mp (hr.trans h.symm)⟩

theorem exists_of_lt_size {p : Place} {k : Nat} (h : k < p.tree.size) :
    ∃ q s, p.at? q = some s ∧ p.tree.rank q = k := by
  rw [← length_addresses] at h
  obtain ⟨s, hs⟩ := exists_of_addresses_getElem? (List.getElem?_eq_getElem h)
  exact ⟨_, s, hs⟩

theorem rank_injective {p s s' : Place} {q q' : Address} (h : p.at? q = some s)
    (h' : p.at? q' = some s') (hr : p.tree.rank q = p.tree.rank q') : q = q' := by
  have hq := addresses_getElem?_rank h
  rw [hr, addresses_getElem?_rank h'] at hq
  exact (Option.some.inj hq).symm

/-- A node and all that is below it fill the positions from the node's own on. -/
theorem rank_interval_iff {p s s' : Place} {q q' : Address} (h : p.at? q = some s)
    (h' : p.at? q' = some s') :
    p.tree.rank q ≤ p.tree.rank q' ∧ p.tree.rank q' < p.tree.rank q + s.tree.size ↔ q <+: q' := by
  constructor
  · rintro ⟨hle, hlt⟩
    obtain ⟨r, u, hu, hr⟩ : ∃ r u, s.at? r = some u ∧
        s.tree.rank r = p.tree.rank q' - p.tree.rank q := exists_of_lt_size (by omega)
    have hqr : p.at? (q ++ r) = some u := by rw [Place.at?_append, h, Option.bind_some, hu]
    refine ⟨r, rank_injective hqr h' ?_⟩
    rw [rank_append h, hr]
    omega
  · rintro ⟨r, rfl⟩
    rw [Place.at?_append, h, Option.bind_some] at h'
    have := rank_lt_size h'
    rw [rank_append h]
    omega

/-- What is below a node ends where the tree ends, or before. -/
theorem rank_add_size_le {p s : Place} {q : Address} (h : p.at? q = some s) :
    p.tree.rank q + s.tree.size ≤ p.tree.size := by
  have hpos := size_eq s.tree
  -- the last node below `s` has a rank in the whole tree as well
  obtain ⟨r, u, hu, hr⟩ : ∃ r u, s.at? r = some u ∧ s.tree.rank r = s.tree.size - 1 :=
    exists_of_lt_size (by omega)
  have hlast : p.at? (q ++ r) = some u := by rw [Place.at?_append, h, Option.bind_some, hu]
  have hlt := rank_lt_size hlast
  rw [rank_append h, hr] at hlt
  omega

theorem idxOf_addresses {p s : Place} {q : Address} (h : p.at? q = some s) :
    p.tree.addresses.idxOf q = p.tree.rank q := by
  obtain ⟨hlt, hq⟩ := List.getElem?_eq_some_iff.mp (addresses_getElem?_rank h)
  have := (nodup_addresses p.tree).idxOf_getElem _ hlt
  rwa [hq] at this

end Tree
end Canopy
