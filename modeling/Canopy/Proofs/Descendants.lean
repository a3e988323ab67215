import Canopy.Proofs.Traversal
import Mathlib.Logic.Relation

namespace Canopy.Ast
open Canopy.Tree

/-- One step of the backward pass: a node with its own descendants goes to its parent's count. -/
def addToParent (entry : Option Nat × Nat) (counts : Array Nat) : Array Nat :=
  match entry.1 with
  | none => counts
  | some up => counts.modify up (· + (counts[entry.2]?.getD 0 + 1))

/-- The backward pass over a run of nodes, the first of which has the number `index`. -/
def accumulate (parents : List (Option Nat)) (index : Nat) (counts : Array Nat) : Array Nat :=
  (parents.zipIdx index).foldr addToParent counts

theorem descendantCounts_eq_accumulate (parents : List (Option Nat)) :
    descendantCounts parents = accumulate parents 0 (Array.replicate parents.length 0) := rfl

theorem accumulate_cons (parent : Option Nat) (parents : List (Option Nat)) (index : Nat)
    (counts : Array Nat) :
    accumulate (parent :: parents) index counts =
      addToParent (parent, index) (accumulate parents (index + 1) counts) := by
  simp [accumulate, List.zipIdx_cons]

theorem accumulate_append (parents others : List (Option Nat)) (index : Nat)
    (counts : Array Nat) :
    accumulate (parents ++ others) index counts =
      accumulate parents index (accumulate others (index + parents.length) counts) := by
  simp [accumulate, List.zipIdx_append, List.foldr_append]

theorem addToParent_getElem? (parent : Option Nat) (i : Nat) (counts : Array Nat) (j : Nat) :
    (addToParent (parent, i) counts)[j]? =
      if parent = some j then counts[j]?.map (· + (counts[i]?.getD 0 + 1)) else counts[j]? := by
  cases parent with
  | none => simp [addToParent]
  | some up => simp [addToParent, Array.getElem?_modify]

/-- Nothing has been added yet to the counts of `n` nodes from `index` on. -/
def Untouched (counts : Array Nat) (index n : Nat) : Prop :=
  ∀ j, index ≤ j → j < index + n → counts[j]? = some 0

/-- A pass that adds only to the count of `parent` leaves the counts behind it untouched. -/
theorem Untouched.of_added {counts added : Array Nat} {index n size : Nat} {parent : Option Nat}
    (h : Untouched counts index n) (hparent : ∀ up, parent = some up → up < index)
    (hadded : ∀ j, index ≤ j → j < index + n →
      added[j]? = if parent = some j then counts[j]?.map (· + size) else counts[j]?) :
    Untouched added index n := by
  intro j hj hj'
  rw [hadded j hj hj', if_neg fun hup => by have := hparent j hup; omega]
  exact h j hj hj'

mutual

/-- Seen from outside, a tree adds its size to the count of its parent and does nothing else. -/
theorem accumulate_tree_outside {make : Nat → Pending → Node}
    (hmake : ∀ i p, (make i p).parent = p.parent) : ∀ (t : Tree) (index : Nat)
    (parent : Option Nat) (ancestors : List Tree) (counts : Array Nat),
    Untouched counts index t.size → (∀ up, parent = some up → up < index) →
    ∀ j, j < index ∨ index + t.size ≤ j →
    (accumulate ((preorder make index parent ancestors t).map Node.parent) index counts)[j]? =
      if parent = some j then counts[j]?.map (· + t.size) else counts[j]?
  | .node label cs, index, parent, ancestors, counts, hclear, hparent, j, hj => by
    rw [size] at hclear hj
    have hbelow := accumulate_forest_outside hmake cs (index + 1) (some index)
      (.node label cs :: ancestors) counts (fun k hk hk' => hclear k (by omega) (by omega))
      (fun up hup => by have := Option.some.inj hup; omega)
    -- the children have told the root of all their nodes when the root is met
    have hroot := hbelow index (.inl (by omega))
    rw [if_pos rfl, hclear index (by omega) (by omega)] at hroot
    have hother := hbelow j (by omega)
    rw [if_neg (by simp only [Option.some.injEq]; omega)] at hother
    rw [preorder, List.map_cons, hmake, accumulate_cons, addToParent_getElem?, hroot, hother, size]
    simp

theorem accumulate_forest_outside {make : Nat → Pending → Node}
    (hmake : ∀ i p, (make i p).parent = p.parent) : ∀ (cs : List Tree) (index : Nat)
    (parent : Option Nat) (ancestors : List Tree) (counts : Array Nat),
    Untouched counts index (sizeAll cs) → (∀ up, parent = some up → up < index) →
    ∀ j, j < index ∨ index + sizeAll cs ≤ j →
    (accumulate ((preorderAll make index parent ancestors cs).map Node.parent) index counts)[j]? =
      if parent = some j then counts[j]?.map (· + sizeAll cs) else counts[j]?
  | [], index, parent, ancestors, counts, _, _, j, _ => by
    simp [preorderAll, accumulate, sizeAll]
  | t :: cs, index, parent, ancestors, counts, hclear, hparent, j, hj => by
    rw [sizeAll] at hclear hj
    have hright := accumulate_forest_outside hmake cs (index + t.size) parent ancestors counts
      (fun k hk hk' => hclear k (by omega) (by omega))
      (fun up hup => by have := hparent up hup; omega)
    -- going backwards, the trees to the right come first
    have hleft := Untouched.of_added (fun k hk hk' => hclear k hk (by omega)) hparent
      (fun k _ (hk : k < index + t.size) => hright k (.inl hk))
    rw [preorderAll, List.map_append, accumulate_append, List.length_map, length_preorder,
      accumulate_tree_outside hmake t index parent ancestors _ hleft hparent j (by omega),
      hright j (by omega)]
    split
    · rw [sizeAll, Option.map_map]
      congr 1
      funext n
      simp only [Function.comp_apply]
      omega
    · rfl

end

mutual

/-- Inside, every node ends with the number of nodes below it: the backward pass is done with them
before it meets the node itself. -/
theorem accumulate_tree_inside {make : Nat → Pending → Node}
    (hmake : ∀ i p, (make i p).parent = p.parent) : ∀ (t : Tree) (index : Nat)
    (parent : Option Nat) (ancestors : List Tree) (counts : Array Nat),
    Untouched counts index t.size → (∀ up, parent = some up → up < index) →
    ∀ (q : Address) (s : Place), Place.at? ⟨t, ancestors⟩ q = some s →
    (accumulate ((preorder make index parent ancestors t).map Node.parent) index counts)[
      index + t.rank q]? = some (sizeAll s.tree.children)
  | .node label cs, index, parent, ancestors, counts, hclear, hparent, q, s, h => by
    rw [size] at hclear
    have hclear' : Untouched counts (index + 1) (sizeAll cs) :=
      fun k hk hk' => hclear k (by omega) (by omega)
    have hindex : ∀ up, some index = some up → up < index + 1 :=
      fun up hup => by have := Option.some.inj hup; omega
    have hnot : ∀ k, index ≤ k → parent ≠ some k :=
      fun k hk hup => by have := hparent k hup; omega
    -- the root is met last and adds to a count outside, so the children have the last word here
    rw [preorder, List.map_cons, hmake, accumulate_cons, addToParent_getElem?,
      if_neg (hnot _ (Nat.le_add_right _ _))]
    cases q with
    | nil =>
      obtain rfl : Place.mk (.node label cs) ancestors = s := by simpa [Place.at?] using h
      have hfirst : index + (Tree.node label cs).rank [] = index := by simp [rank_nil]
      rw [hfirst, accumulate_forest_outside hmake cs _ _ _ _ hclear' hindex index
        (.inl (by omega)), if_pos rfl, hclear index (by omega) (by omega)]
      simp [children_node]
    | cons i q =>
      obtain ⟨c, hc, hs⟩ := Place.at?_cons_eq_some h
      rw [rank_cons hc, children_node, Nat.add_assoc, ← Nat.add_assoc index]
      exact accumulate_forest_inside hmake cs _ _ _ _ hclear' hindex i c q s hc hs

theorem accumulate_forest_inside {make : Nat → Pending → Node}
    (hmake : ∀ i p, (make i p).parent = p.parent) : ∀ (cs : List Tree) (index : Nat)
    (parent : Option Nat) (ancestors : List Tree) (counts : Array Nat),
    Untouched counts index (sizeAll cs) → (∀ up, parent = some up → up < index) →
    ∀ (i : Nat) (c : Tree) (q : Address) (s : Place), cs[i]? = some c →
    Place.at? ⟨c, ancestors⟩ q = some s →
    (accumulate ((preorderAll make index parent ancestors cs).map Node.parent) index counts)[
      index + (sizeAll (cs.take i) + c.rank q)]? = some (sizeAll s.tree.children)
  | [], _, _, _, _, _, _, i, c, q, s, hc, _ => by simp at hc
  | t :: cs, index, parent, ancestors, counts, hclear, hparent, i, c, q, s, hc, hs => by
    rw [sizeAll] at hclear
    have hclear' : Untouched counts (index + t.size) (sizeAll cs) :=
      fun k hk hk' => hclear k (by omega) (by omega)
    have hparent' : ∀ up, parent = some up → up < index + t.size :=
      fun up hup => by have := hparent up hup; omega
    have hleft := Untouched.of_added (fun k hk hk' => hclear k hk (by omega)) hparent
      (fun k _ (hk : k < index + t.size) =>
        accumulate_forest_outside hmake cs _ parent ancestors counts hclear' hparent' k (.inl hk))
    rw [preorderAll, List.map_append, accumulate_append, List.length_map, length_preorder]
    cases i with
    | zero =>
      obtain rfl : t = c := by simpa using hc
      rw [List.take_zero, sizeAll, Nat.zero_add]
      exact accumulate_tree_inside hmake t _ _ _ _ hleft hparent q s hs
    | succ i =>
      have hlater := accumulate_forest_inside hmake cs _ _ _ _ hclear' hparent' i c q s
        (by simpa using hc) hs
      rw [List.take_succ_cons, sizeAll, Nat.add_assoc, ← Nat.add_assoc index,
        accumulate_tree_outside hmake t _ _ _ _ hleft hparent _ (.inr (Nat.le_add_right _ _)),
        hlater, if_neg fun hup => by have := hparent _ hup; omega]

end

/-- The count that the backward pass leaves for a node of a whole tree. -/
theorem descendantCounts_getElem?_rank {make : Nat → Pending → Node}
    (hmake : ∀ i p, (make i p).parent = p.parent) {t : Tree} {q : Address} {s : Place}
    (h : t.top.at? q = some s) :
    (descendantCounts ((preorder make 0 none [] t).map Node.parent))[t.rank q]? =
      some (sizeAll s.tree.children) := by
  have hclear : Untouched (Array.replicate t.size 0) 0 t.size := by
    intro j _ hj
    rw [Array.getElem?_replicate, if_pos (by omega)]
  have hcount := accumulate_tree_inside hmake t 0 none [] _ hclear (by simp) q s h
  rw [Nat.zero_add] at hcount
  rw [descendantCounts_eq_accumulate, List.length_map, length_preorder]
  exact hcount

end Canopy.Ast
