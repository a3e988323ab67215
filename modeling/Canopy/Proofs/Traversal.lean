import Canopy.Ast.Build
import Canopy.Proofs.Addresses

namespace Canopy.Ast
open Canopy.Tree

mutual

/-- What a traversal by plain recursion makes of a tree whose root gets the number `index`. -/
def preorder (make : Nat → Pending → Node) (index : Nat) (parent : Option Nat)
    (ancestors : List Tree) : Tree → List Node
  | .node label cs =>
    make index ⟨⟨.node label cs, ancestors⟩, parent, ancestors.length⟩ ::
      preorderAll make (index + 1) (some index) (.node label cs :: ancestors) cs

/-- The same for the children of one node, each numbered on from the ones to its left. -/
def preorderAll (make : Nat → Pending → Node) (index : Nat) (parent : Option Nat)
    (ancestors : List Tree) : List Tree → List Node
  | [] => []
  | t :: rest =>
    preorder make index parent ancestors t ++
      preorderAll make (index + t.size) parent ancestors rest

end

theorem walk_nil (make : Nat → Pending → Node) (index : Nat) : walk make index [] = [] := by
  rw [walk]

theorem walk_cons (make : Nat → Pending → Node) (index : Nat) (p : Pending)
    (rest : List Pending) :
    walk make index (p :: rest) =
      make index p :: walk make (index + 1) (Pending.children index p ++ rest) := by
  rw [walk]

mutual

/-- What lies under the topmost pending tree waits until the whole tree is done. -/
theorem walk_tree (make : Nat → Pending → Node) (rest : List Pending) :
    ∀ (t : Tree) (index : Nat) (parent : Option Nat) (ancestors : List Tree),
      walk make index (⟨⟨t, ancestors⟩, parent, ancestors.length⟩ :: rest) =
        preorder make index parent ancestors t ++ walk make (index + t.size) rest
  | .node label cs, index, parent, ancestors => by
    have hchildren : Pending.children index
        ⟨⟨.node label cs, ancestors⟩, parent, ancestors.length⟩ =
        cs.map fun c => ⟨⟨c, .node label cs :: ancestors⟩, some index,
          (Tree.node label cs :: ancestors).length⟩ := by
      simp [Pending.children, Place.children, children_node, Function.comp_def]
    rw [walk_cons, hchildren, walk_forest make rest cs (index + 1) (some index)
      (.node label cs :: ancestors), preorder, size, List.cons_append,
      show index + 1 + sizeAll cs = index + (sizeAll cs + 1) by omega]

theorem walk_forest (make : Nat → Pending → Node) (rest : List Pending) :
    ∀ (cs : List Tree) (index : Nat) (parent : Option Nat) (ancestors : List Tree),
      walk make index
          (cs.map (fun c => ⟨⟨c, ancestors⟩, parent, ancestors.length⟩) ++ rest) =
        preorderAll make index parent ancestors cs ++ walk make (index + sizeAll cs) rest
  | [], index, parent, ancestors => by simp [preorderAll, sizeAll]
  | t :: cs, index, parent, ancestors => by
    rw [List.map_cons, List.cons_append, walk_tree make _ t, walk_forest make rest cs, preorderAll,
      sizeAll, List.append_assoc, Nat.add_assoc]

end

/-- The loop over the stack is the recursive traversal. -/
theorem walk_eq_preorder (make : Nat → Pending → Node) (t : Tree) :
    walk make 0 [⟨t.top, none, 0⟩] = preorder make 0 none [] t := by
  have h := walk_tree make [] t 0 none []
  rwa [walk_nil, List.append_nil] at h

mutual

theorem length_preorder (make : Nat → Pending → Node) :
    ∀ (t : Tree) (index : Nat) (parent : Option Nat) (ancestors : List Tree),
      (preorder make index parent ancestors t).length = t.size
  | .node label cs, index, parent, ancestors => by
    rw [preorder, size, List.length_cons, length_preorderAll make cs]

theorem length_preorderAll (make : Nat → Pending → Node) :
    ∀ (cs : List Tree) (index : Nat) (parent : Option Nat) (ancestors : List Tree),
      (preorderAll make index parent ancestors cs).length = sizeAll cs
  | [], index, parent, ancestors => by simp [preorderAll, sizeAll]
  | t :: cs, index, parent, ancestors => by
    rw [preorderAll, sizeAll, List.length_append, length_preorder make t,
      length_preorderAll make cs]

end

theorem preorderAll_append (make : Nat → Pending → Node) (index : Nat) (parent : Option Nat)
    (ancestors : List Tree) (cs ds : List Tree) :
    preorderAll make index parent ancestors (cs ++ ds) =
      preorderAll make index parent ancestors cs ++
        preorderAll make (index + sizeAll cs) parent ancestors ds := by
  induction cs generalizing index with
  | nil => simp [preorderAll, sizeAll]
  | cons c cs ih =>
    rw [List.cons_append, preorderAll, preorderAll, ih, sizeAll, List.append_assoc, Nat.add_assoc]

/-- What is made of the `i`-th child stands in one block, numbered on from its left siblings. -/
theorem preorderAll_getElem? (make : Nat → Pending → Node) (index : Nat) (parent : Option Nat)
    (ancestors : List Tree) {cs : List Tree} {i m : Nat} {c : Tree} (h : cs[i]? = some c)
    (hm : m < c.size) :
    (preorderAll make index parent ancestors cs)[sizeAll (cs.take i) + m]? =
      (preorder make (index + sizeAll (cs.take i)) parent ancestors c)[m]? := by
  obtain ⟨-, hcs⟩ := split_at_child h
  have hblock := congrArg (preorderAll make index parent ancestors) hcs
  rw [preorderAll_append, preorderAll] at hblock
  rw [hblock, ← length_preorderAll make (cs.take i) index parent ancestors, getElem?_block]
  rw [length_preorder]
  exact hm

/-- The position that a node is told as its parent's. -/
def parentRank (t : Tree) (index : Nat) (parent : Option Nat) : Address → Option Nat
  | [] => parent
  | i :: q => some (index + t.rank (i :: q).dropLast)

theorem parentRank_top (t : Tree) (q : Address) :
    parentRank t 0 none q = (parentAddress? q).map t.rank := by
  cases q with
  | nil => rfl
  | cons i q => rw [parentRank, parentAddress?, Nat.zero_add, Option.map_some]

theorem preorder_getElem?_rank (make : Nat → Pending → Node) {p s : Place} {q : Address}
    (h : p.at? q = some s) (index : Nat) (parent : Option Nat) :
    (preorder make index parent p.ancestors p.tree)[p.tree.rank q]? =
      some (make (index + p.tree.rank q)
        ⟨s, parentRank p.tree index parent q, s.ancestors.length⟩) := by
  induction q generalizing p index parent with
  | nil =>
    obtain rfl : p = s := by simpa [Place.at?] using h
    obtain ⟨⟨label, cs⟩, ancestors⟩ := p
    simp [preorder, rank, parentRank]
  | cons i q ih =>
    obtain ⟨⟨label, cs⟩, ancestors⟩ := p
    obtain ⟨c, hc, hs⟩ := Place.at?_cons_eq_some h
    have hlt : c.rank q < c.size := rank_lt_size hs
    have hstep := ih hs (index + 1 + sizeAll (cs.take i)) (some index)
    -- below the child, positions are counted from where the child stands
    have hparent : parentRank c (index + 1 + sizeAll (cs.take i)) (some index) q =
        parentRank (.node label cs) index parent (i :: q) := by
      cases q with
      | nil => simp [parentRank, rank_nil]
      | cons j q =>
        rw [parentRank, parentRank, List.dropLast_cons_cons, rank_cons hc, children_node]
        simp only [Nat.add_assoc]
    rw [children_node] at hc
    simp only [rank_cons (t := .node label cs) hc, children_node]
    rw [preorder, show 1 + sizeAll (cs.take i) + c.rank q = sizeAll (cs.take i) + c.rank q + 1 by
      omega, List.getElem?_cons_succ, preorderAll_getElem? make _ _ _ hc hlt, hstep, hparent]
    have hindex : index + 1 + sizeAll (cs.take i) + c.rank q =
        index + (sizeAll (cs.take i) + c.rank q + 1) := by omega
    rw [hindex]

end Canopy.Ast
