import Canopy.Proofs.Flatten
import Canopy.Proofs.Utf8

namespace Canopy

/-- The same node with another value. -/
def Node.mapValue (f : String → String) (n : Node) : Node := { n with value := f n.value }

namespace Ast
open Canopy.Tree

/-- The same result with other values. -/
def mapValues (f : String → String) (a : Ast) : Ast :=
  { a with nodes := a.nodes.map (Node.mapValue f) }

/-- The same build with other values in its result, if it has one. -/
def Outcome.mapValues (f : String → String) (o : Outcome) : Outcome :=
  { o with result := o.result.map (Ast.mapValues f) }

theorem nodeAt_head (l : Profile) (size : Nat) (source : Bytes) (t : Tree) (q : Address)
    (s : Place) :
    nodeAt l ⟨some size, .head⟩ source t q s =
      (nodeAt l {} source t q s).mapValue fun v => Utf8.truncate v (some size) := rfl

/-- Names, visibility and counts are made without a look at the value that is shown. -/
theorem flatten_head (l : Profile) (size : Nat) (source : Bytes) (t : Tree) :
    flatten l ⟨some size, .head⟩ source t =
      (flatten l {} source t).map (Node.mapValue fun v => Utf8.truncate v (some size)) := by
  apply List.ext_getElem?
  intro k
  rw [List.getElem?_map]
  -- both lists have one node for each raw node
  by_cases hk : k < t.size
  · obtain ⟨q, s, hs, rfl⟩ := exists_of_lt_size (p := t.top) hk
    change (flatten l ⟨some size, .head⟩ source t)[t.rank q]? =
      (flatten l {} source t)[t.rank q]?.map _
    rw [flatten_getElem?_rank l _ source hs, flatten_getElem?_rank l _ source hs, nodeAt_head,
      Option.map_some]
  · rw [List.getElem?_eq_none, List.getElem?_eq_none, Option.map_none]
    · rw [length_flatten]
      omega
    · rw [length_flatten]
      omega

/-- Whether a node is refused does not depend on its value. -/
theorem firstIssues_mapValue (f : String → String) (nodes : List Node) :
    firstIssues (nodes.map (Node.mapValue f)) = firstIssues nodes := by
  -- issues are found in the two types alone
  rw [firstIssues, firstIssues, List.find?_map, Option.map_map]
  rfl

theorem build_head (world : World) (size : Nat) (source : Bytes) (a : Adapter) :
    build world ⟨some size, .head⟩ source a =
      (build world {} source a).mapValues fun v => Utf8.truncate v (some size) := by
  unfold build
  dsimp only
  cases (a.provider.parse (world.load a.provider.grammar) world.found source.length).result with
  | error fault => rfl
  | ok parse =>
    dsimp only
    rw [flatten_head, firstIssues_mapValue]
    cases firstIssues (flatten a.profile {} source parse.tree) with
    | some issues => rfl
    | none => simp [Outcome.mapValues, Ast.mapValues, Except.map]

theorem build_of_limit?_eq_none (world : World) {options : BuildOptions}
    (h : options.limit? = none) (source : Bytes) (a : Adapter) :
    build world options source a = build world {} source a := by
  have hplace : Node.ofPlace a.profile options source = Node.ofPlace a.profile {} source := by
    funext index p
    simp only [Node.ofPlace, Node.shownValue, h]
    rfl
  simp only [build, flatten, hplace]

/-- Building with a size changes the values of the nodes and nothing else, errors and log included:
each becomes the longest part of itself, in whole characters from its beginning, that takes no more
octets. Without a size, or with truncation turned off, nothing changes. -/
theorem build_head_cuts_values (world : World) (source : Bytes) (a : Adapter) :
    (∀ size : Nat, ∃ cut : String → String, (∀ v, Utf8.LongestPrefix size v (cut v)) ∧
      build world ⟨some size, .head⟩ source a = (build world {} source a).mapValues cut) ∧
    ∀ options : BuildOptions, options.mode = .none ∨ options.size = none →
      build world options source a = build world {} source a := by
  constructor
  · intro size
    exact ⟨_, fun v => Utf8.truncate_longestPrefix v size, build_head world size source a⟩
  · intro options hoptions
    apply build_of_limit?_eq_none
    unfold BuildOptions.limit?
    rcases hoptions with h | h
    · rw [h]
    · rw [h]
      split <;> rfl

/-- A character of two octets does not fit any more once one of two is taken. -/
theorem build_head_cuts_values_assignment :
    (∃ cut : String → String, cut "aé" = "a" ∧
      build assignmentWorld ⟨some 2, .head⟩ [120, 61, 49] (.ofLanguage .python) =
        (build assignmentWorld {} [120, 61, 49] (.ofLanguage .python)).mapValues cut) ∧
    build assignmentWorld ⟨some 2, .none⟩ [120, 61, 49] (.ofLanguage .python) =
      build assignmentWorld {} [120, 61, 49] (.ofLanguage .python) := by
  obtain ⟨hhead, hnone⟩ :=
    build_head_cuts_values assignmentWorld [120, 61, 49] (.ofLanguage .python)
  obtain ⟨cut, hcut, hbuild⟩ := hhead 2
  have hpart : Utf8.LongestPrefix 2 "aé" (Utf8.truncate "aé" (some 2)) :=
    Utf8.truncate_longestPrefix "aé" 2
  have htruncate : Utf8.truncate "aé" (some 2) = "a" := by decide +kernel
  exact ⟨⟨cut, ((hcut "aé").unique hpart).trans htruncate, hbuild⟩, hnone _ (.inl rfl)⟩

end Ast
end Canopy
