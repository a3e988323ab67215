import Canopy.Proofs.Flatten
import Canopy.Syntax.Rows

namespace Canopy

/-- An ordered tree with a value at each node. -/
inductive Rose (α : Type) where
  | node (value : α) (children : List (Rose α))

/-- What a record keeps of a raw node. -/
structure Mark where
  type : String
  startByte : Nat
  endByte : Nat
deriving Repr, DecidableEq

def Tree.mark (t : Tree) : Mark := ⟨t.type, t.startByte, t.endByte⟩

namespace Tree

mutual

/-- A raw tree with no more than the marks of its nodes. -/
def outline : Tree → Rose Mark
  | .node label cs => .node (Tree.node label cs).mark (outlines cs)

def outlines : List Tree → List (Rose Mark)
  | [] => []
  | t :: rest => t.outline :: outlines rest

end

mutual

/-- The outline of a tree with its nodes numbered in pre-order from `index` on. -/
def numbered (index : Nat) : Tree → Rose (Nat × Mark)
  | .node label cs => .node (index, (Tree.node label cs).mark) (numberedAll (index + 1) cs)

def numberedAll (index : Nat) : List Tree → List (Rose (Nat × Mark))
  | [] => []
  | t :: rest => t.numbered index :: numberedAll (index + t.size) rest

end

end Tree

namespace Rose

variable {α β : Type}

mutual

def map (f : α → β) : Rose α → Rose β
  | .node a cs => .node (f a) (mapAll f cs)

def mapAll (f : α → β) : List (Rose α) → List (Rose β)
  | [] => []
  | t :: rest => t.map f :: mapAll f rest

end

mutual

/-- All numbers in a tree whose nodes have one. -/
def numbers : Rose (Nat × α) → List Nat
  | .node a cs => a.1 :: numbersAll cs

def numbersAll : List (Rose (Nat × α)) → List Nat
  | [] => []
  | t :: rest => t.numbers ++ numbersAll rest

end

mutual

/-- Makes a tree the last child of the node with the number `up`. -/
def attach (up : Nat) : Rose (Nat × α) → Rose (Nat × α) → Rose (Nat × α)
  | .node a cs, child =>
    if a.1 = up then .node a (cs ++ [child]) else .node a (attachAll up cs child)

def attachAll (up : Nat) : List (Rose (Nat × α)) → Rose (Nat × α) → List (Rose (Nat × α))
  | [], _ => []
  | t :: rest, child => t.attach up child :: attachAll up rest child

end

end Rose

/-- What a record says of the shape of the tree. -/
structure Entry where
  parent : Option Nat
  mark : Mark
deriving Repr, DecidableEq

namespace Entry

def ofNode (n : Node) : Entry := ⟨n.parent, ⟨n.rawType, n.startByte, n.endByte⟩⟩

def parentOf? : Json → Option (Option Nat)
  | .null => some none
  | value => (Row.natOf? value).map some

def textOf? : Json → Option String
  | .str text => some text
  | _ => none

def ofRecord? (record : Dict Json) : Option Entry := do
  let parent ← (record.get? "parent_index").bind parentOf?
  let type ← (record.get? "raw_type").bind textOf?
  let startByte ← (record.get? "start_byte").bind Row.natOf?
  let endByte ← (record.get? "end_byte").bind Row.natOf?
  some ⟨parent, type, startByte, endByte⟩

/-- Each entry in turn, the first of which has the number `index`, becomes the last child of the
node with its parent's number. Parents come before their children. -/
def extend (tree : Rose (Nat × Mark)) (index : Nat) : List Entry → Option (Rose (Nat × Mark))
  | [] => some tree
  | e :: rest =>
    match e.parent with
    | none => none
    | some up =>
      if up < index then extend (tree.attach up (.node (index, e.mark) [])) (index + 1) rest
      else none

/-- The first entry has no parent and is the root. -/
def rebuild : List Entry → Option (Rose (Nat × Mark))
  | [] => none
  | e :: rest =>
    match e.parent with
    | none => extend (.node (0, e.mark) []) 1 rest
    | some _ => none

end Entry

/-- The outline that is written in records. -/
def Rose.ofRecords? (records : List (Dict Json)) : Option (Rose Mark) := do
  let entries ← records.mapM Entry.ofRecord?
  let tree ← Entry.rebuild entries
  some (tree.map Prod.snd)

namespace Rose

variable {α : Type}

theorem numbersAll_append (cs ds : List (Rose (Nat × α))) :
    numbersAll (cs ++ ds) = numbersAll cs ++ numbersAll ds := by
  induction cs with
  | nil => rfl
  | cons c cs ih => rw [List.cons_append, numbersAll, numbersAll, ih, List.append_assoc]

theorem attachAll_append (up : Nat) (cs ds : List (Rose (Nat × α))) (child : Rose (Nat × α)) :
    attachAll up (cs ++ ds) child = attachAll up cs child ++ attachAll up ds child := by
  induction cs with
  | nil => rfl
  | cons c cs ih => rw [List.cons_append, attachAll, attachAll, ih, List.cons_append]

mutual

theorem attach_of_not_mem {up : Nat} (child : Rose (Nat × α)) :
    ∀ {t : Rose (Nat × α)}, up ∉ t.numbers → t.attach up child = t
  | .node a cs, h => by
    rw [numbers, List.mem_cons, not_or] at h
    rw [attach, if_neg (Ne.symm h.1), attachAll_of_not_mem child h.2]

theorem attachAll_of_not_mem {up : Nat} (child : Rose (Nat × α)) :
    ∀ {cs : List (Rose (Nat × α))}, up ∉ numbersAll cs → attachAll up cs child = cs
  | [], _ => rfl
  | t :: rest, h => by
    rw [numbersAll, List.mem_append, not_or] at h
    rw [attachAll, attach_of_not_mem child h.1, attachAll_of_not_mem child h.2]

end

mutual

/-- Where a number is new, it can only be found in what has been attached. -/
theorem attach_attach {up low : Nat} (c d : Rose (Nat × α)) :
    ∀ {t : Rose (Nat × α)}, low ∉ t.numbers →
      (t.attach up c).attach low d = t.attach up (c.attach low d)
  | .node a cs, h => by
    rw [numbers, List.mem_cons, not_or] at h
    by_cases ha : a.1 = up
    · rw [attach, if_pos ha, attach, if_neg (Ne.symm h.1), attachAll_append,
        attachAll_of_not_mem d h.2, attachAll, attachAll, attach, if_pos ha]
    · rw [attach, if_neg ha, attach, if_neg (Ne.symm h.1), attachAll_attachAll c d h.2, attach,
        if_neg ha]

theorem attachAll_attachAll {up low : Nat} (c d : Rose (Nat × α)) :
    ∀ {cs : List (Rose (Nat × α))}, low ∉ numbersAll cs →
      attachAll low (attachAll up cs c) d = attachAll up cs (c.attach low d)
  | [], _ => rfl
  | t :: rest, h => by
    rw [numbersAll, List.mem_append, not_or] at h
    rw [attachAll, attachAll, attachAll, attach_attach c d h.1, attachAll_attachAll c d h.2]

end

mutual

theorem mem_numbers_attach {up n : Nat} {c : Rose (Nat × α)} :
    ∀ {t : Rose (Nat × α)}, n ∈ (t.attach up c).numbers → n ∈ t.numbers ∨ n ∈ c.numbers
  | .node a cs, h => by
    rw [attach] at h
    split_ifs at h
    · simp only [numbers, numbersAll_append, numbersAll, List.append_nil, List.mem_cons,
        List.mem_append] at h ⊢
      tauto
    · rw [numbers, List.mem_cons] at h
      rw [numbers, List.mem_cons]
      rcases h with h | h
      · exact .inl (.inl h)
      · exact (mem_numbersAll_attachAll h).imp_left .inr

theorem mem_numbersAll_attachAll {up n : Nat} {c : Rose (Nat × α)} :
    ∀ {cs : List (Rose (Nat × α))}, n ∈ numbersAll (attachAll up cs c) →
      n ∈ numbersAll cs ∨ n ∈ c.numbers
  | [], h => by simp [attachAll, numbersAll] at h
  | t :: rest, h => by
    rw [attachAll, numbersAll, List.mem_append] at h
    rw [numbersAll, List.mem_append]
    rcases h with h | h
    · exact (mem_numbers_attach h).imp_left .inl
    · exact (mem_numbersAll_attachAll h).imp_left .inr

end

/-- Trees that become the last children of one node, one after the other. -/
def attachEach (up : Nat) (t : Rose (Nat × α)) (cs : List (Rose (Nat × α))) : Rose (Nat × α) :=
  cs.foldl (fun t c => t.attach up c) t

theorem attachEach_attach {up low : Nat} {t : Rose (Nat × α)} (h : low ∉ t.numbers)
    (c : Rose (Nat × α)) (ds : List (Rose (Nat × α))) :
    attachEach low (t.attach up c) ds = t.attach up (attachEach low c ds) := by
  induction ds generalizing c with
  | nil => rfl
  | cons d ds ih =>
    rw [attachEach, attachEach, List.foldl_cons, List.foldl_cons, attach_attach c d h]
    exact ih _

theorem attachEach_root (index : Nat) (a : α) (done cs : List (Rose (Nat × α))) :
    attachEach index (.node (index, a) done) cs = .node (index, a) (done ++ cs) := by
  induction cs generalizing done with
  | nil => rw [attachEach, List.foldl_nil, List.append_nil]
  | cons c cs ih =>
    rw [attachEach, List.foldl_cons, attach, if_pos rfl]
    exact (ih _).trans (by rw [List.append_assoc, List.singleton_append])

end Rose

namespace Tree

mutual

theorem map_numbered (index : Nat) : ∀ t : Tree, (t.numbered index).map Prod.snd = t.outline
  | .node label cs => by rw [numbered, Rose.map, outline, mapAll_numberedAll (index + 1) cs]

theorem mapAll_numberedAll (index : Nat) : ∀ cs : List Tree,
    Rose.mapAll Prod.snd (numberedAll index cs) = outlines cs
  | [] => rfl
  | t :: rest => by
    rw [numberedAll, Rose.mapAll, outlines, map_numbered index t, mapAll_numberedAll _ rest]

end

mutual

theorem lt_of_mem_numbered {n : Nat} : ∀ {t : Tree} {index : Nat},
    n ∈ (t.numbered index).numbers → n < index + t.size
  | .node label cs, index, h => by
    rw [numbered, Rose.numbers, List.mem_cons] at h
    rw [size]
    rcases h with rfl | h
    · omega
    · have := lt_of_mem_numberedAll h
      omega

theorem lt_of_mem_numberedAll {n : Nat} : ∀ {cs : List Tree} {index : Nat},
    n ∈ Rose.numbersAll (numberedAll index cs) → n < index + sizeAll cs
  | [], index, h => by simp [numberedAll, Rose.numbersAll] at h
  | t :: rest, index, h => by
    rw [numberedAll, Rose.numbersAll, List.mem_append] at h
    rw [sizeAll]
    rcases h with h | h
    · have := lt_of_mem_numbered h
      omega
    · have := lt_of_mem_numberedAll h
      omega

end

end Tree

namespace Entry
open Canopy.Tree

/-- A record holds its node's entry. -/
theorem ofRecord?_record (n : Node) : ofRecord? n.record = some (ofNode n) := by
  have hparent : parentOf? (Json.ofOption Json.nat n.parent) = some n.parent := by
    cases n.parent <;> rfl
  simp [ofRecord?, Node.record, Dict.get?, hparent, textOf?, Row.natOf?, Json.nat, ofNode]

theorem mapM_ofRecord? (nodes : List Node) :
    (nodes.map Node.record).mapM ofRecord? = some (nodes.map ofNode) := by
  induction nodes with
  | nil => rfl
  | cons n nodes ih => simp [ofRecord?_record, ih]

mutual

/-- The entries of a subtree, read in order, make it the last child of its parent. All numbers in
the tree so far are smaller, so none of the entries can go astray. -/
theorem extend_preorder {make : Nat → Pending → Node}
    (hmake : ∀ i p, ofNode (make i p) = ⟨p.parent, p.place.tree.mark⟩) : ∀ (t : Tree)
    (index up : Nat) (ancestors : List Tree) (tree : Rose (Nat × Mark)) (rest : List Entry),
    up < index → (∀ n ∈ tree.numbers, n < index) →
    extend tree index ((Ast.preorder make index (some up) ancestors t).map ofNode ++ rest) =
      extend (tree.attach up (t.numbered index)) (index + t.size) rest
  | .node label cs, index, up, ancestors, tree, rest, hup, hsmall => by
    have hnew : index ∉ tree.numbers := fun h => absurd (hsmall index h) (Nat.lt_irrefl _)
    have hsmall' : ∀ n ∈ (tree.attach up (.node (index, (Tree.node label cs).mark) [])).numbers,
        n < index + 1 := by
      intro n hn
      rcases Rose.mem_numbers_attach hn with h | h
      · have := hsmall n h
        omega
      · simp only [Rose.numbers, Rose.numbersAll, List.mem_singleton] at h
        omega
    rw [Ast.preorder, List.map_cons, hmake, List.cons_append, extend]
    dsimp only
    -- the children go below the new leaf, which may as well take them before it is attached
    rw [if_pos hup, extend_preorderAll hmake cs (index + 1) index _ _ rest (Nat.lt_succ_self _)
      hsmall', Rose.attachEach_attach hnew, Rose.attachEach_root, List.nil_append, numbered, size,
      Nat.add_assoc, Nat.add_comm 1]

theorem extend_preorderAll {make : Nat → Pending → Node}
    (hmake : ∀ i p, ofNode (make i p) = ⟨p.parent, p.place.tree.mark⟩) : ∀ (cs : List Tree)
    (index up : Nat) (ancestors : List Tree) (tree : Rose (Nat × Mark)) (rest : List Entry),
    up < index → (∀ n ∈ tree.numbers, n < index) →
    extend tree index ((Ast.preorderAll make index (some up) ancestors cs).map ofNode ++ rest) =
      extend (Rose.attachEach up tree (numberedAll index cs)) (index + sizeAll cs) rest
  | [], index, up, ancestors, tree, rest, _, _ => by
    simp [Ast.preorderAll, numberedAll, sizeAll, Rose.attachEach]
  | t :: cs, index, up, ancestors, tree, rest, hup, hsmall => by
    have hsmall' : ∀ n ∈ (tree.attach up (t.numbered index)).numbers, n < index + t.size := by
      intro n hn
      rcases Rose.mem_numbers_attach hn with h | h
      · have := hsmall n h
        omega
      · exact lt_of_mem_numbered h
    rw [Ast.preorderAll, List.map_append, List.append_assoc,
      extend_preorder hmake t index up ancestors tree _ hup hsmall,
      extend_preorderAll hmake cs (index + t.size) up ancestors _ rest (by omega) hsmall', sizeAll,
      Nat.add_assoc, numberedAll]
    rfl

end

/-- The entries of a whole tree build it from its root on. -/
theorem rebuild_preorder {make : Nat → Pending → Node}
    (hmake : ∀ i p, ofNode (make i p) = ⟨p.parent, p.place.tree.mark⟩) (t : Tree) :
    rebuild ((Ast.preorder make 0 none [] t).map ofNode) = some (t.numbered 0) := by
  obtain ⟨label, cs⟩ := t
  have hsmall : ∀ n ∈ (Rose.node (0, (Tree.node label cs).mark) []).numbers, n < 1 := by
    simp [Rose.numbers, Rose.numbersAll]
  have hbelow := extend_preorderAll hmake cs 1 0 [.node label cs] _ [] Nat.one_pos hsmall
  rw [List.append_nil, Rose.attachEach_root, List.nil_append] at hbelow
  rw [Ast.preorder, List.map_cons, hmake, rebuild]
  exact hbelow

end Entry

namespace Ast
open Canopy.Tree

theorem entries_countDescendants (nodes : List Node) :
    (countDescendants nodes).map Entry.ofNode = nodes.map Entry.ofNode := by
  rw [countDescendants, List.map_map]
  rfl

/-- The records of a flat tree hold the outline of the raw one. -/
theorem ofRecords?_flatten (l : Profile) (options : BuildOptions) (source : Bytes) (t : Tree) :
    Rose.ofRecords? ((flatten l options source t).map Node.record) = some t.outline := by
  have hmake : ∀ i p, Entry.ofNode (Node.ofPlace l options source i p) =
      ⟨p.parent, p.place.tree.mark⟩ := fun _ _ => rfl
  simp only [Rose.ofRecords?, Entry.mapM_ofRecord?, flatten_eq, entries_countDescendants,
    Option.bind_eq_bind, Option.bind_some, Entry.rebuild_preorder hmake, map_numbered]

/-- Records lose nothing of the shape of a raw tree: made into the last child of the one at its
parent's position, one after the other, they are the tree again. So trees of equal records have
the same nodes in the same places, whatever they were built with. -/
theorem build_records_determine_outline (options options' : BuildOptions) (source source' : Bytes)
    {world world' : World} {a a' : Adapter} {parse parse' : Parse}
    (hparse : (a.provider.parse (world.load a.provider.grammar) world.found
      source.length).result = .ok parse)
    (hparse' : (a'.provider.parse (world'.load a'.provider.grammar) world'.found
      source'.length).result = .ok parse')
    (htypes : ∀ q s, parse.tree.top.at? q = some s → s.type ≠ "")
    (htypes' : ∀ q s, parse'.tree.top.at? q = some s → s.type ≠ "") :
    ∃ ast ast', (build world options source a).result = .ok ast ∧
      (build world' options' source' a').result = .ok ast' ∧
      Rose.ofRecords? ast.records = some parse.tree.outline ∧
      Rose.ofRecords? ast'.records = some parse'.tree.outline ∧
      (ast.records = ast'.records → parse.tree.outline = parse'.tree.outline) := by
  -- each list of records can be read back without a look at what it was built with
  have hdecode := ofRecords?_flatten a.profile options source parse.tree
  have hdecode' := ofRecords?_flatten a'.profile options' source' parse'.tree
  refine ⟨_, _, (build_eq_ok options source).mpr ⟨parse, hparse, htypes, rfl⟩,
    (build_eq_ok options' source').mpr ⟨parse', hparse', htypes', rfl⟩, hdecode, hdecode', ?_⟩
  intro hrecords
  simp only [records] at hrecords
  rw [hrecords, hdecode'] at hdecode
  exact (Option.some.inj hdecode).symm

theorem build_records_determine_outline_assignment :
    ∃ ast ast', (build assignmentWorld {} [120, 61, 49] (.ofLanguage .python)).result = .ok ast ∧
      (build assignmentWorld ⟨some 2, .none⟩ [120, 61, 49] (.ofLanguage .python)).result =
        .ok ast' ∧
      ast.records = ast'.records ∧
      Rose.ofRecords? ast.records = some assignmentTree.outline := by
  obtain ⟨ast, ast', hast, hast', hdecode, -, -⟩ :=
    build_records_determine_outline {} ⟨some 2, .none⟩ [120, 61, 49] [120, 61, 49]
      parse_assignmentWorld parse_assignmentWorld assignmentTree_types assignmentTree_types
  -- a size without effect leaves the same records
  have hsame : build assignmentWorld ⟨some 2, .none⟩ [120, 61, 49] (.ofLanguage .python) =
      build assignmentWorld {} [120, 61, 49] (.ofLanguage .python) := rfl
  refine ⟨ast, ast', hast, hast', ?_, hdecode⟩
  rw [hsame, hast] at hast'
  rw [Except.ok.inj hast']

end Ast
end Canopy
