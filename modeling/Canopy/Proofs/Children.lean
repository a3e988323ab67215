import Canopy.Proofs.Ancestry

namespace Canopy.Ast
open Canopy.Tree

/-- A scan of a window misses nothing where all that fits lies in the window. -/
theorem filter_window {α : Type} {f : α → Bool} {xs : List α} {start n : Nat}
    (h : ∀ j x, xs[j]? = some x → f x = true → start ≤ j ∧ j < start + n) :
    ((xs.drop start).take n).filter f = xs.filter f := by
  have hleft : (xs.take start).filter f = [] := by
    rw [List.filter_eq_nil_iff]
    intro x hx hfit
    obtain ⟨j, hj⟩ := List.getElem?_of_mem hx
    rw [List.getElem?_take] at hj
    split_ifs at hj with hlt
    have := (h j x hj hfit).1
    omega
  have hright : ((xs.drop start).drop n).filter f = [] := by
    rw [List.filter_eq_nil_iff]
    intro x hx hfit
    obtain ⟨j, hj⟩ := List.getElem?_of_mem hx
    rw [List.getElem?_drop, List.getElem?_drop] at hj
    have := (h _ x hj hfit).2
    omega
  have hall : xs = xs.take start ++ ((xs.drop start).take n ++ (xs.drop start).drop n) := by
    rw [List.take_append_drop, List.take_append_drop]
  conv_rhs => rw [hall, List.filter_append, List.filter_append, hleft, hright]
  rw [List.nil_append, List.append_nil]

/-- Nodes in the order of their positions, none of them twice. -/
def Ordered (nodes : List Node) : Prop := nodes.Pairwise fun m n => m.index < n.index

theorem Ordered.nodup {nodes : List Node} (h : Ordered nodes) : nodes.Nodup := by
  apply h.imp
  intro m n hlt heq
  rw [heq] at hlt
  exact Nat.lt_irrefl _ hlt

/-- The order leaves no choice between lists of the same nodes. -/
theorem Ordered.eq_of_mem_iff {ms ns : List Node} (hm : Ordered ms) (hn : Ordered ns)
    (h : ∀ n, n ∈ ms ↔ n ∈ ns) : ms = ns := by
  have hperm : ms.Perm ns := (List.perm_ext_iff_of_nodup hm.nodup hn.nodup).mpr h
  apply List.Perm.eq_of_pairwise _ hm hn hperm
  intro a b _ _ hab hba
  omega

variable (l : Profile) (options : BuildOptions) (source : Bytes) {t : Tree}

/-- The nodes for the children of a raw node, in document order. -/
def childNodes (t : Tree) (q : Address) (s : Place) : List Node :=
  s.children.mapIdx fun x c => nodeAt l options source t (q ++ [x]) c

theorem ordered_flatten : Ordered (flatten l options source t) := by
  apply List.pairwise_iff_getElem.mpr
  intro i j hi hj hij
  have hindex : ∀ (k : Nat) (hk : k < (flatten l options source t).length),
      (flatten l options source t)[k].index = k := by
    intro k hk
    obtain ⟨q, s, -, hrank, hn⟩ :=
      (flatten_getElem?_eq_some l options source).mp (List.getElem?_eq_getElem hk)
    rw [hn]
    exact hrank
  rw [hindex i hi, hindex j hj]
  exact hij

theorem ordered_childNodes {q : Address} {s : Place} (h : t.top.at? q = some s) :
    Ordered (childNodes l options source t q s) := by
  apply List.pairwise_iff_getElem.mpr
  intro x y hx hy hxy
  rw [childNodes, List.length_mapIdx] at hx hy
  simp only [childNodes, List.getElem_mapIdx]
  exact rank_concat_lt (p := t.top) h hxy hy

/-- The nodes that name a node as their parent are those of its children, by rank and by address. -/
theorem mem_childNodes {q : Address} {s : Place} (h : t.top.at? q = some s) {n : Node} :
    n ∈ childNodes l options source t q s ↔
      n ∈ flatten l options source t ∧ n.parent = some (t.rank q) := by
  constructor
  · intro hn
    obtain ⟨x, hx⟩ := List.getElem?_of_mem hn
    rw [childNodes, List.getElem?_mapIdx, Option.map_eq_some_iff] at hx
    obtain ⟨c, hc, rfl⟩ := hx
    rw [← Place.at?_concat h] at hc
    refine ⟨List.mem_of_getElem? (flatten_getElem?_rank l options source hc), ?_⟩
    change parentRank t 0 none (q ++ [x]) = _
    rw [parentRank_top, parentAddress?_concat, Option.map_some]
  · intro hn
    obtain ⟨j, hj⟩ := List.getElem?_of_mem hn.1
    have hparent : IsParent (flatten l options source t) (t.rank q) j := ⟨n, hj, hn.2⟩
    obtain ⟨r, x, u, hu, hr, rfl⟩ := (isParent_flatten l options source).mp hparent
    obtain ⟨v, hv, -⟩ := Place.at?_append_eq_some hu
    obtain rfl : r = q := rank_injective (p := t.top) hv h hr
    rw [flatten_getElem?_rank l options source hu] at hj
    rw [Place.at?_concat h] at hu
    apply List.mem_of_getElem? (i := x)
    rw [childNodes, List.getElem?_mapIdx, hu, Option.map_some]
    exact hj

/-- A scan of all nodes for a parent finds the nodes of its children in document order. -/
theorem filter_parent_flatten {q : Address} {s : Place} (h : t.top.at? q = some s) :
    (flatten l options source t).filter (fun n => n.parent = some (t.rank q)) =
      childNodes l options source t q s := by
  apply Ordered.eq_of_mem_iff
  · exact (ordered_flatten l options source).filter _
  · exact ordered_childNodes l options source h
  · intro n
    rw [mem_childNodes l options source h, List.mem_filter, decide_eq_true_eq]

/-- Whoever names a node as its parent is among that node's descendants. -/
theorem window_flatten {i : Nat} {n : Node} (hn : (flatten l options source t)[i]? = some n) :
    (((flatten l options source t).drop (i + 1)).take n.descendantCount).filter
        (fun m => m.parent = some i) =
      (flatten l options source t).filter fun m => m.parent = some i := by
  apply filter_window
  intro j m hm hparent
  have hj := (List.getElem?_eq_some_iff.mp hm).1
  have hup : IsAncestor (flatten l options source t) i j :=
    .single ⟨m, hm, of_decide_eq_true hparent⟩
  have hinterval := (interval_iff_isAncestor l options source hn hj).mpr hup
  omega

theorem childrenOf?_flatten {q : Address} {s : Place} (h : t.top.at? q = some s) (ast : Ast)
    (hast : ast.nodes = flatten l options source t) :
    ast.childrenOf? (t.rank q) = some (ast.nodes.filter fun n => n.parent = some (t.rank q)) := by
  have hn := flatten_getElem?_rank l options source h
  change (ast.nodes[t.rank q]?).map _ = _
  rw [hast, hn, Option.map_some, window_flatten l options source hn]

/-- Children are looked for among the descendants alone, and yet none is missed: the result is that
of a scan of the whole list, one node for each child of the raw node, in document order. -/
theorem build_childrenOf_scans_all (options : BuildOptions) (source : Bytes) {world : World}
    {a : Adapter} {ast : Ast} (h : (build world options source a).result = .ok ast) :
    ∃ parse, (a.provider.parse (world.load a.provider.grammar) world.found
        source.length).result = .ok parse ∧
      ∀ i < ast.nodes.length, ∃ n q s found,
        ast.nodes[i]? = some n ∧ parse.tree.addresses[i]? = some q ∧
        parse.tree.top.at? q = some s ∧
        ast.childrenOf? i = some found ∧
        found = ast.nodes.filter (fun m => m.parent = some i) ∧
        found.length = n.childCount ∧ found.length = s.children.length ∧
        ∀ (x : Nat) (c : Place), s.children[x]? = some c → ∃ m,
          found[x]? = some m ∧ parse.tree.top.at? (q ++ [x]) = some c ∧
          ast.nodes[m.index]? = some m ∧ Describes parse.tree m.index (q ++ [x]) c m := by
  obtain ⟨parse, hparse, -, rfl⟩ := (build_eq_ok options source).mp h
  refine ⟨parse, hparse, fun i hi => ?_⟩
  rw [length_flatten] at hi
  obtain ⟨q, s, hs, rfl⟩ := exists_of_lt_size (p := parse.tree.top) hi
  have hfound := childrenOf?_flatten a.profile options source hs
    ⟨a.name, source.length, parse.hasError, flatten a.profile options source parse.tree⟩ rfl
  have hchildren := filter_parent_flatten a.profile options source hs
  have hlength : (childNodes a.profile options source parse.tree q s).length =
      s.children.length := List.length_mapIdx
  refine ⟨_, q, s, _, flatten_getElem?_rank a.profile options source hs,
    addresses_getElem?_rank hs, hs, hfound, rfl, ?_, ?_, ?_⟩
  · rw [hchildren, hlength, Place.length_children]
    rfl
  · rw [hchildren, hlength]
  · intro x c hc
    have hat : parse.tree.top.at? (q ++ [x]) = some c := (Place.at?_concat hs x).trans hc
    refine ⟨nodeAt a.profile options source parse.tree (q ++ [x]) c, ?_, hat,
      flatten_getElem?_rank a.profile options source hat,
      describes_nodeAt a.profile options source hat⟩
    rw [hchildren, childNodes, List.getElem?_mapIdx, hc, Option.map_some]

/-- The three parts of `x=1` are the children of the assignment. -/
theorem build_childrenOf_scans_all_assignment :
    ∃ ast found, (build assignmentWorld {} [120, 61, 49] (.ofLanguage .python)).result = .ok ast ∧
      ast.childrenOf? 2 = some found ∧ found.length = 3 ∧
      found = ast.nodes.filter fun m => m.parent = some 2 := by
  have hast : (build assignmentWorld {} [120, 61, 49] (.ofLanguage .python)).result =
      .ok ⟨"python", 3, false, flatten Language.Python.profile {} [120, 61, 49] assignmentTree⟩ :=
    (build_eq_ok {} [120, 61, 49]).mpr ⟨⟨assignmentTree, false⟩, rfl, assignmentTree_types, rfl⟩
  obtain ⟨parse, hparse, hnodes⟩ := build_childrenOf_scans_all {} [120, 61, 49] hast
  obtain ⟨n, q, s, found, -, hq, hs, hfound, hall, -, hlength, -⟩ :=
    hnodes 2 (by rw [length_flatten]; decide)
  obtain rfl : parse = ⟨assignmentTree, false⟩ := Except.ok.inj (hparse.symm.trans rfl)
  obtain rfl : q = [0, 0] := Option.some.inj (hq.symm.trans rfl)
  obtain rfl : s = _ := Option.some.inj (hs.symm.trans rfl)
  exact ⟨_, found, hast, hfound, hlength, hall⟩

end Canopy.Ast
