import Canopy.Proofs.SourceTexts

namespace Canopy

namespace Tree

/-- A tree is another one or lies at most `k` levels below it. -/
inductive Within : Nat → Tree → Tree → Prop where
  | here {k : Nat} {t : Tree} : Within k t t
  | down {k : Nat} {t c u : Tree} (child : c ∈ t.children) (h : Within k c u) :
    Within (k + 1) t u

/-- The first text of a list of nodes that is not empty. -/
def firstText (source : Bytes) : List Tree → String
  | [] => ""
  | t :: rest => orElseText (t.text source) (firstText source rest)

/-- A text is read off nodes at most `k` levels below `t`. Which ones come into question is settled
without a look at the source; it then decides for the first of them that has a text. -/
def Reads (k : Nat) (t : Tree) (f : Bytes → String) : Prop :=
  ∃ nodes : List Tree, (∀ u ∈ nodes, Within k t u) ∧ ∀ source, f source = firstText source nodes

theorem Within.mono {k m : Nat} {t u : Tree} (h : Within k t u) (hkm : k ≤ m) :
    Within m t u := by
  induction h generalizing m with
  | here => exact .here
  | down child _ ih =>
    cases m with
    | zero => omega
    | succ m => exact .down child (ih (Nat.le_of_succ_le_succ hkm))

/-- The levels are the steps of a way down. -/
theorem Within.exists_at? {k : Nat} {t u : Tree} (h : Within k t u) (ancestors : List Tree) :
    ∃ q s, Place.at? ⟨t, ancestors⟩ q = some s ∧ s.tree = u ∧ q.length ≤ k := by
  induction h generalizing ancestors with
  | here => exact ⟨[], _, rfl, rfl, Nat.zero_le _⟩
  | @down k t c u child _ ih =>
    obtain ⟨i, hi⟩ := List.getElem?_of_mem child
    obtain ⟨q, s, hs, hu, hq⟩ := ih (t :: ancestors)
    refine ⟨i :: q, s, ?_, hu, by simpa using hq⟩
    simpa [Place.at?, Place.children_getElem?, hi] using hs

section FirstText

variable (source : Bytes)

theorem firstText_append (ts us : List Tree) :
    firstText source (ts ++ us) = orElseText (firstText source ts) (firstText source us) := by
  induction ts with
  | nil => rfl
  | cons t ts ih =>
    rw [List.cons_append, firstText, firstText, ih]
    unfold orElseText
    split_ifs <;> simp_all

theorem firstText_singleton (t : Tree) : firstText source [t] = t.text source := by
  unfold firstText firstText orElseText
  split_ifs with h <;> simp [h]

/-- There is no other text than those of the nodes. -/
theorem firstText_cases (ts : List Tree) :
    firstText source ts = "" ∨ ∃ t ∈ ts, firstText source ts = t.text source := by
  induction ts with
  | nil => exact .inl rfl
  | cons t ts ih =>
    rw [firstText, orElseText]
    split_ifs with h
    · rcases ih with hnone | ⟨u, hu, htext⟩
      · exact .inl hnone
      · exact .inr ⟨u, List.mem_cons_of_mem t hu, htext⟩
    · exact .inr ⟨t, List.mem_cons_self, rfl⟩

end FirstText

namespace Reads

variable {k : Nat} {t : Tree} {f g : Bytes → String}

theorem nothing : Reads k t fun _ => "" :=
  ⟨[], by simp, fun _ => rfl⟩

theorem text {u : Tree} (h : Within k t u) : Reads k t fun source => u.text source :=
  ⟨[u], by simpa using h, fun source => (firstText_singleton source u).symm⟩

theorem child {c : Tree} (h : c ∈ t.children) : Reads 1 t fun source => c.text source :=
  .text (.down h .here)

theorem orElse (hf : Reads k t f) (hg : Reads k t g) :
    Reads k t fun source => orElseText (f source) (g source) := by
  obtain ⟨ts, hts, hf⟩ := hf
  obtain ⟨us, hus, hg⟩ := hg
  refine ⟨ts ++ us, fun u hu => ?_, fun source => ?_⟩
  · exact (List.mem_append.mp hu).elim (hts u) (hus u)
  · rw [firstText_append, ← hf, ← hg]

theorem below {c : Tree} (child : c ∈ t.children) (h : Reads k c f) : Reads (k + 1) t f := by
  obtain ⟨ts, hts, hf⟩ := h
  exact ⟨ts, fun u hu => .down child (hts u hu), hf⟩

theorem mono {m : Nat} (h : Reads k t f) (hkm : k ≤ m) : Reads m t f := by
  obtain ⟨ts, hts, hf⟩ := h
  exact ⟨ts, fun u hu => (hts u hu).mono hkm, hf⟩

/-- Reading below a node that was itself reached by steps down. -/
theorem trans {m : Nat} {u : Tree} (h : Within k t u) (hf : Reads m u f) :
    Reads (k + m) t f := by
  induction h with
  | here => exact hf.mono (Nat.le_add_left _ _)
  | down child _ ih =>
    have := (ih hf).below child
    rwa [Nat.add_right_comm] at this

end Reads

section Steps

variable {t c : Tree}

theorem mem_children_of_namedChildren (h : c ∈ t.namedChildren) : c ∈ t.children :=
  (List.mem_filter.mp h).1

theorem mem_of_childByField? {field : String} (h : t.childByField? field = some c) :
    c ∈ t.children :=
  List.mem_of_find?_eq_some h

theorem mem_of_find_named {p : Tree → Bool} (h : t.namedChildren.find? p = some c) :
    c ∈ t.children :=
  mem_children_of_namedChildren (List.mem_of_find?_eq_some h)

theorem mem_of_nextTarget? {names : List String} (h : t.nextTarget? names = some c) :
    c ∈ t.children := by
  unfold nextTarget? at h
  cases hfield : t.fieldTarget? with
  | some d =>
    obtain ⟨field, -, hd⟩ := List.exists_of_findSome?_eq_some hfield
    obtain rfl : d = c := by simpa [hfield] using h
    exact mem_of_childByField? hd
  | none =>
    cases hdeclarator : t.namedChildren.find? isDeclarator with
    | some d =>
      obtain rfl : d = c := by simpa [hfield, hdeclarator] using h
      exact mem_of_find_named hdeclarator
    | none =>
      simp only [hfield, hdeclarator] at h
      split_ifs at h
      exact mem_of_find_named h

end Steps

section Strategies

variable {t : Tree}

theorem reads_childText (types : List String) :
    Reads 1 t fun source => t.childText source types := by
  unfold childText
  cases hfind : t.children.find? fun c => types.contains c.type with
  | none => exact .nothing
  | some c => exact .child (List.mem_of_find?_eq_some hfind)

theorem reads_callTargetText : Reads 1 t fun source => t.callTargetText source := by
  unfold callTargetText
  cases hfield : t.childByField? "function" with
  | some c => exact .child (mem_of_childByField? hfield)
  | none =>
    cases hhead : t.namedChildren.head? with
    | none => exact .nothing
    | some c => exact .child (mem_children_of_namedChildren (List.mem_of_head? hhead))

/-- Each node of the chain is one level below the one before, so fuel bounds the levels. -/
theorem reads_followTarget (names : List String) (fuel : Nat) :
    Reads fuel t fun source => followTarget source names fuel t := by
  induction fuel generalizing t with
  | zero => exact .nothing
  | succ fuel ih =>
    unfold followTarget
    split_ifs
    · exact .text .here
    · cases hnext : t.nextTarget? names with
      | none => exact .text .here
      | some c => exact ih.below (mem_of_nextTarget? hnext)

theorem reads_assignmentTargetText (identifiers : List String) :
    Reads chainBound t fun source => t.assignmentTargetText source identifiers := by
  unfold assignmentTargetText
  dsimp only
  cases hnext : t.nextTarget? (identifiers ++ propertyTypes) with
  | none => exact .nothing
  | some c => exact (reads_followTarget _ (chainBound - 1)).below (mem_of_nextTarget? hnext)

theorem reads_extract (identifiers : List String) (strategy : Strategy) :
    Reads chainBound t fun source => t.extract source identifiers strategy := by
  have hone : 1 ≤ chainBound := by decide
  cases strategy with
  | none => exact .nothing
  | nodeText => exact .text .here
  | findIdentifier => exact (reads_childText identifiers).mono hone
  | findProperty =>
    exact ((reads_childText propertyTypes).orElse (reads_childText identifiers)).mono hone
  | findCallTarget => exact reads_callTargetText.mono hone
  | findAssignmentTarget => exact reads_assignmentTargetText identifiers

end Strategies
end Tree

namespace Language
open Canopy.Tree

variable {t : Tree}

theorem C.mem_of_unwrap? {c : Tree} (h : C.unwrap? t = some c) : c ∈ t.children := by
  unfold C.unwrap? at h
  cases hfield : t.childByField? "declarator" with
  | some d =>
    obtain rfl : d = c := by simpa [hfield] using h
    exact mem_of_childByField? hfield
  | none =>
    simp only [hfield] at h
    exact mem_of_find_named h

theorem C.within_of_findFunctionDeclarator? {fuel : Nat} {start : Option Tree} {d : Tree}
    (hstart : ∀ c, start = some c → c ∈ t.children)
    (h : C.findFunctionDeclarator? fuel start = some d) : Within fuel t d := by
  induction fuel generalizing t start with
  | zero => simp [C.findFunctionDeclarator?] at h
  | succ fuel ih =>
    cases start with
    | none => simp [C.findFunctionDeclarator?] at h
    | some c =>
      have child : c ∈ t.children := hstart c rfl
      rw [C.findFunctionDeclarator?] at h
      split_ifs at h
      · obtain rfl : c = d := Option.some.inj h
        exact .down child .here
      · exact .down child (ih (fun _ => C.mem_of_unwrap?) h)

/-- The longest way to a name: a chain of declarators to its end, and one level more. -/
theorem C.reads_functionName : Reads 17 t fun source => C.functionName source t := by
  unfold C.functionName
  cases hdeclarator : C.functionDeclarator? t with
  | none => exact .nothing
  | some d =>
    have hd : Within chainBound t d :=
      C.within_of_findFunctionDeclarator? (fun _ => mem_of_childByField?) hdeclarator
    have hnames := (reads_childText (t := d) ["field_identifier"]).orElse
      ((reads_childText ["identifier"]).orElse (reads_childText C.qualifiedNames))
    exact .trans hd hnames

theorem C.reads_fallbackName : Reads 17 t fun source => C.fallbackName source t := by
  unfold C.fallbackName
  split_ifs
  · exact (reads_childText ["identifier"]).mono (by decide)
  · exact .nothing

theorem reads_fallbackName (l : Language) :
    Reads 17 t fun source => l.profile.fallbackName source t := by
  cases l with
  | javascript =>
    change Reads 17 t fun source =>
      if JavaScript.namedByText.contains t.type then t.text source else ""
    split_ifs
    · exact .text .here
    · exact .nothing
  | c => exact C.reads_fallbackName
  | cpp => exact C.reads_fallbackName
  | python => exact .nothing
  | rust => exact .nothing

/-- Whether a language has a rule of its own for the name of a node depends on the node alone. -/
theorem innerName_cases (l : Language) (t : Tree) :
    (∀ source, l.profile.innerName source t = none) ∨
      ∀ source, l.profile.innerName source t = some (C.functionName source t) := by
  have hc : (∀ source, C.innerName source t = none) ∨
      ∀ source, C.innerName source t = some (C.functionName source t) := by
    unfold C.innerName
    split_ifs
    · exact .inr fun _ => rfl
    · exact .inl fun _ => rfl
  cases l with
  | c => exact hc
  | cpp => exact hc
  | python => exact .inl fun _ => rfl
  | javascript => exact .inl fun _ => rfl
  | rust => exact .inl fun _ => rfl

theorem reads_nodeName (l : Language) (t : Tree) :
    Reads 17 t fun source => l.profile.nodeName source t := by
  unfold Profile.nodeName
  rcases innerName_cases l t with hnone | hsome
  · simp only [hnone]
    cases l.profile.configFor? t with
    | none => exact reads_fallbackName l
    | some c => exact (reads_extract l.profile.identifiers c.nameBy).mono (by decide)
  · simp only [hsome]
    exact C.reads_functionName

theorem reads_nodeValue (l : Language) (t : Tree) :
    Reads 17 t fun source => l.profile.nodeValue source t := by
  unfold Profile.nodeValue
  cases l.profile.configFor? t with
  | none => exact .nothing
  | some c => exact (reads_extract l.profile.identifiers c.valueBy).mono (by decide)

end Language

namespace Place
open Canopy.Tree

/-- Two sources of one length that do not differ in the range of a node or of one below it. -/
structure SameBelow (n : Place) (source source' : Bytes) : Prop where
  length_eq : source.length = source'.length
  getElem?_eq : ∀ q s, n.at? q = some s → ∀ i, s.tree.startByte ≤ i → i < s.tree.endByte →
    source[i]? = source'[i]?

variable {n : Place} {source source' : Bytes}

theorem SameBelow.text_eq {k : Nat} {u : Tree} (h : n.SameBelow source source')
    (hu : Within k n.tree u) : u.text source = u.text source' := by
  obtain ⟨q, s, hs, rfl, -⟩ := hu.exists_at? n.ancestors
  have hslice : Bytes.slice source s.tree.startByte s.tree.endByte =
      Bytes.slice source' s.tree.startByte s.tree.endByte := by
    apply List.ext_getElem?
    intro i
    simp only [Bytes.slice, List.getElem?_take, List.getElem?_drop]
    split_ifs with hi
    · exact h.getElem?_eq q s hs _ (by omega) (by omega)
    · rfl
  unfold Bytes.slice at hslice
  rw [Tree.text, Tree.text, h.length_eq, hslice]

theorem SameBelow.firstText_eq {k : Nat} {ts : List Tree} (h : n.SameBelow source source')
    (hts : ∀ u ∈ ts, Within k n.tree u) : firstText source ts = firstText source' ts := by
  induction ts with
  | nil => rfl
  | cons t ts ih =>
    obtain ⟨ht, hrest⟩ := List.forall_mem_cons.mp hts
    rw [firstText, firstText, h.text_eq ht, ih hrest]

theorem SameBelow.reads_eq {k : Nat} {f : Bytes → String} (h : n.SameBelow source source')
    (hf : Reads k n.tree f) : f source = f source' := by
  obtain ⟨ts, hts, hf⟩ := hf
  rw [hf, hf, h.firstText_eq hts]

/-- The text is that of a node at most `k` steps down, if it is not empty. -/
def TextBelow (n : Place) (k : Nat) (source : Bytes) (text : String) : Prop :=
  text = "" ∨ ∃ q s, n.at? q = some s ∧ q.length ≤ k ∧ text = s.tree.text source

theorem textBelow_of_reads {k : Nat} {f : Bytes → String} (h : Reads k n.tree f)
    (source : Bytes) : n.TextBelow k source (f source) := by
  obtain ⟨ts, hts, hf⟩ := h
  rw [hf]
  rcases firstText_cases source ts with hnone | ⟨u, hu, htext⟩
  · exact .inl hnone
  · obtain ⟨q, s, hs, rfl, hq⟩ := (hts u hu).exists_at? n.ancestors
    exact .inr ⟨q, s, hs, hq, htext⟩

/-- Names and values are texts of the node or of nodes not far below it, and nothing in the source
outside of their ranges has a bearing on them, not even on which text is taken. -/
theorem names_and_values_come_from_below (l : Language) (n : Place) :
    (∀ source, n.TextBelow 17 source (l.profile.nodeName source n.tree) ∧
      n.TextBelow 17 source (l.profile.nodeValue source n.tree)) ∧
    ∀ source source', n.SameBelow source source' →
      l.profile.nodeName source n.tree = l.profile.nodeName source' n.tree ∧
      l.profile.nodeValue source n.tree = l.profile.nodeValue source' n.tree := by
  have hname := Language.reads_nodeName l n.tree
  have hvalue := Language.reads_nodeValue l n.tree
  constructor
  · intro source
    exact ⟨textBelow_of_reads hname source, textBelow_of_reads hvalue source⟩
  · intro source source' hsame
    exact ⟨hsame.reads_eq hname, hsame.reads_eq hvalue⟩

/-- The name on the left of `x=1` is there in `x+2` as well. -/
theorem names_and_values_come_from_below_assignment :
    ∃ n, Ast.assignmentTree.top.at? [0, 0, 0] = some n ∧
      n.SameBelow [120, 61, 49] [120, 43, 50] ∧
      Language.python.profile.nodeName [120, 61, 49] n.tree = "x" ∧
      Language.python.profile.nodeName [120, 43, 50] n.tree = "x" := by
  obtain ⟨n, hn, hleaf, hstop⟩ : ∃ n, Ast.assignmentTree.top.at? [0, 0, 0] = some n ∧
      n.tree.children = [] ∧ n.tree.endByte = 1 := ⟨_, rfl, rfl, rfl⟩
  have hsame : n.SameBelow [120, 61, 49] [120, 43, 50] := by
    refine ⟨rfl, fun q s hs i _ hi => ?_⟩
    cases q with
    | nil =>
      obtain rfl : n = s := by simpa [at?] using hs
      obtain rfl : i = 0 := by omega
      rfl
    | cons j q =>
      obtain ⟨c, hc, -⟩ := at?_cons_eq_some hs
      simp [hleaf] at hc
  have hx : Language.python.profile.nodeName [120, 61, 49] n.tree = "x" := by
    obtain rfl := Option.some.inj hn
    decide
  have hnames := ((names_and_values_come_from_below .python n).2 _ _ hsame).1
  exact ⟨n, hn, hsame, hx, hnames ▸ hx⟩

end Place
end Canopy
