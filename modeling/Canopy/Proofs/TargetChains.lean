import Canopy.Proofs.Provenance
import Mathlib.Data.Nat.Find

namespace Canopy.Tree

/-- The first of the trees that have a property. -/
def IsFirst (P : Tree → Prop) (ts : List Tree) (c : Tree) : Prop :=
  P c ∧ ∃ before after, ts = before ++ c :: after ∧ ∀ b ∈ before, ¬ P b

def HasField (field : String) (t : Tree) : Prop := t.label.field = some field

def EndsInDeclarator (t : Tree) : Prop := "declarator".toList <:+ t.type.toList

/-- An identifier or the name of a member. -/
def IsName (identifiers : List String) (t : Tree) : Prop :=
  t.type ∈ identifiers ∨ t.type ∈ propertyTypes

/-- No child of a node stands under one of the fields. -/
def Lacks (fields : List String) (t : Tree) : Prop :=
  ∀ field ∈ fields, ∀ b ∈ t.children, ¬ b.HasField field

/-- What a node binds, or where to look for it next. -/
inductive Target (identifiers : List String) (t : Tree) : Tree → Prop where
  /-- The fields are tried in order. -/
  | field {earlier later : List String} {field : String} {c : Tree}
    (order : targetFields = earlier ++ field :: later) (none_earlier : t.Lacks earlier)
    (first : IsFirst (HasField field) t.children c) : Target identifiers t c
  | declarator {c : Tree} (no_field : t.Lacks targetFields)
    (first : IsFirst EndsInDeclarator t.namedChildren c) : Target identifiers t c
  | name {c : Tree} (no_field : t.Lacks targetFields)
    (no_declarator : ∀ b ∈ t.namedChildren, ¬ b.EndsInDeclarator) (inside : t.EndsInDeclarator)
    (first : IsFirst (IsName identifiers) t.namedChildren c) : Target identifiers t c

/-- The `k`-th node of the chain of targets from `t` on. The chain has no bound of its own. -/
inductive Chain (identifiers : List String) (t : Tree) : Nat → Tree → Prop where
  | start : Chain identifiers t 0 t
  | next {k : Nat} {c d : Tree} (h : Chain identifiers t k c) (target : Target identifiers c d) :
    Chain identifiers t (k + 1) d

/-- The chain is over at a node without a target, and at a name unless it starts there. -/
def Halts (identifiers : List String) (k : Nat) (c : Tree) : Prop :=
  (∀ d, ¬ Target identifiers c d) ∨ 1 ≤ k ∧ c.IsName identifiers

/-- The first node of the chain at which it is over. -/
structure ChainEnd (identifiers : List String) (t : Tree) (k : Nat) (c : Tree) : Prop where
  reached : Chain identifiers t k c
  halts : Halts identifiers k c
  first : ∀ j d, j < k → Chain identifiers t j d → ¬ Halts identifiers j d

section Lookups

variable {t c : Tree} {identifiers : List String}

theorem find?_eq_some_iff_isFirst {f : Tree → Bool} {P : Tree → Prop} {ts : List Tree}
    (hf : ∀ u, f u = true ↔ P u) : ts.find? f = some c ↔ IsFirst P ts c := by
  rw [List.find?_eq_some_iff_append, IsFirst]
  simp only [Bool.not_eq_true', ← Bool.not_eq_true, hf]

theorem isDeclarator_iff (u : Tree) : u.isDeclarator = true ↔ u.EndsInDeclarator := by
  rw [isDeclarator, Text.endsWith, List.isSuffixOf_iff_suffix, EndsInDeclarator]

theorem contains_names_iff (u : Tree) :
    (identifiers ++ propertyTypes).contains u.type = true ↔ u.IsName identifiers := by
  rw [List.contains_iff_mem, List.mem_append, IsName]

theorem childByField?_eq_some {field : String} :
    t.childByField? field = some c ↔ IsFirst (HasField field) t.children c :=
  find?_eq_some_iff_isFirst fun u => by rw [decide_eq_true_eq, HasField]

theorem childByField?_eq_none {field : String} :
    t.childByField? field = none ↔ ∀ b ∈ t.children, ¬ b.HasField field := by
  rw [childByField?, List.find?_eq_none]
  simp only [decide_eq_true_eq, HasField]

theorem fieldTarget?_eq_none : t.fieldTarget? = none ↔ t.Lacks targetFields := by
  rw [fieldTarget?, List.findSome?_eq_none_iff, Lacks]
  simp only [childByField?_eq_none]

theorem fieldTarget?_eq_some :
    t.fieldTarget? = some c ↔ ∃ earlier field later, targetFields = earlier ++ field :: later ∧
      IsFirst (HasField field) t.children c ∧ t.Lacks earlier := by
  rw [fieldTarget?, List.findSome?_eq_some_iff]
  simp only [childByField?_eq_some, childByField?_eq_none, Lacks]

theorem declarator?_eq_some :
    t.namedChildren.find? isDeclarator = some c ↔ IsFirst EndsInDeclarator t.namedChildren c :=
  find?_eq_some_iff_isFirst isDeclarator_iff

theorem declarator?_eq_none :
    t.namedChildren.find? isDeclarator = none ↔ ∀ b ∈ t.namedChildren, ¬ b.EndsInDeclarator := by
  rw [List.find?_eq_none]
  simp only [isDeclarator_iff]

theorem name?_eq_some :
    t.namedChildren.find? (fun b => (identifiers ++ propertyTypes).contains b.type) = some c ↔
      IsFirst (IsName identifiers) t.namedChildren c :=
  find?_eq_some_iff_isFirst contains_names_iff

theorem Target.nextTarget?_eq (h : Target identifiers t c) :
    t.nextTarget? (identifiers ++ propertyTypes) = some c := by
  unfold nextTarget?
  cases h with
  | field order none_earlier first =>
    rw [fieldTarget?_eq_some.mpr ⟨_, _, _, order, first, none_earlier⟩]
  | declarator no_field first =>
    simp only [fieldTarget?_eq_none.mpr no_field, declarator?_eq_some.mpr first]
  | name no_field no_declarator inside first =>
    simp only [fieldTarget?_eq_none.mpr no_field, declarator?_eq_none.mpr no_declarator]
    rw [if_pos ((isDeclarator_iff t).mpr inside), name?_eq_some.mpr first]

theorem target_of_nextTarget? (h : t.nextTarget? (identifiers ++ propertyTypes) = some c) :
    Target identifiers t c := by
  unfold nextTarget? at h
  cases hfield : t.fieldTarget? with
  | some d =>
    have hd : d = c := by simpa [hfield] using h
    obtain ⟨earlier, field, later, horder, hfirst, hnone⟩ := fieldTarget?_eq_some.mp hfield
    exact hd ▸ .field horder hnone hfirst
  | none =>
    have hlacks := fieldTarget?_eq_none.mp hfield
    cases hdeclarator : t.namedChildren.find? isDeclarator with
    | some d =>
      have hd : d = c := by simpa [hfield, hdeclarator] using h
      exact hd ▸ .declarator hlacks (declarator?_eq_some.mp hdeclarator)
    | none =>
      simp only [hfield, hdeclarator] at h
      split_ifs at h with hinside
      exact .name hlacks (declarator?_eq_none.mp hdeclarator) ((isDeclarator_iff t).mp hinside)
        (name?_eq_some.mp h)

/-- The look-ups, one after the other, find the target and nothing else. -/
theorem target_iff :
    Target identifiers t c ↔ t.nextTarget? (identifiers ++ propertyTypes) = some c :=
  ⟨Target.nextTarget?_eq, target_of_nextTarget?⟩

end Lookups

section Chains

variable {t c d : Tree} {identifiers : List String} {k : Nat}

theorem Chain.unique (hc : Chain identifiers t k c) (hd : Chain identifiers t k d) : c = d := by
  induction k generalizing c d with
  | zero =>
    cases hc
    cases hd
    rfl
  | succ k ih =>
    cases hc with
    | next hc target =>
      cases hd with
      | next hd target' =>
        rw [ih hc hd, target_iff] at target
        rw [target_iff, target] at target'
        exact Option.some.inj target'

/-- A chain goes down the tree, so it cannot be longer than the tree has nodes. -/
theorem Chain.size_add_le (h : Chain identifiers t k c) : c.size + k ≤ t.size := by
  induction h with
  | start => exact Nat.le_refl _
  | next _ target ih =>
    have hchild := size_lt_of_mem_children (mem_of_nextTarget? target.nextTarget?_eq)
    omega

theorem exists_halts (identifiers : List String) (t : Tree) :
    ∃ k c, Chain identifiers t k c ∧ Halts identifiers k c := by
  by_contra hnone
  have hlong : ∀ k, ∃ c, Chain identifiers t k c := by
    intro k
    induction k with
    | zero => exact ⟨t, .start⟩
    | succ k ih =>
      obtain ⟨c, hc⟩ := ih
      have hgoes : ∃ d, Target identifiers c d := by
        by_contra hstop
        exact hnone ⟨k, c, hc, .inl (not_exists.mp hstop)⟩
      obtain ⟨d, hd⟩ := hgoes
      exact ⟨d, hc.next hd⟩
  obtain ⟨c, hc⟩ := hlong (t.size + 1)
  have := hc.size_add_le
  omega

theorem exists_chainEnd (identifiers : List String) (t : Tree) :
    ∃ k c, ChainEnd identifiers t k c := by
  classical
  have hhalts := exists_halts identifiers t
  obtain ⟨c, hc, hhalt⟩ := Nat.find_spec hhalts
  refine ⟨Nat.find hhalts, c, hc, hhalt, ?_⟩
  intro j d hj hd hhalt'
  exact Nat.find_min hhalts hj ⟨d, hd, hhalt'⟩

theorem followTarget_of_halts (source : Bytes) (fuel : Nat) (h : Halts identifiers k c) :
    followTarget source (identifiers ++ propertyTypes) (fuel + 1) c = c.text source := by
  rw [followTarget]
  rcases h with hlast | ⟨-, hname⟩
  · have hnone : c.nextTarget? (identifiers ++ propertyTypes) = none := by
      rw [Option.eq_none_iff_forall_ne_some]
      intro d hd
      exact hlast d (target_of_nextTarget? hd)
    rw [hnone]
    split_ifs <;> rfl
  · rw [if_pos ((contains_names_iff c).mpr hname)]

theorem followTarget_of_target (source : Bytes) (fuel : Nat) (hname : ¬ c.IsName identifiers)
    (h : Target identifiers c d) :
    followTarget source (identifiers ++ propertyTypes) (fuel + 1) c =
      followTarget source (identifiers ++ propertyTypes) fuel d := by
  rw [followTarget, if_neg fun hc => hname ((contains_names_iff c).mp hc), h.nextTarget?_eq]

/-- From its `j`-th node on the chain is followed to its end, if the fuel lasts so long. -/
theorem ChainEnd.followTarget_eq (source : Bytes) (h : ChainEnd identifiers t k c) (fuel : Nat)
    {j : Nat} (hj : 1 ≤ j) (hjk : j ≤ k) (hd : Chain identifiers t j d) :
    followTarget source (identifiers ++ propertyTypes) fuel d =
      if k - j < fuel then c.text source else "" := by
  induction fuel generalizing j d with
  | zero => rw [followTarget, if_neg (Nat.not_lt_zero _)]
  | succ fuel ih =>
    rcases Nat.eq_or_lt_of_le hjk with rfl | hlt
    · rw [hd.unique h.reached, followTarget_of_halts source fuel h.halts, if_pos (by omega)]
    · -- before the end there is a target, and the node itself is no name
      have hgoes := h.first j d hlt hd
      rw [Halts, not_or, not_forall] at hgoes
      obtain ⟨⟨e, he⟩, hname⟩ := hgoes
      have htarget : Target identifiers d e := not_not.mp he
      have hnext := ih (Nat.le_succ_of_le hj) hlt (hd.next htarget)
      rw [followTarget_of_target source fuel (fun hd' => hname ⟨hj, hd'⟩) htarget, hnext]
      simp only [show k - (j + 1) < fuel ↔ k - j < fuel + 1 by omega]

/-- A chain is over at its start exactly if that has no target: there a name is no end. -/
theorem ChainEnd.pos_iff (h : ChainEnd identifiers t k c) :
    1 ≤ k ↔ ∃ d, Target identifiers t d := by
  constructor
  · intro hk
    by_contra hnone
    exact h.first 0 t hk .start (.inl (not_exists.mp hnone))
  · intro hsome
    by_contra hk
    obtain rfl : k = 0 := by omega
    obtain rfl : t = c := Chain.unique .start h.reached
    rcases h.halts with hlast | hname
    · exact not_exists.mpr hlast hsome
    · exact hk hname.1

end Chains

/-- The name that an assignment or a declaration binds is the text at the end of the chain of
targets, and nothing where the chain does not get away from its start or has its end more than
fifteen targets away. -/
theorem assignmentTargetText_cuts_chain (source : Bytes) (identifiers : List String) (t : Tree) :
    (∃ k c, ChainEnd identifiers t k c) ∧
      ∀ k c, ChainEnd identifiers t k c →
        t.assignmentTargetText source identifiers =
          if 1 ≤ k ∧ k ≤ 15 then c.text source else "" := by
  refine ⟨exists_chainEnd identifiers t, ?_⟩
  intro k c h
  have hpos := h.pos_iff
  simp only [target_iff] at hpos
  unfold assignmentTargetText
  dsimp only
  cases hnext : t.nextTarget? (identifiers ++ propertyTypes) with
  | none =>
    have hk : ¬ (1 ≤ k ∧ k ≤ 15) := fun hk => by simpa [hnext] using hpos.mp hk.1
    rw [if_neg hk]
  | some d =>
    have hk : 1 ≤ k := hpos.mpr ⟨d, hnext⟩
    have hfirst : Chain identifiers t 1 d := Chain.start.next (target_of_nextTarget? hnext)
    have hfuel : k - 1 < chainBound - 1 ↔ 1 ≤ k ∧ k ≤ 15 := by
      rw [chainBound]
      omega
    dsimp only
    rw [h.followTarget_eq source _ (Nat.le_refl 1) hk hfirst]
    simp only [hfuel]

section Pointers

/-- A name behind `n` pointers. -/
def behindPointers : Nat → Tree
  | 0 => .node ⟨"identifier", true, some "declarator", 0, 1, ⟨0, 0⟩, ⟨0, 1⟩⟩ []
  | n + 1 =>
    .node ⟨"pointer_declarator", true, some "declarator", 0, 1, ⟨0, 0⟩, ⟨0, 1⟩⟩
      [.node ⟨"*", false, none, 0, 0, ⟨0, 0⟩, ⟨0, 0⟩⟩ [], behindPointers n]

def pointerDeclaration (n : Nat) : Tree :=
  .node ⟨"declaration", true, none, 0, 1, ⟨0, 0⟩, ⟨0, 1⟩⟩ [behindPointers n]

theorem target_behindPointers (n : Nat) :
    Target ["identifier"] (behindPointers (n + 1)) (behindPointers n) :=
  target_of_nextTarget? (by cases n <;> rfl)

theorem target_pointerDeclaration (n : Nat) :
    Target ["identifier"] (pointerDeclaration n) (behindPointers n) :=
  target_of_nextTarget? (by cases n <;> rfl)

theorem chain_pointerDeclaration {m n : Nat} (h : m ≤ n) :
    Chain ["identifier"] (pointerDeclaration n) (m + 1) (behindPointers (n - m)) := by
  induction m with
  | zero => exact Chain.start.next (target_pointerDeclaration n)
  | succ m ih =>
    have hstep := target_behindPointers (n - (m + 1))
    rw [show n - (m + 1) + 1 = n - m by omega] at hstep
    exact (ih (by omega)).next hstep

theorem chainEnd_pointerDeclaration (n : Nat) :
    ChainEnd ["identifier"] (pointerDeclaration n) (n + 1) (behindPointers 0) := by
  have hend := chain_pointerDeclaration (Nat.le_refl n)
  rw [Nat.sub_self] at hend
  refine ⟨hend, .inr ⟨Nat.le_add_left 1 n, .inl (by decide)⟩, ?_⟩
  intro j d hj hd hhalts
  cases j with
  | zero =>
    cases hd
    rcases hhalts with hlast | ⟨hpos, -⟩
    · exact hlast _ (target_pointerDeclaration n)
    · omega
  | succ m =>
    -- one of the pointers, which is neither the last node nor a name
    obtain ⟨r, hr⟩ : ∃ r, n - m = r + 1 := ⟨n - m - 1, by omega⟩
    have hpointer := chain_pointerDeclaration (show m ≤ n by omega)
    rw [hr] at hpointer
    obtain rfl := hpointer.unique hd
    rcases hhalts with hlast | ⟨-, hname⟩
    · exact hlast _ (target_behindPointers r)
    · exact absurd hname (by simp [IsName, behindPointers, type, label, propertyTypes])

/-- Fourteen pointers are looked through, and fifteen are not. -/
theorem assignmentTargetText_cuts_chain_pointers :
    ChainEnd ["identifier"] (pointerDeclaration 14) 15 (behindPointers 0) ∧
      (pointerDeclaration 14).assignmentTargetText [120] ["identifier"] = "x" ∧
      ChainEnd ["identifier"] (pointerDeclaration 15) 16 (behindPointers 0) ∧
      (pointerDeclaration 15).assignmentTargetText [120] ["identifier"] = "" := by
  have hnamed := chainEnd_pointerDeclaration 14
  have hunnamed := chainEnd_pointerDeclaration 15
  have htext : (behindPointers 0).text [120] = "x" := by decide
  refine ⟨hnamed, ?_, hunnamed, ?_⟩
  · rw [(assignmentTargetText_cuts_chain [120] ["identifier"] _).2 _ _ hnamed]
    exact htext
  · rw [(assignmentTargetText_cuts_chain [120] ["identifier"] _).2 _ _ hunnamed]
    rfl

end Pointers
end Canopy.Tree
