import Canopy.Proofs.ClassMembers
import Canopy.Proofs.Trimming
import Mathlib.Data.List.Chain

namespace Canopy.Language.Cpp

def specifiers (ts : List Tree) : List Tree := ts.filter fun t => t.type = "access_specifier"

/-- Children in document order that do not overlap, with access specifiers of some length. -/
structure Orderly (cs : List Tree) : Prop where
  start_le_end : ∀ c ∈ cs, c.startByte ≤ c.endByte
  end_le_start : cs.IsChain fun c d => c.endByte ≤ d.startByte
  specifier_nonempty : ∀ c ∈ cs, c.type = "access_specifier" → c.startByte < c.endByte

/-- There is nothing in a text but a word, blanks around it, and colons at the very end. -/
def Says (text word : String) : Prop :=
  ∃ before after colons, text.toList = before ++ word.toList ++ after ++ colons ∧
    (∀ c ∈ before, Text.isBlank c = true) ∧ (∀ c ∈ after, Text.isBlank c = true) ∧
    ∀ c ∈ colons, c = ':'

/-- The rule by position: the last specifier before the `i`-th child of a body decides, and without
one whether the body is that of a class. -/
def PublicAt (source : Bytes) (body : Place) (i : Nat) : Prop :=
  match (specifiers (body.tree.children.take i)).getLast? with
  | some specifier => Says (specifier.text source) "public"
  | none => body.parent?.map Place.type ≠ some "class_specifier"

/-- The access after all of a list has been read. -/
def accessAfter (source : Bytes) (access : String) (ts : List Tree) : String :=
  match (specifiers ts).getLast? with
  | some specifier => accessText source specifier
  | none => access

theorem accessAfter_specifier (source : Bytes) (access : String) {t : Tree} (ts : List Tree)
    (h : t.type = "access_specifier") :
    accessAfter source access (t :: ts) = accessAfter source (accessText source t) ts := by
  unfold accessAfter specifiers
  rw [List.filter_cons_of_pos (by simpa using h), List.getLast?_cons]
  cases (ts.filter fun t => t.type = "access_specifier").getLast? with
  | none => rfl
  | some specifier => rfl

theorem accessAfter_other (source : Bytes) (access : String) {t : Tree} (ts : List Tree)
    (h : t.type ≠ "access_specifier") :
    accessAfter source access (t :: ts) = accessAfter source access ts := by
  unfold accessAfter specifiers
  rw [List.filter_cons_of_neg (by simpa using h)]

theorem accessAfter_of_no_specifier (source : Bytes) (access : String) {ts : List Tree}
    (h : ∀ t ∈ ts, t.type ≠ "access_specifier") : accessAfter source access ts = access := by
  have hnone : specifiers ts = [] := by
    rw [specifiers, List.filter_eq_nil_iff]
    simpa using h
  rw [accessAfter, hnone]
  rfl

/-- The scan by offsets reads all specifiers before the member. It may stop short of the member, but
then at a child without a length that starts where the member does, and no specifier comes after
such a child: all starts from there on are the member's at least, and specifiers start earlier. -/
theorem accessBefore_eq_accessAfter (source : Bytes) (access : String) {before : List Tree}
    {m : Tree} (after : List Tree)
    (hsorted : before.Pairwise fun c d => c.startByte ≤ d.startByte)
    (hearlier : ∀ c ∈ before, c.type = "access_specifier" → c.startByte < m.startByte) :
    accessBefore source m.startByte access (before ++ m :: after) =
      accessAfter source access before := by
  induction before generalizing access with
  | nil =>
    rw [List.nil_append, accessBefore, if_pos (Nat.le_refl _),
      accessAfter_of_no_specifier source access (by simp)]
  | cons c before ih =>
    obtain ⟨hfirst, hrest⟩ := List.pairwise_cons.mp hsorted
    have hlater : ∀ d ∈ before, d.type = "access_specifier" → d.startByte < m.startByte :=
      fun d hd => hearlier d (List.mem_cons_of_mem c hd)
    rw [List.cons_append, accessBefore]
    by_cases hstop : c.startByte ≥ m.startByte
    · rw [if_pos hstop, accessAfter_of_no_specifier]
      intro d hd hspecifier
      have hstart : c.startByte ≤ d.startByte := by
        rcases List.mem_cons.mp hd with rfl | hmem
        · exact Nat.le_refl _
        · exact hfirst d hmem
      have hlt := hearlier d hd hspecifier
      omega
    · rw [if_neg hstop]
      by_cases hspecifier : c.type = "access_specifier"
      · rw [if_pos hspecifier, ih _ hrest hlater, accessAfter_specifier source access _ hspecifier]
      · rw [if_neg hspecifier, ih _ hrest hlater, accessAfter_other source access _ hspecifier]

/-- What holds of neighbours holds of any two children. -/
theorem Orderly.pairwise {cs : List Tree} (h : Orderly cs) :
    cs.Pairwise fun c d => c.startByte ≤ c.endByte ∧ c.endByte ≤ d.startByte := by
  let R : Tree → Tree → Prop := fun c d => c.startByte ≤ c.endByte ∧ c.endByte ≤ d.startByte
  have : Trans R R R := ⟨fun hcd hde => by dsimp only [R] at hcd hde ⊢; omega⟩
  change cs.Pairwise R
  rw [← List.isChain_iff_pairwise]
  apply h.end_le_start.imp_of_mem_imp
  intro c d hc _ hcd
  exact ⟨h.start_le_end c hc, hcd⟩

/-- In an orderly body the scan by offsets finds the specifiers that stand before a child. -/
theorem Orderly.accessBefore_eq {cs : List Tree} (h : Orderly cs) (source : Bytes)
    (access : String) {i : Nat} {m : Tree} (hm : cs[i]? = some m) :
    accessBefore source m.startByte access cs = accessAfter source access (cs.take i) := by
  have hsplit := (Tree.split_at_child hm).2
  have hpairs := h.pairwise
  rw [hsplit] at hpairs
  obtain ⟨hbefore, -, hacross⟩ := List.pairwise_append.mp hpairs
  have hsorted : (cs.take i).Pairwise fun c d => c.startByte ≤ d.startByte := by
    apply hbefore.imp
    intro c d hcd
    omega
  have hearlier : ∀ c ∈ cs.take i, c.type = "access_specifier" → c.startByte < m.startByte := by
    intro c hc hspecifier
    have hlength := h.specifier_nonempty c (List.mem_of_mem_take hc) hspecifier
    have hend := (hacross c hc m List.mem_cons_self).2
    omega
  conv_lhs => rw [hsplit]
  exact accessBefore_eq_accessAfter source access _ hsorted hearlier

theorem defaultAccess_eq_public (owner : String) :
    defaultAccess owner = "public" ↔ owner ≠ "class_specifier" := by
  unfold defaultAccess
  split_ifs with hclass
  · simp [hclass]
  · simp [hclass]

/-- The colons are taken off first, so none may be left between the word and a blank. -/
theorem accessText_eq_iff (source : Bytes) (t : Tree) {word : String}
    (hfirst : ∃ c, word.toList.head? = some c ∧ Text.isBlank c = false)
    (hlast : ∃ c, word.toList.getLast? = some c ∧ Text.isBlank c = false ∧ c ≠ ':') :
    accessText source t = word ↔ Says (t.text source) word := by
  have htext : accessText source t = word ↔
      Text.dropEndWhile Text.isBlank ((Text.dropEndWhile (· = ':')
        (t.text source).toList).dropWhile Text.isBlank) = word.toList := by
    rw [accessText, Text.trim, Text.trimWith, String.toList_ofList, ← String.toList_inj,
      String.toList_ofList]
  have hvisible : ∃ c, word.toList.getLast? = some c ∧ Text.isBlank c = false := by
    obtain ⟨c, hc, hblank, -⟩ := hlast
    exact ⟨c, hc, hblank⟩
  rw [htext, Text.dropEndWhile_dropWhile_eq_iff hfirst hvisible]
  constructor
  · rintro ⟨before, after, hword, hbefore, hafter⟩
    obtain ⟨colons, hsplit, hcolons⟩ :=
      Text.exists_dropEndWhile_append (· = ':') (t.text source).toList
    rw [hword] at hsplit
    exact ⟨before, after, colons, hsplit, hbefore, hafter, by simpa using hcolons⟩
  · rintro ⟨before, after, colons, hsplit, hbefore, hafter, hcolons⟩
    refine ⟨before, after, ?_, hbefore, hafter⟩
    rw [hsplit]
    apply Text.dropEndWhile_append (by simpa using hcolons)
    -- what stands before the colons ends in a blank or in the word
    rcases List.eq_nil_or_concat after with rfl | ⟨front, d, rfl⟩
    · obtain ⟨c, hc, -, hcolon⟩ := hlast
      exact ⟨c, by rw [List.append_nil, List.getLast?_append, hc, Option.some_or],
        decide_eq_false hcolon⟩
    · refine ⟨d, by simp, decide_eq_false ?_⟩
      rintro rfl
      exact absurd (hafter ':' (by simp)) (by decide)

theorem accessText_eq_public (source : Bytes) (t : Tree) :
    accessText source t = "public" ↔ Says (t.text source) "public" :=
  accessText_eq_iff source t ⟨'p', rfl, by decide⟩ ⟨'c', rfl, by decide, by decide⟩

theorem accessAfter_eq_public (source : Bytes) (body : Place) (i : Nat) :
    accessAfter source (defaultAccess ((body.ancestors.head?.map Tree.type).getD ""))
      (body.tree.children.take i) = "public" ↔ PublicAt source body i := by
  unfold accessAfter PublicAt
  cases (specifiers (body.tree.children.take i)).getLast? with
  | some specifier => exact accessText_eq_public source specifier
  | none =>
    rw [defaultAccess_eq_public]
    cases hup : body.ancestors with
    | nil => simp [Place.parent?, hup]
    | cons owner further => simp [Place.parent?, hup, Place.type]

theorem isPublic_eq_static {p : Place} (source : Bytes) (h : classMember? p = none) :
    Language.cpp.profile.isPublic source p = Language.c.profile.isPublic source p := by
  change isVisible source p = !C.isStatic source p
  rw [isVisible, h]

theorem isPublic_of_classMember? {p m body : Place} (source : Bytes) (h : classMember? p = some m)
    (hbody : m.parent? = some body) :
    Language.cpp.profile.isPublic source p = true ↔
      accessBefore source m.tree.startByte
        (defaultAccess ((body.ancestors.head?.map Tree.type).getD "")) body.tree.children =
        "public" := by
  change isVisible source p = true ↔ _
  rw [Place.parent?_eq_some] at hbody
  unfold isVisible
  simp only [h, hbody, decide_eq_true_eq]

/-- The member that holds a node stands at its address or one step above it, and never at the
top. -/
theorem exists_address_of_classMember? {t : Tree} {q : Address} {p m : Place}
    (h : t.top.at? q = some p) (hm : classMember? p = some m) :
    ∃ r i, r ++ [i] <+: q ∧ t.top.at? (r ++ [i]) = some m := by
  obtain ⟨hbody, hholds⟩ := classMember?_eq_some.mp hm
  obtain ⟨up, hprefix, hat⟩ : ∃ up, up <+: q ∧ t.top.at? up = some m := by
    rcases hholds with rfl | ⟨hup, -⟩
    · exact ⟨q, List.prefix_rfl, h⟩
    · obtain ⟨up, i, rfl, hat⟩ := Tree.exists_concat_of_parent? h hup
      exact ⟨up, List.prefix_append up [i], hat⟩
  obtain ⟨body, hparent, -⟩ := inBody_iff.mp hbody
  obtain ⟨r, i, rfl, -⟩ := Tree.exists_concat_of_parent? hat hparent
  exact ⟨r, i, hprefix, hat⟩

/-- Members of an orderly class body have the access of the last specifier that stands before them,
or else that of the kind of class, though the specifiers are looked for by offsets and the look-up
may end before it comes to the member. All that is no member goes by the static rule. -/
theorem isPublic_by_position (source : Bytes) {t : Tree} {q : Address} {p : Place}
    (h : t.top.at? q = some p) :
    (classMember? p = none →
      Language.cpp.profile.isPublic source p = Language.c.profile.isPublic source p) ∧
    ∀ m, classMember? p = some m →
      (∃ r i, r ++ [i] <+: q ∧ t.top.at? (r ++ [i]) = some m) ∧
      ∀ r i body, t.top.at? (r ++ [i]) = some m → t.top.at? r = some body →
        body.type = classBody ∧
        (Orderly body.tree.children →
          (Language.cpp.profile.isPublic source p = true ↔ PublicAt source body i)) := by
  refine ⟨isPublic_eq_static source, ?_⟩
  intro m hm
  refine ⟨exists_address_of_classMember? h hm, ?_⟩
  intro r i body hat hr
  have hparent : m.parent? = some body := (Place.at?_concat_parent? hat).symm.trans hr
  obtain ⟨body', hparent', htype⟩ := inBody_iff.mp (classMember?_eq_some.mp hm).1
  obtain rfl : body = body' := Option.some.inj (hparent.symm.trans hparent')
  refine ⟨htype, ?_⟩
  intro horderly
  have hchild : body.tree.children[i]? = some m.tree := Place.children_of_at?_concat hr hat
  rw [isPublic_of_classMember? source hm hparent, horderly.accessBefore_eq source _ hchild,
    accessAfter_eq_public]

def accessSource : Bytes := Utf8.encode "public:x private :y"

def specifierOf (start stop : Nat) : Tree :=
  .node ⟨"access_specifier", true, none, start, stop, ⟨0, start⟩, ⟨0, stop⟩⟩ []

/-- A class with a specifier before each member. A child without a length stands between the first
specifier and its member. -/
def accessClass : Tree :=
  .node ⟨"class_specifier", true, none, 0, 19, ⟨0, 0⟩, ⟨0, 19⟩⟩
    [.node ⟨classBody, true, some "body", 0, 19, ⟨0, 0⟩, ⟨0, 19⟩⟩
      [specifierOf 0 7,
        .node ⟨"comment", true, none, 7, 7, ⟨0, 7⟩, ⟨0, 7⟩⟩ [],
        .node ⟨"template_declaration", true, none, 7, 8, ⟨0, 7⟩, ⟨0, 8⟩⟩
          [.node ⟨"function_definition", true, none, 7, 8, ⟨0, 7⟩, ⟨0, 8⟩⟩ []],
        specifierOf 9 18,
        .node ⟨"field_declaration", true, none, 18, 19, ⟨0, 18⟩, ⟨0, 19⟩⟩ []]]

/-- The look-up ends at the child without a length for the first member, which is public, and goes on
to the other specifier for the second one, which is not. -/
theorem isPublic_by_position_template :
    ∃ p m q body, accessClass.top.at? [0, 2, 0] = some p ∧ classMember? p = some m ∧
      accessClass.top.at? [0, 4] = some q ∧ classMember? q = some q ∧
      accessClass.top.at? [0] = some body ∧ Orderly body.tree.children ∧
      Language.cpp.profile.isPublic accessSource p = true ∧
      Language.cpp.profile.isPublic accessSource q = false := by
  obtain ⟨body, hbody, horderly⟩ : ∃ body, accessClass.top.at? [0] = some body ∧
      Orderly body.tree.children := ⟨_, rfl, by decide, by decide, by decide⟩
  obtain ⟨-, hfirst⟩ := isPublic_by_position accessSource (t := accessClass) (q := [0, 2, 0]) rfl
  obtain ⟨-, hsecond⟩ := isPublic_by_position accessSource (t := accessClass) (q := [0, 4]) rfl
  have hpublic := ((hfirst _ rfl).2 [0] 2 body rfl hbody).2 horderly
  have hprivate := ((hsecond _ rfl).2 [0] 4 body rfl hbody).2 horderly
  refine ⟨_, _, _, body, rfl, rfl, rfl, rfl, hbody, horderly, hpublic.mpr ?_,
    Bool.eq_false_of_not_eq_true (hprivate.not.mpr ?_)⟩
  · obtain rfl := Option.some.inj hbody
    change Says ((specifierOf 0 7).text accessSource) "public"
    have htext : ((specifierOf 0 7).text accessSource).toList = "public".toList ++ [':'] := by decide
    exact ⟨[], [], [':'], by simpa using htext, by simp, by simp, by simp⟩
  · obtain rfl := Option.some.inj hbody
    change ¬ Says ((specifierOf 9 18).text accessSource) "public"
    have hletter : 'u' ∉ ((specifierOf 9 18).text accessSource).toList := by decide
    rintro ⟨before, after, colons, htext, -⟩
    rw [htext] at hletter
    simp at hletter

end Canopy.Language.Cpp
