import Canopy.Proofs.Dict
import Canopy.Proofs.Flatten
import Canopy.Proofs.Utf8

namespace Canopy

/-- The octets from one position up to another. -/
def Bytes.slice (source : Bytes) (start stop : Nat) : Bytes :=
  (source.drop start).take (stop - start)

namespace Utf8

/-- Octets that some text is written with. -/
def WellFormed (octets : Bytes) : Prop := ∃ text, encode text = octets

theorem decodeFrom_encode_append (bad : List Char) (cs : List Char) (rest : Bytes) :
    decodeFrom bad none (cs.flatMap encodeChar ++ rest) = cs ++ decodeFrom bad none rest := by
  induction cs with
  | nil => rfl
  | cons c cs ih =>
    rw [List.flatMap_cons, List.append_assoc, decodeFrom_encodeChar, ih, List.cons_append]

/-- A text is read back as it was written, whatever stands behind it. -/
theorem decodeLossy_encode_append (text : String) (rest : Bytes) :
    decodeLossy (encode text ++ rest) = text ++ decodeLossy rest := by
  rw [decodeLossy, encode, decodeFrom_encode_append, String.ofList_append, String.ofList_toList]
  rfl

theorem decodeLossy_encode (text : String) : decodeLossy (encode text) = text := by
  have h := decodeLossy_encode_append text []
  rwa [List.append_nil, show decodeLossy [] = "" from rfl, String.append_empty] at h

theorem WellFormed.encode_decodeLossy {octets : Bytes} (h : WellFormed octets) :
    encode (decodeLossy octets) = octets := by
  obtain ⟨text, rfl⟩ := h
  rw [decodeLossy_encode]

theorem WellFormed.decodeLossy_append {octets : Bytes} (h : WellFormed octets) (rest : Bytes) :
    decodeLossy (octets ++ rest) = decodeLossy octets ++ decodeLossy rest := by
  obtain ⟨text, rfl⟩ := h
  rw [decodeLossy_encode_append, decodeLossy_encode]

/-- A character that was begun leaves a trace, be it completed, broken off or cut short. -/
theorem decodeFrom_some_ne_nil {bad : List Char} (hbad : bad ≠ []) (s : Begun) (octets : Bytes) :
    decodeFrom bad (some s) octets ≠ [] := by
  induction octets generalizing s with
  | nil => exact hbad
  | cons b rest ih =>
    rw [decodeFrom, step]
    cases s.next b with
    | whole c => simp
    | begun s' => simpa using ih s'
    | refused => cases lead b <;> simp [hbad]

theorem decodeFrom_none_eq_nil {bad : List Char} (hbad : bad ≠ []) {octets : Bytes} :
    decodeFrom bad none octets = [] ↔ octets = [] := by
  cases octets with
  | nil => simp [decodeFrom]
  | cons b rest =>
    rw [decodeFrom_none_cons]
    cases lead b with
    | refused => simp [resume, hbad]
    | whole c => simp [resume]
    | begun s => simpa [resume] using decodeFrom_some_ne_nil hbad s rest

theorem decodeLossy_eq_empty {octets : Bytes} : decodeLossy octets = "" ↔ octets = [] := by
  rw [decodeLossy, ← decodeFrom_none_eq_nil (List.cons_ne_nil _ []), ← String.toList_inj,
    String.toList_ofList]
  rfl

end Utf8

namespace Bytes

variable {source : Bytes} {a b c : Nat}

theorem slice_eq_nil (hab : a ≤ b) (hb : b ≤ source.length) : slice source a b = [] ↔ a = b := by
  rw [← List.length_eq_zero_iff, slice, List.length_take, List.length_drop]
  omega

theorem slice_append (hab : a ≤ b) (hbc : b ≤ c) :
    slice source a b ++ slice source b c = slice source a c := by
  have hlength : c - a = (b - a) + (c - b) := by omega
  have hdrop : (source.drop a).drop (b - a) = source.drop b := by
    rw [List.drop_drop, Nat.add_sub_cancel' hab]
  rw [slice, slice, slice, hlength, List.take_add, hdrop]

end Bytes

namespace Tree

/-- The node has exactly this range. -/
def Covers (t : Tree) (start stop : Nat) : Prop := t.startByte = start ∧ t.endByte = stop

variable {source : Bytes} {t : Tree} {a b c : Nat}

theorem Covers.text_eq (h : t.Covers a b) (hab : a ≤ b) (hb : b ≤ source.length) :
    t.text source = Utf8.decodeLossy (Bytes.slice source a b) := by
  obtain ⟨rfl, rfl⟩ := h
  rw [text, if_neg (by omega)]
  rfl

theorem Covers.text_eq_empty (h : t.Covers a b) (hab : a ≤ b) (hb : b ≤ source.length) :
    t.text source = "" ↔ a = b := by
  rw [h.text_eq hab hb, Utf8.decodeLossy_eq_empty, Bytes.slice_eq_nil hab hb]

/-- Texts of ranges that meet are joined, if the first breaks off no character. -/
theorem Covers.text_append {whole left right : Tree} (hwhole : whole.Covers a c)
    (hleft : left.Covers a b) (hright : right.Covers b c) (hab : a ≤ b) (hbc : b ≤ c)
    (hc : c ≤ source.length) (h : Utf8.WellFormed (Bytes.slice source a b)) :
    whole.text source = left.text source ++ right.text source := by
  rw [hwhole.text_eq (by omega) hc, hleft.text_eq hab (by omega), hright.text_eq hbc hc,
    ← h.decodeLossy_append, Bytes.slice_append hab hbc]

end Tree

/-- The categories whose nodes have a value. -/
def Category.valued : List Category := [.literal, .comment, .importStatement, .exportStatement]

namespace Language

variable {l : Language}

/-- The table of a language has a category with values for a node. -/
def Valued (l : Language) (t : Tree) : Prop :=
  ∃ c, l.profile.configFor? t = some c ∧ c.category ∈ Category.valued

/-- In each table, a value is the text of the node where there is one at all, and the category
tells which of the two. -/
theorem valueBy_eq {type : String} {c : NodeConfig} (h : l.profile.config? type = some c) :
    c.valueBy = if c.category ∈ Category.valued then .nodeText else .none := by
  have hall : ∀ e ∈ l.profile.table,
      e.2.valueBy = if e.2.category ∈ Category.valued then Strategy.nodeText else .none := by
    cases l <;> decide
  exact hall (type, c) (Dict.mem_of_get? h)

theorem nodeValue_of_configFor {t : Tree} {c : NodeConfig} (h : l.profile.configFor? t = some c)
    (source : Bytes) :
    l.profile.nodeValue source t = if c.category ∈ Category.valued then t.text source else "" := by
  rw [Profile.nodeValue, h]
  dsimp only
  rw [valueBy_eq (Profile.configFor?_eq_some.mp h).2]
  split_ifs <;> rfl

theorem Valued.nodeValue_eq {t : Tree} (h : l.Valued t) (source : Bytes) :
    l.profile.nodeValue source t = t.text source := by
  obtain ⟨c, hc, hcategory⟩ := h
  rw [nodeValue_of_configFor hc, if_pos hcategory]

theorem nodeValue_of_not_valued {t : Tree} (h : ¬ l.Valued t) (source : Bytes) :
    l.profile.nodeValue source t = "" := by
  cases hc : l.profile.configFor? t with
  | none => rw [Profile.nodeValue, hc]
  | some c =>
    have hcategory : c.category ∉ Category.valued := fun hmem => h ⟨c, hc, hmem⟩
    rw [nodeValue_of_configFor hc, if_neg hcategory]

end Language

namespace Ast

theorem value_nodeAt (l : Profile) {options : BuildOptions} (h : options.limit? = none)
    (source : Bytes) (t : Tree) (q : Address) (s : Place) :
    (nodeAt l options source t q s).value = l.nodeValue source s.tree := by
  simp only [nodeAt, Node.ofPlace, Node.shownValue, h]

/-- Where nothing is cut, literals, comments, imports and exports have the text of their range as
their value, and no other node has a value. Written out again, the value is the range itself if this
is well-formed, and texts of ranges that meet are joined without a seam. -/
theorem build_values_round_trip (l : Language) (options : BuildOptions)
    (hlimit : options.limit? = none) (source : Bytes) {world : World} {provider : Provider}
    {parse : Parse}
    (hparse : (provider.parse (world.load provider.grammar) world.found
      source.length).result = .ok parse)
    (htypes : ∀ q s, parse.tree.top.at? q = some s → s.type ≠ "") :
    (∃ ast, (build world options source ⟨l.profile, provider⟩).result = .ok ast ∧
      ∀ q s, parse.tree.top.at? q = some s → ∃ n, ast.nodes[parse.tree.rank q]? = some n ∧
        (l.Valued s.tree → ∀ a b, s.tree.Covers a b → a ≤ b → b ≤ source.length →
          (n.value = "" ↔ a = b) ∧
          (Utf8.WellFormed (Bytes.slice source a b) →
            Utf8.encode n.value = Bytes.slice source a b)) ∧
        (¬ l.Valued s.tree → n.value = "")) ∧
    ∀ a b c, a ≤ b → b ≤ c → c ≤ source.length → Utf8.WellFormed (Bytes.slice source a b) →
      ∀ whole left right : Tree, whole.Covers a c → left.Covers a b → right.Covers b c →
        whole.text source = left.text source ++ right.text source := by
  constructor
  · refine ⟨_, (build_eq_ok options source).mpr ⟨parse, hparse, htypes, rfl⟩, ?_⟩
    intro q s hs
    refine ⟨_, flatten_getElem?_rank l.profile options source hs, ?_⟩
    rw [value_nodeAt l.profile hlimit]
    constructor
    · intro hvalued a b hrange hab hb
      rw [hvalued.nodeValue_eq source]
      refine ⟨hrange.text_eq_empty hab hb, fun hwell => ?_⟩
      rw [hrange.text_eq hab hb, hwell.encode_decodeLossy]
    · intro hnone
      exact Language.nodeValue_of_not_valued hnone source
  · intro a b c hab hbc hc hwell whole left right hwhole hleft hright
    exact hwhole.text_append hleft hright hab hbc hc hwell

/-- In `x=1` the number has a value, and the text behind the name is joined to it. -/
theorem build_values_round_trip_assignment :
    (∃ ast, (build assignmentWorld {} [120, 61, 49] (.ofLanguage .python)).result = .ok ast ∧
      ∃ n, ast.nodes[5]? = some n ∧ n.value ≠ "" ∧ Utf8.encode n.value = [49]) ∧
    ∀ right : Tree, right.Covers 1 3 →
      assignmentTree.text [120, 61, 49] = "x" ++ right.text [120, 61, 49] := by
  obtain ⟨⟨ast, hast, hnodes⟩, htexts⟩ := build_values_round_trip .python {} rfl [120, 61, 49]
    parse_assignmentWorld assignmentTree_types
  obtain ⟨n, hn, hvalue, -⟩ := hnodes [0, 0, 2] _ rfl
  obtain ⟨hempty, hencode⟩ := hvalue ⟨_, rfl, by decide⟩ 2 3 ⟨rfl, rfl⟩ (by decide) (by decide)
  refine ⟨⟨ast, hast, n, hn, ?_, hencode ⟨"1", by decide⟩⟩, ?_⟩
  · rw [ne_eq, hempty]
    decide
  · intro right hright
    exact htexts 0 1 3 (by decide) (by decide) (by decide) ⟨"x", by decide⟩ assignmentTree
      (.node ⟨"identifier", true, some "left", 0, 1, ⟨0, 0⟩, ⟨0, 1⟩⟩ []) right ⟨rfl, rfl⟩
      ⟨rfl, rfl⟩ hright

end Ast
end Canopy
