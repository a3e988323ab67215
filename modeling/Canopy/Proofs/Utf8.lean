import Canopy.Text.Utf8
import Mathlib.Data.List.Infix

namespace Canopy.Utf8

/-- Octets that lead from a reading to a whole character. -/
inductive Spells (c : Char) : Reading → Bytes → Prop where
  | whole : Spells c (.whole c) []
  | begun {s : Begun} {b : UInt8} {rest : Bytes} (next : Spells c (s.next b) rest) :
    Spells c (.begun s) (b :: rest)

theorem toNat_octet {n : Nat} (h : n < 256) : (UInt8.ofNat n).toNat = n := by
  rw [UInt8.toNat_ofNat', Nat.mod_eq_of_lt h]

theorem lead_one {n : Nat} (h : n < 0x80) : lead (UInt8.ofNat n) = .whole (Char.ofNat n) := by
  unfold lead
  simp only [toNat_octet (show n < 256 by omega)]
  rw [if_pos h]

theorem lead_two {n : Nat} (hlow : 2 ≤ n) (hhigh : n < 32) :
    lead (UInt8.ofNat (0xC0 + n)) = .begun ⟨0, 0x80, 0xBF, n⟩ := by
  unfold lead
  simp only [toNat_octet (show 0xC0 + n < 256 by omega)]
  rw [if_neg (by omega), if_neg (by omega), if_pos (by omega), Nat.add_sub_cancel_left]

/-- The second of three octets has tighter bounds after two of the leads. -/
theorem lead_three {n : Nat} (h : n < 16) : lead (UInt8.ofNat (0xE0 + n)) =
    .begun ⟨1, if n = 0 then 0xA0 else 0x80, if n = 13 then 0x9F else 0xBF, n⟩ := by
  revert n
  decide

theorem lead_four {n : Nat} (h : n < 5) : lead (UInt8.ofNat (0xF0 + n)) =
    .begun ⟨2, if n = 0 then 0x90 else 0x80, if n = 4 then 0x8F else 0xBF, n⟩ := by
  revert n
  decide

/-- An octet inside the bounds adds its six bits. -/
theorem next_last {low high bits n : Nat} (hlow : low ≤ 0x80 + n) (hhigh : 0x80 + n ≤ high)
    (hn : n < 64) :
    Begun.next ⟨0, low, high, bits⟩ (UInt8.ofNat (0x80 + n)) =
      .whole (Char.ofNat (bits * 64 + n)) := by
  unfold Begun.next
  simp only [toNat_octet (show 0x80 + n < 256 by omega), if_pos (And.intro hlow hhigh),
    Nat.add_sub_cancel_left]

theorem next_more {low high bits n : Nat} (more : Nat) (hlow : low ≤ 0x80 + n)
    (hhigh : 0x80 + n ≤ high) (hn : n < 64) :
    Begun.next ⟨more + 1, low, high, bits⟩ (UInt8.ofNat (0x80 + n)) =
      .begun ⟨more, 0x80, 0xBF, bits * 64 + n⟩ := by
  unfold Begun.next
  simp only [toNat_octet (show 0x80 + n < 256 by omega), if_pos (And.intro hlow hhigh),
    Nat.add_sub_cancel_left]

/-- Reading what was written gives the character. -/
theorem spells_encodeChar (c : Char) :
    ∃ b rest, encodeChar c = b :: rest ∧ Spells c (lead b) rest := by
  have hvalid : c.toNat < 0xD800 ∨ 0xDFFF < c.toNat ∧ c.toNat < 0x110000 := c.valid
  have hchar : ∀ n, n = c.toNat → Spells c (.whole (Char.ofNat n)) [] := by
    intro n hn
    rw [hn, Char.ofNat_toNat]
    exact .whole
  unfold encodeChar
  generalize c.toNat = v at hvalid hchar
  dsimp only
  -- one octet, two, three, four
  split_ifs with h1 h2 h3
  · refine ⟨_, _, rfl, ?_⟩
    rw [lead_one h1]
    exact hchar v rfl
  · refine ⟨_, _, rfl, ?_⟩
    rw [lead_two (by omega) (by omega)]
    apply Spells.begun
    rw [next_last (by omega) (by omega) (by omega)]
    exact hchar _ (by omega)
  · refine ⟨_, _, rfl, ?_⟩
    rw [lead_three (by omega)]
    apply Spells.begun
    -- the lead's bounds shut out only overlong forms and surrogates
    rw [next_more 0 (by split_ifs <;> omega) (by split_ifs <;> omega) (by omega)]
    apply Spells.begun
    rw [next_last (by omega) (by omega) (by omega)]
    exact hchar _ (by omega)
  · refine ⟨_, _, rfl, ?_⟩
    rw [lead_four (by omega)]
    apply Spells.begun
    rw [next_more 1 (by split_ifs <;> omega) (by split_ifs <;> omega) (by omega)]
    apply Spells.begun
    rw [next_more 0 (by omega) (by omega) (by omega)]
    apply Spells.begun
    rw [next_last (by omega) (by omega) (by omega)]
    exact hchar _ (by omega)

/-- What becomes of the octets after a reading. -/
def resume (bad : List Char) : Reading → Bytes → List Char
  | .refused, rest => bad ++ decodeFrom bad none rest
  | .whole c, rest => c :: decodeFrom bad none rest
  | .begun s, rest => decodeFrom bad (some s) rest

theorem decodeFrom_none_cons (bad : List Char) (b : UInt8) (rest : Bytes) :
    decodeFrom bad none (b :: rest) = resume bad (lead b) rest := by
  rw [decodeFrom]
  cases hlead : lead b <;> simp [step, resume, hlead]

theorem decodeFrom_some_cons (bad : List Char) {s : Begun} {b : UInt8} (rest : Bytes)
    (h : s.next b ≠ .refused) : decodeFrom bad (some s) (b :: rest) = resume bad (s.next b) rest := by
  rw [decodeFrom]
  cases hnext : s.next b with
  | refused => exact absurd hnext h
  | whole c => simp [step, resume, hnext]
  | begun s' => simp [step, resume, hnext]

namespace Spells

variable {c : Char} {r : Reading} {octets : Bytes}

theorem ne_refused (h : Spells c r octets) : r ≠ .refused := by
  cases h <;> simp

theorem resume_append (h : Spells c r octets) (bad : List Char) (rest : Bytes) :
    resume bad r (octets ++ rest) = c :: decodeFrom bad none rest := by
  induction h with
  | whole => rfl
  | begun next ih =>
    rw [← ih, List.cons_append, resume, decodeFrom_some_cons bad _ next.ne_refused]

/-- Octets that stop before the character is whole come to nothing. -/
theorem resume_take (h : Spells c r octets) {k : Nat} (hk : k < octets.length) :
    resume [] r (octets.take k) = [] := by
  induction h generalizing k with
  | whole => simp at hk
  | begun next ih =>
    cases k with
    | zero => rfl
    | succ k =>
      rw [List.take_succ_cons, resume, decodeFrom_some_cons [] _ next.ne_refused]
      exact ih (Nat.lt_of_succ_lt_succ hk)

end Spells

theorem decodeFrom_encodeChar (bad : List Char) (c : Char) (rest : Bytes) :
    decodeFrom bad none (encodeChar c ++ rest) = c :: decodeFrom bad none rest := by
  obtain ⟨b, octets, hc, hspells⟩ := spells_encodeChar c
  rw [hc, List.cons_append, decodeFrom_none_cons, hspells.resume_append]

theorem decodeFrom_encodeChar_take {c : Char} {k : Nat} (hk : k < (encodeChar c).length) :
    decodeFrom [] none ((encodeChar c).take k) = [] := by
  obtain ⟨b, octets, hc, hspells⟩ := spells_encodeChar c
  rw [hc] at hk ⊢
  cases k with
  | zero => rfl
  | succ k =>
    rw [List.take_succ_cons, decodeFrom_none_cons]
    exact hspells.resume_take (Nat.lt_of_succ_lt_succ hk)

/-- Characters are written as the standard library writes them. -/
theorem encodeChar_eq (c : Char) : encodeChar c = String.utf8EncodeChar c := by
  have hvalid : c.toNat < 0xD800 ∨ 0xDFFF < c.toNat ∧ c.toNat < 0x110000 := c.valid
  have h127 : c.toNat ≤ 127 ↔ c.toNat < 0x80 := by omega
  have h2047 : c.toNat ≤ 2047 ↔ c.toNat < 0x800 := by omega
  have h65535 : c.toNat ≤ 65535 ↔ c.toNat < 0x10000 := by omega
  simp only [encodeChar, String.utf8EncodeChar, Char.toNat_val, h127, h2047, h65535]
  split_ifs
  · rfl
  · have hlead : 0xC0 + c.toNat / 64 = c.toNat / 64 % 32 + 192 := by omega
    rw [hlead, Nat.add_comm 0x80]
  · have hlead : 0xE0 + c.toNat / 4096 = c.toNat / 4096 % 16 + 224 := by omega
    rw [hlead, Nat.add_comm 0x80, Nat.add_comm 0x80]
  · have hlead : 0xF0 + c.toNat / 262144 = c.toNat / 262144 % 8 + 240 := by omega
    rw [hlead, Nat.add_comm 0x80, Nat.add_comm 0x80, Nat.add_comm 0x80]

theorem length_encode (s : String) : (encode s).length = s.utf8ByteSize := by
  have hencode : encode s = s.toList.flatMap String.utf8EncodeChar :=
    congrArg s.toList.flatMap (funext encodeChar_eq)
  rw [String.utf8ByteSize, ← String.utf8Encode_toList, List.utf8Encode, hencode]
  simp

/-- As many characters from the front as fit into `size` octets. -/
def fitting (size : Nat) : List Char → List Char
  | [] => []
  | c :: rest =>
    if (encodeChar c).length ≤ size then c :: fitting (size - (encodeChar c).length) rest else []

/-- Of a cut text, what is left after the broken character at its end is dropped. -/
theorem decodeFrom_take_encode (size : Nat) (cs : List Char) :
    decodeFrom [] none ((cs.flatMap encodeChar).take size) = fitting size cs := by
  induction cs generalizing size with
  | nil => rw [List.flatMap_nil, List.take_nil]; rfl
  | cons c cs ih =>
    rw [List.flatMap_cons, List.take_append, fitting]
    -- the cut falls behind the first character or inside it
    split_ifs with hfits
    · rw [List.take_of_length_le hfits, decodeFrom_encodeChar, ih]
    · have hnone : size - (encodeChar c).length = 0 := by omega
      rw [hnone, List.take_zero, List.append_nil, decodeFrom_encodeChar_take (by omega)]

theorem fitting_isPrefix (size : Nat) (cs : List Char) : fitting size cs <+: cs := by
  induction cs generalizing size with
  | nil => exact List.nil_prefix
  | cons c cs ih =>
    rw [fitting]
    split_ifs
    · exact List.prefix_cons_inj c |>.mpr (ih _)
    · exact List.nil_prefix

theorem length_encode_fitting (size : Nat) (cs : List Char) :
    ((fitting size cs).flatMap encodeChar).length ≤ size := by
  induction cs generalizing size with
  | nil => exact Nat.zero_le _
  | cons c cs ih =>
    rw [fitting]
    split_ifs with hfits
    · have := ih (size - (encodeChar c).length)
      rw [List.flatMap_cons, List.length_append]
      omega
    · exact Nat.zero_le _

theorem prefix_fitting {size : Nat} {cs ds : List Char} (hstart : ds <+: cs)
    (hfits : (ds.flatMap encodeChar).length ≤ size) : ds <+: fitting size cs := by
  induction cs generalizing size ds with
  | nil => rwa [fitting]
  | cons c cs ih =>
    cases ds with
    | nil => exact List.nil_prefix
    | cons d ds =>
      obtain ⟨rfl, htail⟩ := List.cons_prefix_cons.mp hstart
      rw [List.flatMap_cons, List.length_append] at hfits
      rw [fitting, if_pos (by omega), List.prefix_cons_inj]
      exact ih htail (by omega)

/-- The longest part of a text, in whole characters from its beginning, that takes at most `size`
octets. -/
structure LongestPrefix (size : Nat) (text part : String) : Prop where
  isPrefix : part.toList <+: text.toList
  fits : part.utf8ByteSize ≤ size
  longest : ∀ s : String, s.toList <+: text.toList → s.utf8ByteSize ≤ size →
    s.toList <+: part.toList

/-- There is one such part, no more. -/
theorem LongestPrefix.unique {size : Nat} {text part part' : String}
    (h : LongestPrefix size text part) (h' : LongestPrefix size text part') : part = part' := by
  have hle : part.toList <+: part'.toList := h'.longest part h.isPrefix h.fits
  have hge : part'.toList <+: part.toList := h.longest part' h'.isPrefix h'.fits
  exact String.toList_inj.mp (hle.eq_of_length_le hge.length_le)

theorem longestPrefix_fitting (size : Nat) (text : String) :
    LongestPrefix size text (String.ofList (fitting size text.toList)) where
  isPrefix := by
    rw [String.toList_ofList]
    exact fitting_isPrefix size text.toList
  fits := by
    rw [← length_encode, encode, String.toList_ofList]
    exact length_encode_fitting size text.toList
  longest s hstart hfits := by
    rw [← length_encode] at hfits
    rw [String.toList_ofList]
    exact prefix_fitting hstart hfits

theorem longestPrefix_self {size : Nat} {text : String} (h : text.utf8ByteSize ≤ size) :
    LongestPrefix size text text :=
  ⟨List.prefix_rfl, h, fun _ hstart _ => hstart⟩

/-- Cutting octets and dropping what is broken keeps the longest part that fits, for negative
sizes too. -/
theorem truncate_longestPrefix (text : String) (size : Int) :
    LongestPrefix (kept text.utf8ByteSize size) text (truncate text (some size)) := by
  simp only [truncate, length_encode]
  split_ifs with hall
  · apply longestPrefix_self
    unfold kept
    split_ifs <;> omega
  · rw [decodeDropping, encode, decodeFrom_take_encode]
    exact longestPrefix_fitting _ _

theorem utf8ByteSize_mono {part text : String} (h : part.toList <+: text.toList) :
    part.utf8ByteSize ≤ text.utf8ByteSize := by
  obtain ⟨rest, hrest⟩ := h
  rw [← length_encode, ← length_encode, encode, encode, ← hrest, List.flatMap_append,
    List.length_append]
  exact Nat.le_add_right _ _

/-- The longest part of the longest part is as long as both sizes allow. -/
theorem LongestPrefix.trans {size size' : Nat} {text part part' : String}
    (h : LongestPrefix size text part) (h' : LongestPrefix size' part part') :
    LongestPrefix (min size size') text part' where
  isPrefix := h'.isPrefix.trans h.isPrefix
  fits := Nat.le_min.mpr ⟨(utf8ByteSize_mono h'.isPrefix).trans h.fits, h'.fits⟩
  longest s hstart hfits := by
    obtain ⟨hfits, hfits'⟩ := Nat.le_min.mp hfits
    exact h'.longest s (h.longest s hstart hfits) hfits'

/-- What is kept of a text is the longest part of it, in whole characters from its beginning, that
takes no more octets than the size says, where a negative size counts from the end. So to cut twice
is to cut once, at the smaller size. -/
theorem truncate_eq_iff_longestPrefix (text : String) :
    (∀ (size : Int) (part : String), truncate text (some size) = part ↔
      LongestPrefix (if 0 ≤ size then size else max 0 (text.utf8ByteSize + size)).toNat text
        part) ∧
    ∀ size size' : Nat, truncate (truncate text (some size)) (some size') =
      truncate text (some (min size size' : Nat)) := by
  constructor
  · intro size part
    have hsize : (if 0 ≤ size then size else max 0 (text.utf8ByteSize + size)).toNat =
        kept text.utf8ByteSize size := by
      unfold kept
      split_ifs <;> omega
    have hcut := truncate_longestPrefix text size
    rw [hsize]
    exact ⟨fun h => h ▸ hcut, hcut.unique⟩
  · intro size size'
    have hfirst := truncate_longestPrefix text size
    have hthen := truncate_longestPrefix (truncate text (some size)) size'
    exact (hfirst.trans hthen).unique (truncate_longestPrefix text (min size size' : Nat))

end Canopy.Utf8
