import Canopy.Json.Reader
import Canopy.Json.Writer
import Mathlib.Data.List.Basic

namespace Canopy

namespace Text

theorem hexDigits_succ (width n : Nat) :
    hexDigits (width + 2) n = hexDigits (width + 1) (n / 16) ++ [(n % 16).digitChar] := by
  unfold hexDigits
  by_cases h : n < 16
  · rw [Nat.toDigits_of_lt_base h, Nat.div_eq_of_lt h, Nat.mod_eq_of_lt h, Nat.toDigits_zero]
    simp [List.replicate_succ']
  · rw [Nat.toDigits_of_base_le (by decide) (Nat.le_of_not_lt h)]
    have hwidth : width + 2 - ((Nat.toDigits 16 (n / 16)).length + 1) =
        width + 1 - (Nat.toDigits 16 (n / 16)).length := by omega
    simp [hwidth]

theorem hexDigits_one {n : Nat} (h : n < 16) : hexDigits 1 n = [n.digitChar] := by
  simp [hexDigits, Nat.toDigits_of_lt_base h]

end Text

namespace Json

theorem hexValue?_digitChar : ∀ d < 16, hexValue? d.digitChar = some d := by decide

/-- The four digits of a unit are read as that unit. -/
theorem unit?_hexDigits {n : Nat} (h : n < 0x10000) :
    ∃ a b c d, Text.hexDigits 4 n = [a, b, c, d] ∧ unit? a b c d = some n := by
  refine ⟨(n / 16 / 16 / 16).digitChar, (n / 16 / 16 % 16).digitChar, (n / 16 % 16).digitChar,
    (n % 16).digitChar, ?_, ?_⟩
  · rw [Text.hexDigits_succ, Text.hexDigits_succ, Text.hexDigits_succ,
      Text.hexDigits_one (by omega)]
    rfl
  · have hvalue : ((n / 16 / 16 / 16 * 16 + n / 16 / 16 % 16) * 16 + n / 16 % 16) * 16 + n % 16 =
        n := by omega
    simp [unit?, hexValue?_digitChar _ (show n / 16 / 16 / 16 < 16 by omega),
      hexValue?_digitChar _ (show n / 16 / 16 % 16 < 16 by omega),
      hexValue?_digitChar _ (show n / 16 % 16 < 16 by omega),
      hexValue?_digitChar _ (show n % 16 < 16 by omega), hvalue]

/-- A unit that is no half of a pair stands for a character of its own. -/
theorem readText_unitEscape {n : Nat} (h : n < 0xD800 ∨ 0xDFFF < n ∧ n < 0x10000)
    (acc rest : List Char) :
    readText none acc (unitEscape n ++ rest) = readText none (Char.ofNat n :: acc) rest := by
  obtain ⟨a, b, c, d, hdigits, hunit⟩ := unit?_hexDigits (n := n) (by omega)
  have hhigh : isHighSurrogate n = false := by
    simp only [isHighSurrogate, Bool.and_eq_false_iff, decide_eq_false_iff_not]
    omega
  have hlow : isLowSurrogate n = false := by
    simp only [isLowSurrogate, Bool.and_eq_false_iff, decide_eq_false_iff_not]
    omega
  simp [unitEscape, hdigits, readText, hunit, hhigh, hlow, loneUnit]

/-- Two units of a pair stand for one character together. -/
theorem readText_unitEscape_pair {high low : Nat} (hhigh : 0xD800 ≤ high ∧ high < 0xDC00)
    (hlow : 0xDC00 ≤ low ∧ low < 0xE000) (acc rest : List Char) :
    readText none acc (unitEscape high ++ (unitEscape low ++ rest)) =
      readText none (pairedUnits high low :: acc) rest := by
  obtain ⟨a, b, c, d, hdigits, hunit⟩ := unit?_hexDigits (n := high) (by omega)
  obtain ⟨a', b', c', d', hdigits', hunit'⟩ := unit?_hexDigits (n := low) (by omega)
  have hfirst : isHighSurrogate high = true := by simp [isHighSurrogate, hhigh]
  have hsecond : isLowSurrogate low = true := by simp [isLowSurrogate, hlow]
  simp [unitEscape, hdigits, hdigits', readText, hunit, hunit', hfirst, hsecond]

theorem readText_asciiEscape (c : Char) (acc rest : List Char) :
    readText none acc (asciiEscape c ++ rest) = readText none (c :: acc) rest := by
  have hvalid : c.toNat < 0xD800 ∨ 0xDFFF < c.toNat ∧ c.toNat < 0x110000 := c.valid
  simp only [asciiEscape]
  split_ifs with hsmall
  · rw [readText_unitEscape (by omega), Char.ofNat_toNat]
  · have hpair : pairedUnits (0xD800 + (c.toNat - 0x10000) / 0x400)
        (0xDC00 + (c.toNat - 0x10000) % 0x400) = c := by
      have hcode : 0x10000 + (0xD800 + (c.toNat - 0x10000) / 0x400 - 0xD800) * 0x400 +
          (0xDC00 + (c.toNat - 0x10000) % 0x400 - 0xDC00) = c.toNat := by omega
      rw [pairedUnits, hcode, Char.ofNat_toNat]
    rw [List.append_assoc, readText_unitEscape_pair (by omega) (by omega), hpair]

/-- A backslash and a letter stand for the character that the letter names. -/
theorem readText_letter {letter c : Char} (h : escape? letter = some c) (acc rest : List Char) :
    readText none acc ('\\' :: letter :: rest) = readText none (c :: acc) rest := by
  have hunit : letter ≠ 'u' := by
    rintro rfl
    simp [escape?] at h
  rw [readText]
  · simp only [h, settle]
  · intro _ _ _ _ _ heq
    exact absurd heq hunit

/-- A character that is written as it is. -/
theorem readText_cons {c : Char} (hquote : c ≠ '"') (hslash : c ≠ '\\') (hcontrol : ¬c.toNat < 0x20)
    (acc rest : List Char) : readText none acc (c :: rest) = readText none (c :: acc) rest := by
  rw [readText]
  · simp [hslash, hcontrol, settle]
  · exact hquote
  · intro _ _ _ _ _ heq
    exact absurd heq hslash
  · intro _ _ heq
    exact absurd heq hslash

/-- Whatever stands for a character in a written text, it is read as that character. -/
theorem readText_escapeChar (layout : Layout) (c : Char) (acc rest : List Char) :
    readText none acc (escapeChar layout c ++ rest) = readText none (c :: acc) rest := by
  have hvalid : c.toNat < 0xD800 ∨ 0xDFFF < c.toNat ∧ c.toNat < 0x110000 := c.valid
  unfold escapeChar
  split_ifs with hquote hslash hfeed hreturn htab hback hform hcontrol hascii
  · rw [hquote]
    exact readText_letter rfl acc rest
  · rw [hslash]
    exact readText_letter rfl acc rest
  · rw [hfeed]
    exact readText_letter rfl acc rest
  · rw [hreturn]
    exact readText_letter rfl acc rest
  · rw [htab]
    exact readText_letter rfl acc rest
  · have hletter : escape? 'b' = some c := by
      rw [← Char.ofNat_toNat c, hback]
      rfl
    exact readText_letter hletter acc rest
  · have hletter : escape? 'f' = some c := by
      rw [← Char.ofNat_toNat c, hform]
      rfl
    exact readText_letter hletter acc rest
  · rw [readText_unitEscape (by omega), Char.ofNat_toNat]
  · exact readText_asciiEscape c acc rest
  · exact readText_cons hquote hslash hcontrol acc rest

theorem readText_flatMap (layout : Layout) (cs acc rest : List Char) :
    readText none acc (cs.flatMap (escapeChar layout) ++ '"' :: rest) =
      some (String.ofList (acc.reverse ++ cs), rest) := by
  induction cs generalizing acc with
  | nil => simp [readText, settle]
  | cons c cs ih =>
    rw [List.flatMap_cons, List.append_assoc, readText_escapeChar, ih]
    simp

/-- A written text is read back whole, whatever comes after its closing quote. -/
theorem readText_writeText (layout : Layout) (s : String) (rest : List Char) :
    ∃ body, writeText layout s ++ rest = '"' :: body ∧ readText none [] body = some (s, rest) := by
  refine ⟨s.toList.flatMap (escapeChar layout) ++ '"' :: rest, by simp [writeText], ?_⟩
  rw [readText_flatMap]
  simp

theorem toList_toString_ofNat (n : Nat) : (toString (Int.ofNat n)).toList = Nat.toDigits 10 n := by
  simp [toString, Int.repr]

theorem toList_toString_negSucc (n : Nat) :
    (toString (Int.negSucc n)).toList = '-' :: Nat.toDigits 10 (n + 1) := by
  simp [toString, Int.repr]

/-- What may follow a number: nothing that would be read as a part of it. -/
def Ends (rest : List Char) : Prop :=
  ∀ c ∈ rest.head?, isDigit c = false ∧ c ≠ '.' ∧ c ≠ 'e' ∧ c ≠ 'E'

theorem ends_nil : Ends [] := by simp [Ends]

theorem ends_cons {c : Char} {rest : List Char} :
    Ends (c :: rest) ↔ isDigit c = false ∧ c ≠ '.' ∧ c ≠ 'e' ∧ c ≠ 'E' := by
  simp [Ends]

theorem isDigit_toDigits {n : Nat} {c : Char} (h : c ∈ Nat.toDigits 10 n) : isDigit c = true :=
  Nat.isDigit_of_mem_toDigits (by decide) (by decide) h

theorem exists_digit_toDigits (n : Nat) :
    ∃ c cs, Nat.toDigits 10 n = c :: cs ∧ isDigit c = true := by
  obtain ⟨c, cs, hdigits⟩ := List.exists_cons_of_ne_nil (Nat.toDigits_ne_nil (n := n) (b := 10))
  exact ⟨c, cs, hdigits, isDigit_toDigits (hdigits ▸ List.mem_cons_self)⟩

theorem digitsNat_toDigits (n : Nat) : digitsNat (Nat.toDigits 10 n) = n := by
  have hfold : digitsNat (Nat.toDigits 10 n) = Nat.ofDigitChars 10 (Nat.toDigits 10 n) 0 := by
    unfold digitsNat Nat.ofDigitChars
    congr 1
    funext m c
    rw [Nat.mul_comm]
    rfl
  rw [hfold, Nat.ofDigitChars_toDigits (by decide) (by decide)]

/-- The digits of a number other than zero do not begin with a zero. -/
theorem toDigits_eq_cons {n : Nat} (h : n ≠ 0) :
    ∃ c cs, Nat.toDigits 10 n = c :: cs ∧ c ≠ '0' := by
  induction n using Nat.strongRecOn with
  | ind n ih =>
    by_cases hsmall : n < 10
    · have hdigit : ∀ m < 10, m ≠ 0 → m.digitChar ≠ '0' := by decide
      exact ⟨n.digitChar, [], Nat.toDigits_of_lt_base hsmall, hdigit n hsmall h⟩
    · obtain ⟨c, cs, heq, hne⟩ := ih (n / 10) (by omega) (by omega)
      refine ⟨c, cs ++ [(n % 10).digitChar], ?_, hne⟩
      rw [Nat.toDigits_of_base_le (by decide) (Nat.le_of_not_lt hsmall), heq]
      rfl

theorem Ends.takeWhile_digits {rest : List Char} (h : Ends rest) {digits : List Char}
    (hdigits : ∀ c ∈ digits, isDigit c = true) :
    (digits ++ rest).takeWhile isDigit = digits ∧ (digits ++ rest).dropWhile isDigit = rest := by
  have hrest : rest.takeWhile isDigit = [] ∧ rest.dropWhile isDigit = rest := by
    cases rest with
    | nil => exact ⟨rfl, rfl⟩
    | cons c rest => simp [(ends_cons.mp h).1]
  rw [List.takeWhile_append_of_pos hdigits, List.dropWhile_append_of_pos hdigits, hrest.1, hrest.2]
  exact ⟨List.append_nil digits, rfl⟩

theorem readInteger_toDigits (n : Nat) {rest : List Char} (h : Ends rest) :
    readInteger (Nat.toDigits 10 n ++ rest) = some (Nat.toDigits 10 n, rest) := by
  by_cases hzero : n = 0
  · subst hzero
    rw [Nat.toDigits_zero]
    rfl
  · have hdigits : ∀ c ∈ Nat.toDigits 10 n, isDigit c = true := fun _ => isDigit_toDigits
    obtain ⟨htake, hdrop⟩ := h.takeWhile_digits hdigits
    obtain ⟨c, cs, heq, hne⟩ := toDigits_eq_cons hzero
    rw [heq, List.cons_append] at htake hdrop ⊢
    rw [readInteger]
    · simp [htake, hdrop]
    · intro _ hcontra
      exact absurd (List.cons.inj hcontra).1 hne

theorem Ends.readFraction {rest : List Char} (h : Ends rest) : readFraction rest = ([], rest) := by
  cases rest with
  | nil => rfl
  | cons c rest =>
    rw [Json.readFraction]
    intro _ heq
    exact (ends_cons.mp h).2.1 (List.cons.inj heq).1

theorem Ends.readExponent {rest : List Char} (h : Ends rest) :
    readExponent rest = (none, rest) := by
  cases rest with
  | nil => rfl
  | cons c rest =>
    obtain ⟨-, -, hsmall, hlarge⟩ := ends_cons.mp h
    simp [Json.readExponent, hsmall, hlarge]

/-- An integer of `n` has no more digits than the limit, where there is one. -/
def Fits (limit : Option Nat) (n : Nat) : Prop :=
  ∀ bound ∈ limit, (Nat.toDigits 10 n).length ≤ bound

theorem fits_none (n : Nat) : Fits none n := by simp [Fits]

theorem readNumber_toDigits {limit : Option Nat} {n : Nat} (hn : Fits limit n) (negative : Bool)
    {rest : List Char} (h : Ends rest) :
    readNumber limit negative (Nat.toDigits 10 n ++ rest) =
      some (.int (Text.signed negative n), rest) := by
  have hlimit : limit.any (fun bound => decide (bound < (Nat.toDigits 10 n).length)) = false := by
    cases limit with
    | none => rfl
    | some bound => simpa using hn bound rfl
  simp [readNumber, readInteger_toDigits n h, h.readFraction, h.readExponent, hlimit,
    digitsNat_toDigits]

end Json
end Canopy
