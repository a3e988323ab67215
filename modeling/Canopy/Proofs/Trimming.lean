import Canopy.Text.Blank
import Mathlib.Data.List.DropRight

namespace Canopy.Text

/-- The text does not end in a blank, and is not empty. -/
def EndsVisibly (cs : List Char) : Prop := ∃ c, cs.getLast? = some c ∧ isBlank c = false

theorem EndsVisibly.append {cs : List Char} (h : EndsVisibly cs) (front : List Char) :
    EndsVisibly (front ++ cs) := by
  obtain ⟨c, hc, hblank⟩ := h
  exact ⟨c, by rw [List.getLast?_append, hc, Option.some_or], hblank⟩

section Ends

variable {p : Char → Bool} {cs word : List Char}

theorem dropWhile_append {front : List Char} (hfront : ∀ c ∈ front, p c = true)
    (hfirst : ∃ c, word.head? = some c ∧ p c = false) : (front ++ word).dropWhile p = word := by
  obtain ⟨c, hc, hstop⟩ := hfirst
  obtain ⟨rest, rfl⟩ := List.head?_eq_some_iff.mp hc
  rw [List.dropWhile_append_of_pos hfront, List.dropWhile_cons_of_neg (by simp [hstop])]

theorem dropEndWhile_append {back : List Char} (hback : ∀ c ∈ back, p c = true)
    (hlast : ∃ c, word.getLast? = some c ∧ p c = false) : dropEndWhile p (word ++ back) = word := by
  have hreverse : ∀ c ∈ back.reverse, p c = true := fun c hc => hback c (List.mem_reverse.mp hc)
  rw [dropEndWhile, List.reverse_append, dropWhile_append hreverse (by simpa using hlast),
    List.reverse_reverse]

theorem exists_dropEndWhile_append (p : Char → Bool) (cs : List Char) :
    ∃ back, cs = dropEndWhile p cs ++ back ∧ ∀ c ∈ back, p c = true :=
  ⟨cs.rtakeWhile p, List.rdropWhile_append_rtakeWhile.symm, fun _ => List.mem_rtakeWhile_imp⟩

/-- A word with two visible ends is what trimming leaves exactly if all around it is dropped. -/
theorem dropEndWhile_dropWhile_eq_iff (hfirst : ∃ c, word.head? = some c ∧ p c = false)
    (hlast : ∃ c, word.getLast? = some c ∧ p c = false) :
    dropEndWhile p (cs.dropWhile p) = word ↔ ∃ front back, cs = front ++ word ++ back ∧
      (∀ c ∈ front, p c = true) ∧ ∀ c ∈ back, p c = true := by
  constructor
  · rintro rfl
    obtain ⟨back, hsplit, hback⟩ := exists_dropEndWhile_append p (cs.dropWhile p)
    refine ⟨cs.takeWhile p, back, ?_, fun c => List.mem_takeWhile_imp, hback⟩
    rw [List.append_assoc, ← hsplit, List.takeWhile_append_dropWhile]
  · rintro ⟨front, back, rfl, hfront, hback⟩
    have hhead : ∃ c, (word ++ back).head? = some c ∧ p c = false := by
      obtain ⟨c, hc, hstop⟩ := hfirst
      exact ⟨c, by rw [List.head?_append, hc, Option.some_or], hstop⟩
    rw [List.append_assoc, dropWhile_append hfront hhead, dropEndWhile_append hback hlast]

end Ends
end Canopy.Text
