import Canopy.Proofs.Dict
import Canopy.Proofs.JsonAtoms
import Mathlib.Data.List.DropRight

namespace Canopy.Json

/-- Characters that are passed over between two tokens. -/
def Blank (gap : List Char) : Prop := ∀ c ∈ gap, isGap c = true

theorem skipGap_append {gap : List Char} (h : Blank gap) (cs : List Char) :
    skipGap (gap ++ cs) = skipGap cs :=
  List.dropWhile_append_of_pos h

theorem skipGap_cons {c : Char} (h : isGap c = false) (cs : List Char) :
    skipGap (c :: cs) = c :: cs :=
  List.dropWhile_cons_of_neg (by simp [h])

theorem blank_lineBreak (layout : Layout) (level : Nat) : Blank (lineBreak layout level) := by
  intro c hc
  unfold lineBreak at hc
  split at hc
  · simp at hc
  · rcases List.mem_cons.mp hc with rfl | hblank
    · rfl
    · rw [List.eq_of_mem_replicate hblank]
      rfl

theorem divide_eq (layout : Layout) (level : Nat) :
    ∃ gap, Blank gap ∧ divide layout level = ',' :: gap := by
  unfold divide
  split
  · exact ⟨[' '], by simp [Blank, isGap], rfl⟩
  · exact ⟨_, blank_lineBreak layout level, rfl⟩

theorem ends_of_isGap {c : Char} (h : isGap c = true) (rest : List Char) : Ends (c :: rest) := by
  simp only [isGap, Bool.or_eq_true, decide_eq_true_eq] at h
  rw [ends_cons]
  rcases h with ((rfl | rfl) | rfl) | rfl <;> decide

/-- A value may be followed by blanks and a token that is no part of a number. -/
theorem Blank.ends_append {gap : List Char} (h : Blank gap) {rest : List Char} (hrest : Ends rest) :
    Ends (gap ++ rest) := by
  cases gap with
  | nil => exact hrest
  | cons c gap => exact ends_of_isGap (h c List.mem_cons_self) _

theorem readValue_append {gap : List Char} (h : Blank gap) (limit : Option Nat) (fuel : Nat)
    (cs : List Char) : readValue limit fuel (gap ++ cs) = readValue limit fuel cs := by
  cases fuel with
  | zero => simp [readValue]
  | succ fuel => simp only [readValue, skipGap_append h]

/-- A value is read back from its text at any level, whatever may follow. Fuel for each character
and one more is enough. -/
def ReadsBack (limit : Option Nat) (layout : Layout) (v : Json) : Prop :=
  ∀ level fuel rest, (writeAt layout level v).length ≤ fuel → Ends rest →
    readValue limit (fuel + 1) (writeAt layout level v ++ rest) = some (v, rest)

section Atoms

variable (limit : Option Nat) (layout : Layout)

theorem readsBack_null : ReadsBack limit layout .null := by
  intro level fuel rest _ _
  simp [writeAt, readValue, skipGap_cons, isGap, isDigit, readWord, afterWord]

theorem readsBack_bool (b : Bool) : ReadsBack limit layout (.bool b) := by
  intro level fuel rest _ _
  cases b <;> simp [writeAt, readValue, skipGap_cons, isGap, isDigit, readWord, afterWord]

theorem readsBack_str (s : String) : ReadsBack limit layout (.str s) := by
  intro level fuel rest _ _
  obtain ⟨body, htext, hbody⟩ := readText_writeText layout s rest
  rw [writeAt, htext]
  simp [readValue, skipGap_cons, isGap, hbody]

theorem readValue_digit {c : Char} (h : isDigit c = true) (fuel : Nat) (cs : List Char) :
    readValue limit (fuel + 1) (c :: cs) = readNumber limit false (c :: cs) := by
  have hother : ∀ d, isDigit d = false → c ≠ d := by
    rintro d hd rfl
    rw [h] at hd
    cases hd
  have hgap : isGap c = false := by
    simp [isGap, hother ' ' rfl, hother '\t' rfl, hother '\n' rfl, hother '\r' rfl]
  rw [readValue, skipGap_cons hgap]
  split
  · next heq => cases heq
  · next heq => exact absurd (List.cons.inj heq).1 (hother '"' rfl)
  · next heq => exact absurd (List.cons.inj heq).1 (hother '[' rfl)
  · next heq => exact absurd (List.cons.inj heq).1 (hother '{' rfl)
  · next heq => exact absurd (List.cons.inj heq).1 (hother '-' rfl)
  · next heq =>
    obtain ⟨rfl, rfl⟩ := List.cons.inj heq
    rw [if_pos h]

theorem readValue_toDigits {n : Nat} (hn : Fits limit n) (fuel : Nat) {rest : List Char}
    (h : Ends rest) :
    readValue limit (fuel + 1) (Nat.toDigits 10 n ++ rest) = some (.int n, rest) := by
  obtain ⟨c, cs, hdigits, hc⟩ := exists_digit_toDigits n
  have hnumber := readNumber_toDigits hn false h
  rw [hdigits, List.cons_append] at hnumber ⊢
  rw [readValue_digit limit hc, hnumber]
  rfl

theorem readsBack_int {n : Int} (hn : Fits limit n.natAbs) : ReadsBack limit layout (.int n) := by
  intro level fuel rest _ hrest
  rw [writeAt]
  cases n with
  | ofNat m =>
    rw [toList_toString_ofNat]
    exact readValue_toDigits limit hn fuel hrest
  | negSucc m =>
    rw [toList_toString_negSucc, List.cons_append]
    -- the word for infinity begins with no digit
    have hword : afterWord "Infinity".toList (Nat.toDigits 10 (m + 1) ++ rest) = none := by
      obtain ⟨c, cs, hdigits, hc⟩ := exists_digit_toDigits (m + 1)
      have hne : 'I' ≠ c := by
        rintro rfl
        exact absurd hc (by decide)
      rw [hdigits]
      simp [afterWord, hne]
    have hnumber := readNumber_toDigits (n := m + 1) hn true hrest
    simp only [readValue, skipGap_cons (c := '-') rfl, hword, hnumber]
    rfl

end Atoms

theorem skipGap_skipGap (cs : List Char) : skipGap (skipGap cs) = skipGap cs :=
  List.dropWhile_idempotent _ _

theorem readItems_skipGap (limit : Option Nat) (fuel : Nat) (cs : List Char) :
    readItems limit fuel (skipGap cs) = readItems limit fuel cs := by
  have hskip : ∀ fuel, readValue limit fuel (skipGap cs) = readValue limit fuel cs := by
    intro fuel
    cases fuel with
    | zero => simp [readValue]
    | succ fuel => simp only [readValue, skipGap_skipGap]
  cases fuel with
  | zero => simp [readItems]
  | succ fuel => simp only [readItems, hskip]

theorem readMembers_skipGap (limit : Option Nat) (fuel : Nat) (cs : List Char) :
    readMembers limit fuel (skipGap cs) = readMembers limit fuel cs := by
  cases fuel with
  | zero => simp [readMembers]
  | succ fuel => simp only [readMembers, skipGap_skipGap]

/-- After an opening bracket, items are read unless the bracket is closed at once. -/
theorem readValue_bracket {limit : Option Nat} {fuel : Nat} {cs rest : List Char}
    {items : List Json} (h : readItems limit fuel cs = some (items, rest)) :
    readValue limit (fuel + 1) ('[' :: cs) = some (.arr items, rest) := by
  -- no value begins with a closing bracket
  have hopen : ∀ after, skipGap cs ≠ ']' :: after := by
    intro after heq
    have hnone : ∀ fuel, readValue limit fuel cs = none := by
      intro fuel
      cases fuel <;> simp [readValue, heq, isDigit, readWord, afterWord]
    cases fuel <;> simp [readItems, hnone] at h
  rw [← readItems_skipGap] at h
  simp only [readValue, skipGap_cons (c := '[') rfl, h, Option.map_some]

theorem readValue_brace {limit : Option Nat} {fuel : Nat} {cs rest : List Char}
    {members : Dict Json} (h : readMembers limit fuel cs = some (members, rest)) :
    readValue limit (fuel + 1) ('{' :: cs) = some (.obj (Dict.ofList members), rest) := by
  have hopen : ∀ after, skipGap cs ≠ '}' :: after := by
    intro after heq
    cases fuel <;> simp [readMembers, heq] at h
  rw [← readMembers_skipGap] at h
  simp only [readValue, skipGap_cons (c := '{') rfl, h, Option.map_some]

section Containers

variable {limit : Option Nat} {layout : Layout}

/-- Items are read up to the closing bracket, one after the other. The fuel left for each is at
least the number of characters that are left. -/
theorem readItems_writeItems {item : Json} {more : List Json}
    (hall : ∀ v ∈ item :: more, ReadsBack limit layout v) {level fuel : Nat}
    {gap close : List Char} (hgap : Blank gap) (hclose : Blank close) (tail : List Char)
    (hfuel : (writeAt layout level item).length + (writeItems layout level more).length + 2 ≤ fuel) :
    readItems limit fuel (gap ++ (writeAt layout level item ++
      (writeItems layout level more ++ (close ++ ']' :: tail)))) = some (item :: more, tail) := by
  have hitem := hall item List.mem_cons_self
  induction more generalizing item fuel gap with
  | nil =>
    obtain ⟨fuel, rfl⟩ : ∃ n, fuel = n + 2 := ⟨fuel - 2, by omega⟩
    have hend : Ends (close ++ ']' :: tail) := hclose.ends_append (ends_cons.mpr (by decide))
    have hvalue := hitem level fuel (close ++ ']' :: tail) (by omega) hend
    simp only [writeItems, List.nil_append]
    rw [readItems, readValue_append hgap, hvalue]
    simp [skipGap_append hclose, skipGap_cons (c := ']') rfl]
  | cons next more ih =>
    obtain ⟨fuel, rfl⟩ : ∃ n, fuel = n + 2 := ⟨fuel - 2, by omega⟩
    obtain ⟨gap', hgap', hdivide⟩ := divide_eq layout level
    have hitems : writeItems layout level (next :: more) ++ (close ++ ']' :: tail) =
        ',' :: (gap' ++ (writeAt layout level next ++
          (writeItems layout level more ++ (close ++ ']' :: tail)))) := by
      simp [writeItems, hdivide]
    have hlength : (writeItems layout level (next :: more)).length = gap'.length + 1 +
        (writeAt layout level next).length + (writeItems layout level more).length := by
      simp only [writeItems, hdivide, List.length_append, List.length_cons]
    have hrest : readItems limit (fuel + 1) (gap' ++ (writeAt layout level next ++
        (writeItems layout level more ++ (close ++ ']' :: tail)))) = some (next :: more, tail) :=
      ih (fun v hv => hall v (List.mem_cons_of_mem item hv)) hgap' (by omega) (hall next (by simp))
    rw [hitems, readItems, readValue_append hgap,
      hitem level fuel _ (by omega) (ends_cons.mpr (by decide))]
    simp [skipGap_cons (c := ',') rfl, hrest]

theorem readMembers_writeMembers {key : String} {value : Json} {more : Dict Json}
    (hall : ∀ m ∈ (key, value) :: more, ReadsBack limit layout m.2) {level fuel : Nat}
    {gap close : List Char} (hgap : Blank gap) (hclose : Blank close) (tail : List Char)
    (hfuel : (writeAt layout level value).length + (writeMembers layout level more).length + 2 ≤
      fuel) :
    readMembers limit fuel (gap ++ (writeText layout key ++ (':' :: ' ' ::
      (writeAt layout level value ++ (writeMembers layout level more ++ (close ++ '}' :: tail)))))) =
      some ((key, value) :: more, tail) := by
  have hvalue : ReadsBack limit layout value := hall (key, value) List.mem_cons_self
  have hspace : Blank [' '] := by simp [Blank, isGap]
  induction more generalizing key value fuel gap with
  | nil =>
    obtain ⟨fuel, rfl⟩ : ∃ n, fuel = n + 2 := ⟨fuel - 2, by omega⟩
    have hend : Ends (close ++ '}' :: tail) := hclose.ends_append (ends_cons.mpr (by decide))
    have hread := hvalue level fuel (close ++ '}' :: tail) (by omega) hend
    rw [← readValue_append hspace, List.singleton_append] at hread
    simp only [writeMembers, List.nil_append]
    obtain ⟨body, htext, hbody⟩ := readText_writeText layout key
      (':' :: ' ' :: (writeAt layout level value ++ (close ++ '}' :: tail)))
    rw [htext, readMembers, skipGap_append hgap, skipGap_cons (c := '"') rfl]
    simp [hbody, skipGap_cons (c := ':') rfl, hread, skipGap_append hclose,
      skipGap_cons (c := '}') rfl]
  | cons next more ih =>
    obtain ⟨fuel, rfl⟩ : ∃ n, fuel = n + 2 := ⟨fuel - 2, by omega⟩
    obtain ⟨nextKey, nextValue⟩ := next
    obtain ⟨gap', hgap', hdivide⟩ := divide_eq layout level
    have hmembers : writeMembers layout level ((nextKey, nextValue) :: more) ++
        (close ++ '}' :: tail) = ',' :: (gap' ++ (writeText layout nextKey ++ (':' :: ' ' ::
          (writeAt layout level nextValue ++
            (writeMembers layout level more ++ (close ++ '}' :: tail)))))) := by
      simp [writeMembers, hdivide]
    have hlength : (writeAt layout level nextValue).length +
        (writeMembers layout level more).length + 1 ≤
        (writeMembers layout level ((nextKey, nextValue) :: more)).length := by
      simp only [writeMembers, hdivide, List.length_append, List.length_cons]
      omega
    have hrest : readMembers limit (fuel + 1) (gap' ++ (writeText layout nextKey ++ (':' :: ' ' ::
        (writeAt layout level nextValue ++
          (writeMembers layout level more ++ (close ++ '}' :: tail)))))) =
        some ((nextKey, nextValue) :: more, tail) :=
      ih (fun m hm => hall m (List.mem_cons_of_mem _ hm)) hgap' (by omega)
        (hall (nextKey, nextValue) (by simp))
    rw [hmembers]
    generalize gap' ++ (writeText layout nextKey ++ _) = after at hrest ⊢
    have hread := hvalue level fuel (',' :: after) (by omega) (ends_cons.mpr (by decide))
    rw [← readValue_append hspace, List.singleton_append] at hread
    obtain ⟨body, htext, hbody⟩ := readText_writeText layout key
      (':' :: ' ' :: (writeAt layout level value ++ ',' :: after))
    rw [htext, readMembers, skipGap_append hgap, skipGap_cons (c := '"') rfl]
    simp [hbody, skipGap_cons (c := ':') rfl, hread, skipGap_cons (c := ',') rfl, hrest]

theorem readsBack_arr {items : List Json} (hall : ∀ v ∈ items, ReadsBack limit layout v) :
    ReadsBack limit layout (.arr items) := by
  intro level fuel rest hfuel _
  cases items with
  | nil => simp [writeAt, readValue, skipGap_cons, isGap]
  | cons item more =>
    have htext : writeAt layout level (.arr (item :: more)) ++ rest =
        '[' :: (lineBreak layout (level + 1) ++ (writeAt layout (level + 1) item ++
          (writeItems layout (level + 1) more ++ (lineBreak layout level ++ ']' :: rest)))) := by
      simp [writeAt]
    have hlength : (writeAt layout (level + 1) item).length +
        (writeItems layout (level + 1) more).length + 2 ≤ fuel := by
      simp only [writeAt, List.length_append, List.length_cons] at hfuel
      omega
    have hitems := readItems_writeItems hall (blank_lineBreak layout (level + 1))
      (blank_lineBreak layout level) rest hlength
    rw [htext, readValue_bracket hitems]

theorem readsBack_obj {members : Dict Json} (hkeys : members.keys.Nodup)
    (hall : ∀ m ∈ members, ReadsBack limit layout m.2) : ReadsBack limit layout (.obj members) := by
  intro level fuel rest hfuel _
  cases members with
  | nil => simp [writeAt, readValue, skipGap_cons, isGap]
  | cons m more =>
    obtain ⟨key, value⟩ := m
    have htext : writeAt layout level (.obj ((key, value) :: more)) ++ rest =
        '{' :: (lineBreak layout (level + 1) ++ (writeText layout key ++ (':' :: ' ' ::
          (writeAt layout (level + 1) value ++ (writeMembers layout (level + 1) more ++
            (lineBreak layout level ++ '}' :: rest)))))) := by
      simp [writeAt]
    have hlength : (writeAt layout (level + 1) value).length +
        (writeMembers layout (level + 1) more).length + 2 ≤ fuel := by
      simp only [writeAt, List.length_append, List.length_cons] at hfuel
      omega
    have hmembers := readMembers_writeMembers hall (blank_lineBreak layout (level + 1))
      (blank_lineBreak layout level) rest hlength
    rw [htext, readValue_brace hmembers, Dict.ofList_of_nodup hkeys]

end Containers

/-- Values that their text tells in full: there are no decimals and no key comes twice in an object.
Integers have no more digits than the limit, where there is one. -/
inductive Exact (limit : Option Nat) : Json → Prop where
  | null : Exact limit .null
  | bool (b : Bool) : Exact limit (.bool b)
  | int {n : Int} (h : Fits limit n.natAbs) : Exact limit (.int n)
  | str (s : String) : Exact limit (.str s)
  | arr {items : List Json} (h : ∀ v ∈ items, Exact limit v) : Exact limit (.arr items)
  | obj {members : Dict Json} (hkeys : members.keys.Nodup)
      (h : ∀ m ∈ members, Exact limit m.2) : Exact limit (.obj members)

theorem Exact.readsBack {limit : Option Nat} {v : Json} (h : Exact limit v) (layout : Layout) :
    ReadsBack limit layout v := by
  induction h with
  | null => exact readsBack_null limit layout
  | bool b => exact readsBack_bool limit layout b
  | int hn => exact readsBack_int limit layout hn
  | str s => exact readsBack_str limit layout s
  | arr _ ih => exact readsBack_arr ih
  | obj hkeys _ ih => exact readsBack_obj hkeys ih

/-- Such a value is decoded from its text in every layout, also with blanks behind it. -/
theorem Exact.decode?_writeAt {limit : Option Nat} {v : Json} (h : Exact limit v) (layout : Layout)
    {blanks : List Char} (hblanks : Blank blanks) :
    decode? limit (String.ofList (writeAt layout 0 v ++ blanks)) = some v := by
  have hend : Ends blanks := by
    rw [← List.append_nil blanks]
    exact hblanks.ends_append ends_nil
  have hskip : skipGap blanks = [] := by
    rw [← List.append_nil blanks, skipGap_append hblanks]
    rfl
  have hread : readValue limit (2 * (writeAt layout 0 v ++ blanks).length + 2)
      (writeAt layout 0 v ++ blanks) = some (v, blanks) := by
    refine h.readsBack layout 0 _ blanks ?_ hend
    rw [List.length_append]
    omega
  simp only [decode?, String.toList_ofList, hread, hskip, List.isEmpty_nil, if_true]

end Canopy.Json
