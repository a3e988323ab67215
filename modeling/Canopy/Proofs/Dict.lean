import Canopy.Dict
import Mathlib.Data.List.Nodup
import Mathlib.Data.List.Perm.Basic

namespace Canopy.Dict

variable {α : Type}

theorem get?_nil (key : String) : get? ([] : Dict α) key = none := rfl

theorem get?_cons (k : String) (v : α) (d : Dict α) (key : String) :
    get? ((k, v) :: d) key = if k = key then some v else get? d key := rfl

theorem keys_cons (k : String) (v : α) (d : Dict α) : keys ((k, v) :: d) = k :: keys d := rfl

theorem mem_keys {d : Dict α} {key : String} : key ∈ keys d ↔ (get? d key).isSome := by
  induction d with
  | nil => simp [keys, get?_nil]
  | cons e d ih =>
    obtain ⟨k, v⟩ := e
    rw [keys_cons, List.mem_cons, ih, get?_cons]
    by_cases h : k = key
    · simp [h]
    · simp [h, Ne.symm h]

theorem contains_eq_true {d : Dict α} {key : String} :
    contains d key = true ↔ ∃ v, get? d key = some v :=
  Option.isSome_iff_exists

theorem contains_eq_false {d : Dict α} {key : String} :
    contains d key = false ↔ get? d key = none := by
  rw [contains, Option.isSome_eq_false_iff, Option.isNone_iff_eq_none]

theorem mem_of_get? {d : Dict α} {key : String} {v : α} (h : get? d key = some v) :
    (key, v) ∈ d := by
  induction d with
  | nil => simp [get?_nil] at h
  | cons e d ih =>
    obtain ⟨k, w⟩ := e
    rw [get?_cons] at h
    split_ifs at h with hk
    · rw [hk, Option.some.inj h]
      exact List.mem_cons_self
    · exact List.mem_cons_of_mem _ (ih h)

/-- Where no key comes twice, looking up a key finds the one binding it has. -/
theorem get?_eq_some {d : Dict α} (hd : (keys d).Nodup) {key : String} {v : α} :
    get? d key = some v ↔ (key, v) ∈ d := by
  induction d with
  | nil => simp [get?_nil]
  | cons e d ih =>
    obtain ⟨k, w⟩ := e
    rw [keys_cons, List.nodup_cons] at hd
    rw [get?_cons, List.mem_cons, Prod.mk.injEq]
    by_cases h : k = key
    · subst h
      have hnot : (k, v) ∉ d := fun hmem => hd.1 (List.mem_map_of_mem hmem)
      simp [hnot, eq_comm]
    · rw [if_neg h, ih hd.2]
      simp [Ne.symm h]

theorem get?_insert (d : Dict α) (k : String) (v : α) (key : String) :
    get? (insert d k v) key = if k = key then some v else get? d key := by
  induction d with
  | nil => rw [insert, get?_cons]
  | cons e d ih =>
    obtain ⟨k', w⟩ := e
    rw [insert]
    by_cases h : k' = k
    · subst h
      rw [if_pos rfl, get?_cons, get?_cons]
      split_ifs <;> rfl
    · rw [if_neg h, get?_cons, get?_cons, ih]
      by_cases hk : k = key
      · rw [if_neg (fun h' => h (h'.trans hk.symm)), if_pos hk, if_pos hk]
      · rw [if_neg hk, if_neg hk]

/-- Binding a key to the value it has changes nothing. -/
theorem insert_of_get? {d : Dict α} {key : String} {v : α} (h : get? d key = some v) :
    insert d key v = d := by
  induction d with
  | nil => simp [get?_nil] at h
  | cons e d ih =>
    obtain ⟨k, w⟩ := e
    rw [get?_cons] at h
    rw [insert]
    split_ifs at h with hk
    · rw [if_pos hk, ← hk, Option.some.inj h]
    · rw [if_neg hk, ih h]

theorem mem_keys_insert {d : Dict α} {k : String} {v : α} {key : String} :
    key ∈ keys (insert d k v) ↔ key = k ∨ key ∈ keys d := by
  rw [mem_keys, mem_keys, get?_insert]
  by_cases h : k = key
  · simp [h]
  · simp [h, Ne.symm h]

theorem nodup_keys_insert {d : Dict α} (hd : (keys d).Nodup) (k : String) (v : α) :
    (keys (insert d k v)).Nodup := by
  induction d with
  | nil => simp [insert, keys]
  | cons e d ih =>
    obtain ⟨k', w⟩ := e
    rw [keys_cons, List.nodup_cons] at hd
    rw [insert]
    by_cases h : k' = k
    · subst h
      rw [if_pos rfl, keys_cons, List.nodup_cons]
      exact hd
    · rw [if_neg h, keys_cons, List.nodup_cons, mem_keys_insert, not_or]
      exact ⟨⟨h, hd.1⟩, ih hd.2⟩

theorem nodup_keys_filter {d : Dict α} (hd : (keys d).Nodup) (p : String × α → Bool) :
    (keys (d.filter p)).Nodup :=
  hd.sublist (List.filter_sublist.map _)

theorem get?_filter {d : Dict α} (hd : (keys d).Nodup) (p : String × α → Bool) {key : String}
    {v : α} : get? (d.filter p) key = some v ↔ get? d key = some v ∧ p (key, v) = true := by
  rw [get?_eq_some (nodup_keys_filter hd p), get?_eq_some hd, List.mem_filter]

theorem get?_erase (d : Dict α) (k key : String) :
    get? (erase d k) key = if k = key then none else get? d key := by
  induction d with
  | nil => simp [erase, get?_nil]
  | cons e d ih =>
    obtain ⟨k', w⟩ := e
    rw [erase] at ih ⊢
    by_cases h : k' = k
    · subst h
      rw [List.filter_cons_of_neg (by simp), ih, get?_cons]
      split_ifs <;> rfl
    · rw [List.filter_cons_of_pos (by simpa using h), get?_cons, get?_cons, ih]
      by_cases hk : k = key
      · rw [if_pos hk, if_pos hk, if_neg (fun h' => h (h'.trans hk.symm))]
      · rw [if_neg hk, if_neg hk]

/-- All of some keys are bound to one value. -/
theorem get?_merge_const (d : Dict α) (ks : List String) (v : α) (key : String) :
    get? (merge d (ks.map fun k => (k, v))) key = if key ∈ ks then some v else get? d key := by
  induction ks generalizing d with
  | nil => simp [merge]
  | cons k ks ih =>
    have hstep : merge d ((k :: ks).map fun k => (k, v)) =
        merge (insert d k v) (ks.map fun k => (k, v)) := rfl
    rw [hstep, ih, get?_insert]
    by_cases hks : key ∈ ks
    · simp [hks]
    · by_cases hk : k = key
      · simp [hk]
      · simp [hks, hk, Ne.symm hk]

theorem nodup_keys_merge {d : Dict α} (hd : (keys d).Nodup) (e : Dict α) :
    (keys (merge d e)).Nodup := by
  induction e generalizing d with
  | nil => exact hd
  | cons b e ih => exact ih (nodup_keys_insert hd b.1 b.2)

theorem insert_of_not_mem {d : Dict α} {k : String} (h : k ∉ keys d) (v : α) :
    insert d k v = d ++ [(k, v)] := by
  induction d with
  | nil => rfl
  | cons e d ih =>
    obtain ⟨k', w⟩ := e
    rw [keys_cons, List.mem_cons, not_or] at h
    rw [insert, if_neg (Ne.symm h.1), ih h.2]
    rfl

theorem erase_insert_of_not_mem {d : Dict α} {k : String} (h : k ∉ keys d) (v : α) :
    erase (insert d k v) k = d := by
  have hkept : d.filter (fun e => e.1 ≠ k) = d := by
    rw [List.filter_eq_self]
    intro e he
    simpa using fun heq : e.1 = k => h (heq ▸ List.mem_map_of_mem he)
  rw [insert_of_not_mem h, erase, List.filter_append, hkept]
  simp

/-- A new binding that a filter drops, in the place of one that it drops as well, cannot be told from
none. -/
theorem filter_insert {d : Dict α} {k : String} {v : α} {p : String × α → Bool}
    (hnew : p (k, v) = false) (hold : ∀ w, get? d k = some w → p (k, w) = false) :
    (insert d k v).filter p = d.filter p := by
  induction d with
  | nil => simp [insert, hnew]
  | cons e d ih =>
    obtain ⟨k', w⟩ := e
    simp only [get?_cons] at hold
    rw [insert]
    split_ifs at hold ⊢ with hk
    · subst hk
      rw [List.filter_cons_of_neg (by simp [hnew]), List.filter_cons_of_neg (by simp [hold w rfl])]
    · rw [List.filter_cons, List.filter_cons, ih hold]

theorem filter_merge_const {d : Dict α} {ks : List String} {v : α} {p : String × α → Bool}
    (hnew : ∀ k ∈ ks, p (k, v) = false)
    (hold : ∀ k ∈ ks, ∀ w, get? d k = some w → p (k, w) = false) :
    (merge d (ks.map fun k => (k, v))).filter p = d.filter p := by
  induction ks generalizing d with
  | nil => rfl
  | cons k ks ih =>
    rw [List.forall_mem_cons] at hnew hold
    have hstep : merge d ((k :: ks).map fun k => (k, v)) =
        merge (insert d k v) (ks.map fun k => (k, v)) := rfl
    rw [hstep, ih hnew.2, filter_insert hnew.1 hold.1]
    intro k' hk' w hw
    rw [get?_insert] at hw
    split_ifs at hw
    · rw [← Option.some.inj hw]
      exact hnew.2 k' hk'
    · exact hold.2 k' hk' w hw

theorem merge_of_nodup {d e : Dict α} (h : (keys (d ++ e)).Nodup) : merge d e = d ++ e := by
  induction e generalizing d with
  | nil => exact (List.append_nil d).symm
  | cons b e ih =>
    obtain ⟨k, v⟩ := b
    have hk : k ∉ keys d := by
      simp only [keys, List.map_append, List.map_cons, List.nodup_append] at h
      exact fun hmem => h.2.2 k hmem k List.mem_cons_self rfl
    have hstep : merge d ((k, v) :: e) = merge (insert d k v) e := rfl
    rw [hstep, insert_of_not_mem hk, ih (by simpa using h), List.append_assoc]
    rfl

/-- Bindings with different keys are a dictionary already. -/
theorem ofList_of_nodup {d : Dict α} (h : (keys d).Nodup) : ofList d = d :=
  merge_of_nodup (d := []) h

theorem sorted_perm (d : Dict α) : (sorted d).Perm d := List.mergeSort_perm d _

theorem mem_keys_sorted {d : Dict α} {key : String} : key ∈ keys (sorted d) ↔ key ∈ keys d :=
  ((sorted_perm d).map _).mem_iff

/-- Sorting changes the order of the bindings and nothing else. -/
theorem get?_sorted {d : Dict α} (hd : (keys d).Nodup) (key : String) :
    get? (sorted d) key = get? d key := by
  have hs : (keys (sorted d)).Nodup := ((sorted_perm d).map _).nodup_iff.mpr hd
  ext v
  rw [get?_eq_some hs, get?_eq_some hd, (sorted_perm d).mem_iff]

/-- Dictionaries that bind the same keys to the same values differ only in their order. -/
theorem perm_of_get?_eq {d e : Dict α} (hd : (keys d).Nodup) (he : (keys e).Nodup)
    (h : ∀ key, get? d key = get? e key) : d.Perm e := by
  rw [List.perm_ext_iff_of_nodup hd.of_map he.of_map]
  rintro ⟨key, v⟩
  rw [← get?_eq_some hd, ← get?_eq_some he, h]

theorem sorted_pairwise (d : Dict α) : (sorted d).Pairwise fun a b => a.1 ≤ b.1 := by
  have hsorted : (sorted d).Pairwise fun a b => decide (a.1 ≤ b.1) = true := by
    apply List.pairwise_mergeSort
    · intro a b c hab hbc
      rw [decide_eq_true_eq] at hab hbc ⊢
      exact String.le_trans hab hbc
    · intro a b
      simpa using String.le_total a.1 b.1
  exact hsorted.imp of_decide_eq_true

/-- The order of insertion is lost when the bindings are sorted. -/
theorem sorted_eq_of_perm {d e : Dict α} (hd : (keys d).Nodup) (h : d.Perm e) :
    sorted d = sorted e := by
  have hperm : (sorted d).Perm (sorted e) :=
    (sorted_perm d).trans (h.trans (sorted_perm e).symm)
  refine hperm.eq_of_pairwise ?_ (sorted_pairwise d) (sorted_pairwise e)
  rintro ⟨k, v⟩ ⟨k', w⟩ hv hw hle hge
  obtain rfl : k = k' := String.le_antisymm hle hge
  -- a key is bound once, so both bindings are the same
  have hv' := (get?_eq_some hd).mpr ((sorted_perm d).mem_iff.mp hv)
  have hw' := (get?_eq_some hd).mpr (h.mem_iff.mpr ((sorted_perm e).mem_iff.mp hw))
  rw [Option.some.inj (hv'.symm.trans hw')]

end Canopy.Dict

namespace Canopy

theorem mem_sortTexts {texts : List String} {text : String} :
    text ∈ sortTexts texts ↔ text ∈ texts :=
  (List.mergeSort_perm texts _).mem_iff

theorem sortTexts_pairwise (texts : List String) : (sortTexts texts).Pairwise (· ≤ ·) := by
  have hsorted : (sortTexts texts).Pairwise fun s t => decide (s ≤ t) = true := by
    apply List.pairwise_mergeSort
    · intro s t u hst htu
      rw [decide_eq_true_eq] at hst htu ⊢
      exact String.le_trans hst htu
    · intro s t
      simpa using String.le_total s t
  exact hsorted.imp of_decide_eq_true

theorem sortTexts_eq_of_perm {texts texts' : List String} (h : texts.Perm texts') :
    sortTexts texts = sortTexts texts' := by
  have hperm : (sortTexts texts).Perm (sortTexts texts') :=
    (List.mergeSort_perm texts _).trans (h.trans (List.mergeSort_perm texts' _).symm)
  refine hperm.eq_of_pairwise ?_ (sortTexts_pairwise texts) (sortTexts_pairwise texts')
  intro s t _ _ hst hts
  exact String.le_antisymm hst hts

end Canopy
