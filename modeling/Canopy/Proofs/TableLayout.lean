import Canopy.Ast.Table
import Canopy.Proofs.Dict
import Canopy.Proofs.JsonAtoms
import Canopy.Proofs.Trimming
import Mathlib.Data.List.Forall2
import Mathlib.Order.Bounds.Basic

namespace Canopy

namespace Ast

/-- A text with its line feeds spelled out. -/
inductive Spelled : List Char → List Char → Prop where
  | nil : Spelled [] []
  | lineFeed {cs ds : List Char} (h : Spelled cs ds) : Spelled ('\n' :: cs) ('\\' :: 'n' :: ds)
  | other {c : Char} {cs ds : List Char} (hc : c ≠ '\n') (h : Spelled cs ds) :
    Spelled (c :: cs) (c :: ds)

/-- What a cell shows of a text: all of it, or the first thirty-seven characters and three points
if there are more than forty. -/
inductive ShowsText (text : List Char) : List Char → Prop where
  | whole {ds : List Char} (spelled : Spelled text ds) (short : ds.length ≤ 40) : ShowsText text ds
  | cut {ds : List Char} (spelled : Spelled text ds) (long : 40 < ds.length) :
    ShowsText text (ds.take 37 ++ ['.', '.', '.'])

/-- What a cell shows of a value: a hyphen for an absent one, texts, and the digits of numbers. -/
inductive Shows : Json → List Char → Prop where
  | absent : Shows .null ['-']
  | text {s : String} {ds : List Char} (h : ShowsText s.toList ds) : Shows (.str s) ds
  | number {n : Nat} {ds : List Char} (h : ShowsText (Nat.toDigits 10 n) ds) :
    Shows (Json.nat n) ds

namespace Spelled

variable {cs ds : List Char}

theorem newline_not_mem (h : Spelled cs ds) : '\n' ∉ ds := by
  induction h with
  | nil => simp
  | lineFeed h ih => simp [ih]
  | other hc h ih => simp [ih, Ne.symm hc]

theorem eq_of_newline_not_mem (h : Spelled cs ds) (hline : '\n' ∉ cs) : ds = cs := by
  induction h with
  | nil => rfl
  | lineFeed h ih => exact absurd List.mem_cons_self hline
  | other hc h ih => rw [ih fun hmem => hline (List.mem_cons_of_mem _ hmem)]

end Spelled

theorem spelled_flatMap (cs : List Char) :
    Spelled cs (cs.flatMap fun c => if c = '\n' then ['\\', 'n'] else [c]) := by
  induction cs with
  | nil => exact .nil
  | cons c cs ih =>
    rw [List.flatMap_cons]
    split_ifs with hc
    · rw [hc]
      exact .lineFeed ih
    · exact .other hc ih

/-- What a cell may be, whatever it shows. -/
def IsCell (c : String) : Prop := c.length ≤ 40 ∧ '\n' ∉ c.toList

namespace ShowsText

variable {text ds : List Char}

theorem length_le (h : ShowsText text ds) : ds.length ≤ 40 := by
  cases h with
  | whole spelled short => exact short
  | cut spelled long =>
    rw [List.length_append, List.length_take]
    simp

theorem newline_not_mem (h : ShowsText text ds) : '\n' ∉ ds := by
  cases h with
  | whole spelled short => exact spelled.newline_not_mem
  | cut spelled long =>
    rw [List.mem_append, not_or]
    exact ⟨fun hmem => spelled.newline_not_mem (List.mem_of_mem_take hmem), by decide⟩

/-- A text that is cut ends in points. -/
theorem endsVisibly (h : ShowsText text ds) (hline : '\n' ∉ text)
    (hend : Text.EndsVisibly text) : Text.EndsVisibly ds := by
  cases h with
  | whole spelled short => rwa [spelled.eq_of_newline_not_mem hline]
  | cut spelled long => exact Text.EndsVisibly.append ⟨'.', rfl, by decide⟩ _

end ShowsText

theorem showsText_cellText (text : String) : ShowsText text.toList (cellText text).toList := by
  have hspelled := spelled_flatMap text.toList
  unfold cellText
  dsimp only
  split_ifs with hlong
  · rw [String.toList_ofList]
    exact .cut hspelled hlong
  · rw [String.toList_ofList]
    exact .whole hspelled (Nat.le_of_not_gt hlong)

theorem showsText_cell_nat (n : Nat) :
    ShowsText (Nat.toDigits 10 n) (cell (Json.nat n)).toList := by
  have hdigits : (toString (n : Int)).toList = Nat.toDigits 10 n := Json.toList_toString_ofNat n
  rw [← hdigits]
  exact showsText_cellText (toString (n : Int))

/-- Records hold numbers and texts, and nothing for the parent of a root. -/
theorem shows_cell_record (n : Node) : ∀ m ∈ n.record, Shows m.2 (cell m.2).toList := by
  have htext : ∀ s, Shows (.str s) (cell (.str s)).toList := fun s => .text (showsText_cellText s)
  have hnat : ∀ k, Shows (Json.nat k) (cell (Json.nat k)).toList :=
    fun k => .number (showsText_cell_nat k)
  have hup : Shows (Json.ofOption Json.nat n.parent)
      (cell (Json.ofOption Json.nat n.parent)).toList := by
    cases n.parent with
    | none => exact .absent
    | some up => exact hnat up
  simp only [Node.record, List.forall_mem_cons, List.not_mem_nil, false_implies, implies_true,
    and_true]
  exact ⟨hnat _, hup, htext _, htext _, htext _, htext _, hnat _, hnat _⟩

theorem shows_cell_column (n : Node) : ∀ column ∈ Node.columns,
    Shows (n.record.getD column .null) (cell (n.record.getD column .null)).toList := by
  intro column hcolumn
  have hkeys : n.record.keys = Node.columns := rfl
  rw [← hkeys, Dict.mem_keys, Option.isSome_iff_exists] at hcolumn
  obtain ⟨v, hv⟩ := hcolumn
  rw [Dict.getD, hv, Option.getD_some]
  exact shows_cell_record n _ (Dict.mem_of_get? hv)

theorem Shows.isCell {v : Json} {c : String} (h : Shows v c.toList) : IsCell c := by
  rw [IsCell, ← String.length_toList]
  generalize c.toList = ds at h
  cases h with
  | absent => exact ⟨by decide, by decide⟩
  | text h => exact ⟨h.length_le, h.newline_not_mem⟩
  | number h => exact ⟨h.length_le, h.newline_not_mem⟩

theorem isBlank_of_isDigit {c : Char} (h : Json.isDigit c = true) : Text.isBlank c = false := by
  have hrange : 48 ≤ c.toNat ∧ c.toNat ≤ 57 := by
    simpa [Json.isDigit, Char.le_def, UInt32.le_iff_toNat_le] using h
  simp only [Text.isBlank, Text.isWhite, Text.inRanges, Text.whiteRanges, List.any_cons,
    List.any_nil, Bool.or_false, Bool.or_eq_false_iff, Bool.and_eq_false_iff,
    decide_eq_false_iff_not]
  omega

/-- Numbers are shown by their digits, and digits are no blanks. -/
theorem endsVisibly_cell_nat (n : Nat) : Text.EndsVisibly (cell (Json.nat n)).toList := by
  have hdigit : ∀ c ∈ Nat.toDigits 10 n, Json.isDigit c = true := fun c => Json.isDigit_toDigits
  have hne : Nat.toDigits 10 n ≠ [] := Nat.toDigits_ne_nil
  have hline : '\n' ∉ Nat.toDigits 10 n := fun hmem => absurd (hdigit _ hmem) (by decide)
  apply (showsText_cell_nat n).endsVisibly hline
  exact ⟨_, List.getLast?_eq_some_getLast hne,
    isBlank_of_isDigit (hdigit _ (List.getLast_mem hne))⟩

/-- Where a column begins: behind the columns before it, each with two blanks. -/
def offset : List Nat → Nat → Nat
  | w :: ws, j + 1 => w + 2 + offset ws j
  | _, _ => 0

theorem offset_zero (ws : List Nat) : offset ws 0 = 0 := by
  cases ws <;> rfl

/-- A line shows its row in columns: each cell stands where its column begins, blanks fill the space
up to the next column, and the line ends with the last cell. -/
structure Aligned (ws : List Nat) (row : List String) (text : List Char) : Prop where
  cell_at : ∀ j c, row[j]? = some c → (text.drop (offset ws j)).take c.length = c.toList
  gap : ∀ j c, row[j]? = some c → j + 1 < row.length →
    ∀ k, offset ws j + c.length ≤ k → k < offset ws (j + 1) → text[k]? = some ' '
  last : ∀ c, row.getLast? = some c → text.length = offset ws (row.length - 1) + c.length

/-- A line as it is put together, cell by cell. The last cell is not padded. -/
inductive Laid : List Nat → List String → List Char → Prop where
  | last (w : Nat) (c : String) : Laid [w] [c] c.toList
  | next {w : Nat} {c : String} {ws : List Nat} {row : List String} {line : List Char}
    (fits : c.length ≤ w) (rest : Laid ws row line) :
    Laid (w :: ws) (c :: row) (padTo w c ++ [' ', ' '] ++ line)

namespace Laid

variable {ws : List Nat} {row : List String} {line : List Char}

theorem row_ne_nil (h : Laid ws row line) : row ≠ [] := by
  cases h <;> simp

theorem aligned_next {w : Nat} {c : String} (hfits : c.length ≤ w) (hne : row ≠ [])
    (h : Aligned ws row line) : Aligned (w :: ws) (c :: row) (padTo w c ++ [' ', ' '] ++ line) := by
  have hpadded : padTo w c ++ [' ', ' '] = c.toList ++ List.replicate (w - c.length + 2) ' ' := by
    simp [padTo, List.replicate_add]
  rw [hpadded]
  have hlength : (c.toList ++ List.replicate (w - c.length + 2) ' ').length = w + 2 := by
    rw [List.length_append, String.length_toList, List.length_replicate]
    omega
  have hrow : 0 < row.length := List.length_pos_iff.mpr hne
  refine ⟨?_, ?_, ?_⟩
  · intro j d hd
    cases j with
    | zero =>
      obtain rfl : c = d := by simpa using hd
      rw [offset_zero, List.drop_zero, List.append_assoc]
      exact List.take_left' String.length_toList
    | succ j =>
      rw [offset, ← hlength, List.drop_length_add_append]
      exact h.cell_at j d hd
  · intro j d hd hj k hfrom hto
    cases j with
    | zero =>
      obtain rfl : c = d := by simpa using hd
      rw [offset_zero] at hfrom
      rw [offset, offset_zero] at hto
      rw [List.getElem?_append_left (by omega),
        List.getElem?_append_right (by rw [String.length_toList]; omega),
        List.getElem?_replicate_of_lt (by rw [String.length_toList]; omega)]
    | succ j =>
      rw [offset] at hfrom hto
      rw [List.getElem?_append_right (by omega), hlength]
      exact h.gap j d hd (by simpa using hj) _ (by omega) (by omega)
  · intro d hd
    rw [List.getLast?_cons_of_ne_nil hne] at hd
    have hlast := h.last d hd
    obtain ⟨n, hn⟩ : ∃ n, row.length = n + 1 := ⟨row.length - 1, by omega⟩
    rw [hn, Nat.add_sub_cancel] at hlast
    rw [List.length_append, hlength, hlast, List.length_cons, Nat.add_sub_cancel, hn, offset]
    omega

theorem aligned (h : Laid ws row line) : Aligned ws row line := by
  induction h with
  | last w c =>
    refine ⟨?_, ?_, ?_⟩
    · intro j d hd
      cases j with
      | zero =>
        obtain rfl : c = d := by simpa using hd
        rw [offset_zero, List.drop_zero]
        exact List.take_of_length_le (le_of_eq String.length_toList)
      | succ j => simp at hd
    · intro j d hd hj
      simp at hj
    · intro d hd
      obtain rfl : c = d := by simpa using hd
      rw [String.length_toList, List.length_singleton, Nat.sub_self, offset_zero, Nat.zero_add]
  | next fits rest ih => exact aligned_next fits rest.row_ne_nil ih

/-- All there is in a line are the cells and blanks. -/
theorem mem_line (h : Laid ws row line) {x : Char} (hx : x ∈ line) :
    x = ' ' ∨ ∃ c ∈ row, x ∈ c.toList := by
  induction h with
  | last w c => exact .inr ⟨c, List.mem_cons_self, hx⟩
  | @next w c ws row line fits rest ih =>
    rw [padTo, List.append_assoc, List.append_assoc, List.mem_append, List.mem_append,
      List.mem_append] at hx
    rcases hx with hcell | hpad | hgap | hline
    · exact .inr ⟨c, List.mem_cons_self, hcell⟩
    · exact .inl (List.eq_of_mem_replicate hpad)
    · exact .inl (List.eq_of_mem_replicate (n := 2) hgap)
    · exact (ih hline).imp_right fun ⟨d, hd, hmem⟩ => ⟨d, List.mem_cons_of_mem c hd, hmem⟩

theorem endsVisibly (h : Laid ws row line)
    (hlast : ∀ c, row.getLast? = some c → Text.EndsVisibly c.toList) : Text.EndsVisibly line := by
  induction h with
  | last w c => exact hlast c rfl
  | next fits rest ih =>
    apply Text.EndsVisibly.append
    apply ih
    intro c hc
    exact hlast c (by rwa [List.getLast?_cons_of_ne_nil rest.row_ne_nil])

end Laid

/-- Padding all cells gives the line, and the padding of the last cell behind it. -/
theorem exists_laid {ws : List Nat} {row : List String}
    (hfits : List.Forall₂ (fun c w => c.length ≤ w) row ws) (hne : row ≠ []) :
    ∃ line n, Laid ws row line ∧
      List.intercalate [' ', ' '] ((row.zip ws).map fun (cell, width) => padTo width cell) =
        line ++ List.replicate n ' ' := by
  induction hfits with
  | nil => exact absurd rfl hne
  | @cons c w row ws hfit hrest ih =>
    cases hrest with
    | nil => exact ⟨c.toList, w - c.length, .last w c, by simp [padTo]⟩
    | @cons d v row ws hfit' hrest' =>
      obtain ⟨line, n, hlaid, hline⟩ := ih (by simp)
      refine ⟨_, n, .next hfit hlaid, ?_⟩
      rw [List.append_assoc, ← hline]
      simp [List.intercalate_cons_cons]

/-- The blanks that are cut off a line are the padding of its last cell, if that cell does not end
in blanks of its own. -/
theorem laid_rowLine {ws : List Nat} {row : List String}
    (hfits : List.Forall₂ (fun c w => c.length ≤ w) row ws) (hne : row ≠ [])
    (hlast : ∀ c, row.getLast? = some c → Text.EndsVisibly c.toList) :
    Laid ws row (rowLine ws row) := by
  obtain ⟨line, n, hlaid, hline⟩ := exists_laid hfits hne
  have hspaces : ∀ c ∈ List.replicate n ' ', Text.isBlank c = true := by
    intro c hc
    rw [List.eq_of_mem_replicate hc]
    decide
  rw [rowLine, hline, Text.dropEndWhile_append hspaces (hlaid.endsVisibly hlast)]
  exact hlaid

/-- The greatest length of a cell in a column. -/
def IsWidth (table : List (List String)) (j w : Nat) : Prop :=
  IsGreatest {n | ∃ row ∈ table, ∃ c, row[j]? = some c ∧ c.length = n} w

theorem isGreatest_foldl_max {β : Type} (f : β → Nat) (start : Nat) (l : List β) :
    IsGreatest {n | n = start ∨ ∃ x ∈ l, f x = n} (l.foldl (fun w x => max w (f x)) start) := by
  induction l generalizing start with
  | nil => simp [IsGreatest]
  | cons x l ih =>
    obtain ⟨hmem, hupper⟩ := ih (max start (f x))
    rw [List.foldl_cons]
    generalize l.foldl (fun w x => max w (f x)) (max start (f x)) = w at hmem hupper
    have hstart : max start (f x) ≤ w := hupper (.inl rfl)
    constructor
    · rcases hmem with heq | ⟨y, hy, heq⟩
      · rcases Nat.le_total start (f x) with hle | hle
        · exact .inr ⟨x, List.mem_cons_self, by rw [heq, Nat.max_eq_right hle]⟩
        · exact .inl (by rw [heq, Nat.max_eq_left hle])
      · exact .inr ⟨y, List.mem_cons_of_mem x hy, heq⟩
    · rintro n (rfl | ⟨y, hy, rfl⟩)
      · exact (le_max_left _ _).trans hstart
      · rcases List.mem_cons.mp hy with rfl | hy
        · exact (le_max_right _ _).trans hstart
        · exact hupper (.inr ⟨y, hy, rfl⟩)

/-- A row shows what the record has under each heading. -/
theorem cells_eq (n : Node) :
    cells n = Node.columns.map fun column => cell (n.record.getD column .null) := by
  simp [cells, Node.record, Node.columns, Dict.getD, Dict.get?]

theorem length_of_mem_rows {a : Ast} {row : List String} (h : row ∈ a.rows) :
    row.length = Node.columns.length := by
  rcases List.mem_cons.mp h with rfl | h
  · rfl
  · obtain ⟨n, -, rfl⟩ := List.mem_map.mp h
    rfl

theorem isCell_of_mem_rows {a : Ast} {row : List String} (h : row ∈ a.rows) {c : String}
    (hc : c ∈ row) : IsCell c := by
  rcases List.mem_cons.mp h with rfl | h
  · have hcolumns : ∀ c ∈ Node.columns, c.length ≤ 40 ∧ '\n' ∉ c.toList := by decide
    exact hcolumns c hc
  · obtain ⟨n, -, rfl⟩ := List.mem_map.mp h
    obtain ⟨m, hm, rfl⟩ := List.mem_map.mp hc
    exact (shows_cell_record n m hm).isCell

/-- The last column is that of a number. -/
theorem endsVisibly_of_mem_rows {a : Ast} {row : List String} (h : row ∈ a.rows) {c : String}
    (hc : row.getLast? = some c) : Text.EndsVisibly c.toList := by
  rcases List.mem_cons.mp h with rfl | h
  · obtain rfl : "end_byte" = c := Option.some.inj hc
    exact ⟨'e', by decide, by decide⟩
  · obtain ⟨n, -, rfl⟩ := List.mem_map.mp h
    obtain rfl : cell (Json.nat n.endByte) = c := Option.some.inj hc
    exact endsVisibly_cell_nat n.endByte

theorem isWidth_widths (a : Ast) {j w : Nat} (h : (widths a.rows)[j]? = some w) :
    IsWidth a.rows j w := by
  rw [widths, List.getElem?_map, Option.map_eq_some_iff] at h
  obtain ⟨i, hi, hw⟩ := h
  obtain ⟨hj, rfl⟩ : j < Node.columns.length ∧ j = i := by
    simpa [List.getElem?_eq_some_iff] using hi
  have hcell : ∀ row ∈ a.rows, ∀ n, (∃ c, row[j]? = some c ∧ c.length = n) ↔
      ((row[j]?).getD "").length = n := by
    intro row hrow n
    rw [List.getElem?_eq_getElem (by rwa [length_of_mem_rows hrow])]
    simp
  have hset : {n | ∃ row ∈ a.rows, ∃ c, row[j]? = some c ∧ c.length = n} =
      {n | n = ((Node.columns[j]?).getD "").length ∨
        ∃ row ∈ a.nodes.map cells, ((row[j]?).getD "").length = n} := by
    ext n
    constructor
    · rintro ⟨row, hrow, hc⟩
      rw [hcell row hrow] at hc
      rcases List.mem_cons.mp hrow with rfl | hrow
      · exact .inl hc.symm
      · exact .inr ⟨row, hrow, hc⟩
    · rintro (rfl | ⟨row, hrow, hc⟩)
      · exact ⟨_, List.mem_cons_self, (hcell _ List.mem_cons_self _).mpr rfl⟩
      · exact ⟨row, List.mem_cons_of_mem _ hrow,
          (hcell row (List.mem_cons_of_mem _ hrow) n).mpr hc⟩
  have hgreatest := isGreatest_foldl_max (fun row : List String => ((row[j]?).getD "").length)
    ((Node.columns[j]?).getD "").length (a.nodes.map cells)
  rw [IsWidth, hset, ← hw, rows, List.foldl_cons, Nat.zero_max]
  exact hgreatest

theorem fits_widths {a : Ast} {row : List String} (h : row ∈ a.rows) :
    List.Forall₂ (fun c w => c.length ≤ w) row (widths a.rows) := by
  rw [List.forall₂_iff_get]
  refine ⟨?_, ?_⟩
  · simp [length_of_mem_rows h, widths]
  · intro j hrow hwidth
    have hj : (widths a.rows)[j]? = some ((widths a.rows).get ⟨j, hwidth⟩) :=
      List.getElem?_eq_getElem hwidth
    exact (isWidth_widths a hj).2 ⟨row, h, _, List.getElem?_eq_getElem hrow, rfl⟩

theorem laid_of_mem_rows {a : Ast} {row : List String} (h : row ∈ a.rows) :
    Laid (widths a.rows) row (rowLine (widths a.rows) row) := by
  have hne : row ≠ [] := by
    rw [← List.length_pos_iff, length_of_mem_rows h]
    decide
  exact laid_rowLine (fits_widths h) hne fun c => endsVisibly_of_mem_rows h

theorem newline_not_mem_rowLine {a : Ast} {row : List String} (h : row ∈ a.rows) :
    '\n' ∉ rowLine (widths a.rows) row := by
  intro hmem
  rcases (laid_of_mem_rows h).mem_line hmem with hblank | ⟨c, hc, hcell⟩
  · exact absurd hblank (by decide)
  · exact (isCell_of_mem_rows h hc).2 hcell

theorem count_newline {lines : List (List Char)} (h : ∀ line ∈ lines, '\n' ∉ line) :
    (lines.flatMap (· ++ ['\n'])).count '\n' = lines.length := by
  induction lines with
  | nil => rfl
  | cons line lines ih =>
    rw [List.forall_mem_cons] at h
    rw [List.flatMap_cons, List.count_append, List.count_append, ih h.2,
      List.count_eq_zero.mpr h.1, List.length_cons, List.count_singleton_self]
    omega

/-- A table has a heading and then one line for each node, each ended by the only line feed in it.
The columns begin where the greatest cells before them leave off, two blanks further, so every cell
can be read off its line, the last one up to the end. No text in a node can break this: a cell shows its
value, line feeds spelled out, in forty characters at most, and no line feed is among them. -/
theorem toTable_aligns_columns (a : Ast) :
    let table := Node.columns ::
      a.nodes.map fun n => Node.columns.map fun column => cell (n.record.getD column .null)
    ∃ (ws : List Nat) (lines : List (List Char)),
      ws.length = Node.columns.length ∧ (∀ j w, ws[j]? = some w → IsWidth table j w) ∧
      a.toTable.toList = lines.flatMap (· ++ ['\n']) ∧
      a.toTable.toList.count '\n' = a.nodes.length + 1 ∧
      (∀ line ∈ lines, '\n' ∉ line) ∧ List.Forall₂ (Aligned ws) table lines ∧
      (∀ row ∈ table, ∀ c ∈ row, c.length ≤ 40 ∧ '\n' ∉ c.toList) ∧
      ∀ n ∈ a.nodes, ∀ column ∈ Node.columns,
        Shows (n.record.getD column .null) (cell (n.record.getD column .null)).toList := by
  have htable : a.rows = Node.columns :: a.nodes.map fun n =>
      Node.columns.map fun column => cell (n.record.getD column .null) := by
    rw [rows, funext cells_eq]
  rw [← htable]
  have htext : a.toTable.toList =
      (a.rows.map (rowLine (widths a.rows))).flatMap (· ++ ['\n']) := by
    rw [toTable, String.toList_ofList, List.flatMap_map]
  have hnewline : ∀ line ∈ a.rows.map (rowLine (widths a.rows)), '\n' ∉ line := by
    rw [List.forall_mem_map]
    exact fun row => newline_not_mem_rowLine
  refine ⟨widths a.rows, a.rows.map (rowLine (widths a.rows)), by simp [widths],
    fun _ _ => isWidth_widths a, htext, ?_, hnewline, ?_, fun _ hrow _ => isCell_of_mem_rows hrow,
    fun n _ => shows_cell_column n⟩
  · rw [htext, count_newline hnewline]
    simp [rows]
  · rw [List.forall₂_map_right_iff, List.forall₂_same]
    exact fun row hrow => (laid_of_mem_rows hrow).aligned

end Ast
end Canopy
