import SlideDeck.Proofs.Drawing.PlainText
import SlideDeck.Proofs.Drawing.Shapes

/-!
The cells of drawn tables. A table is drawn on a grid with a row for the header and one for each row
below it, all as wide as the widest of them; each text keeps its place on the grid, and the places
without a text hold an empty paragraph.
-/

namespace SlideDeck.Drawing

open Deck Layout

/-- The member at a row and a column. -/
def cellAt? {α : Type} (rows : List (List α)) (row column : Nat) : Option α :=
  rows[row]?.bind (·[column]?)

/-- The text that belongs in a cell. The header is the first row. -/
def cellText? (t : Table) : (row column : Nat) → Option String
  | 0, column => t.header[column]?
  | row + 1, column => cellAt? t.rows row column

/-- The number of columns of a table: its longest row, but one at least. -/
structure IsWidth (t : Table) (columns : Nat) : Prop where
  pos : 0 < columns
  header_le : t.header.length ≤ columns
  rows_le : ∀ row ∈ t.rows, row.length ≤ columns
  least : columns = 1 ∨ t.header.length = columns ∨ ∃ row ∈ t.rows, row.length = columns

theorem IsWidth.length_le {t : Table} {columns : Nat} (h : IsWidth t columns) :
    ∀ r ∈ t.header :: t.rows, r.length ≤ columns :=
  List.forall_mem_cons.mpr ⟨h.header_le, h.rows_le⟩

theorem foldl_length {α : Type} (rows : List (List α)) (n : Nat) :
    n ≤ rows.foldl (fun n r => max n r.length) n ∧
    (∀ row ∈ rows, row.length ≤ rows.foldl (fun n r => max n r.length) n) ∧
    (rows.foldl (fun n r => max n r.length) n = n ∨
      ∃ row ∈ rows, row.length = rows.foldl (fun n r => max n r.length) n) := by
  induction rows generalizing n with
  | nil => exact ⟨Nat.le_refl n, List.forall_mem_nil _, Or.inl rfl⟩
  | cons row rows ih =>
    obtain ⟨hle, hrows, hleast⟩ := ih (max n row.length)
    rw [List.foldl_cons, List.forall_mem_cons]
    refine ⟨by omega, ⟨by omega, hrows⟩, ?_⟩
    obtain hsame | ⟨r, hr, hlength⟩ := hleast
    · rw [hsame]
      obtain hn | hrow := Nat.le_total row.length n |>.imp Nat.max_eq_left Nat.max_eq_right
      · exact Or.inl hn
      · exact Or.inr ⟨row, List.mem_cons_self, hrow.symm⟩
    · exact Or.inr ⟨r, List.mem_cons_of_mem row hr, hlength⟩

theorem cellAt?_cons (t : Table) (row column : Nat) :
    cellAt? (t.header :: t.rows) row column = cellText? t row column := by
  cases row <;> rfl

theorem cellAt?_eq_some_iff {α : Type} {rows : List (List α)} {row column : Nat} {a : α} :
    cellAt? rows row column = some a ↔ ∃ r, rows[row]? = some r ∧ r[column]? = some a :=
  Option.bind_eq_some_iff

/-- Filling up the rows of a grid moves nothing and adds nothing but the filling. -/
theorem cellAt?_filled {α : Type} {rows : List (List α)} {columns : Nat}
    (h : ∀ r ∈ rows, r.length ≤ columns) (a : α) (row column : Nat) :
    cellAt? (rows.map fun r => r ++ List.replicate (columns - r.length) a) row column =
      if row < rows.length ∧ column < columns then some ((cellAt? rows row column).getD a)
      else none := by
  rw [cellAt?, cellAt?, List.getElem?_map]
  by_cases hrow : row < rows.length
  · have hlength := h rows[row] (List.getElem_mem hrow)
    rw [List.getElem?_eq_getElem hrow, Option.map_some, Option.bind_some, Option.bind_some,
      List.getElem?_append, List.getElem?_replicate]
    by_cases hcolumn : column < rows[row].length
    · rw [if_pos hcolumn, if_pos ⟨hrow, by omega⟩, List.getElem?_eq_getElem hcolumn,
        Option.getD_some]
    · rw [if_neg hcolumn, List.getElem?_eq_none (by omega), Option.getD_none]
      by_cases hin : column < columns
      · rw [if_pos (by omega), if_pos ⟨hrow, hin⟩]
      · rw [if_neg (by omega), if_neg (fun hboth => hin hboth.2)]
  · rw [List.getElem?_eq_none (by omega), if_neg (fun hboth => hrow hboth.1)]
    rfl

theorem lt_of_cellText? {t : Table} {columns : Nat} (h : IsWidth t columns) {row column : Nat}
    {s : String} (hs : cellText? t row column = some s) :
    row < t.rows.length + 1 ∧ column < columns := by
  rw [← cellAt?_cons, cellAt?_eq_some_iff] at hs
  obtain ⟨r, hr, hs⟩ := hs
  obtain ⟨hrow, -⟩ := List.getElem?_eq_some_iff.mp hr
  obtain ⟨hcolumn, -⟩ := List.getElem?_eq_some_iff.mp hs
  exact ⟨hrow, Nat.lt_of_lt_of_le hcolumn (h.length_le r (List.mem_of_getElem? hr))⟩

/-- The grid of a table: its size, and what stands in each cell. -/
theorem exists_grid (t : Table) : ∃ columns, IsWidth t columns ∧
    (tableGrid t).length = t.rows.length + 1 ∧ (∀ row ∈ tableGrid t, row.length = columns) ∧
    ∀ row column, cellAt? (tableGrid t) row column =
      if row < t.rows.length + 1 ∧ column < columns then some ((cellText? t row column).getD "")
      else none := by
  obtain ⟨hpos, hle, hleast⟩ := foldl_length (t.header :: t.rows) 1
  have hwidth : IsWidth t _ := ⟨hpos, (List.forall_mem_cons.mp hle).1,
    (List.forall_mem_cons.mp hle).2, by simpa using hleast⟩
  refine ⟨_, hwidth, by simp [tableGrid], fun row hrow => ?_, fun row column => ?_⟩
  · obtain ⟨r, hr, rfl⟩ := List.mem_map.mp hrow
    have hlength := hle r hr
    rw [List.length_append, List.length_replicate]
    omega
  · rw [tableGrid, cellAt?_filled hle, cellAt?_cons, List.length_cons]

theorem cellAt?_of_mapM {α β ε : Type} {f : α → Except ε β} {grid : List (List α)}
    {rows : List (List β)} (h : (grid.mapM fun r => r.mapM f) = .ok rows) (row column : Nat) :
    (cellAt? rows row column).map .ok = (cellAt? grid row column).map f := by
  have hrows := congrArg (·[row]?) (mapM_eq_ok_iff.mp h)
  simp only [List.getElem?_map] at hrows
  rw [cellAt?, cellAt?]
  cases hr : rows[row]? with
  | none =>
    rw [hr, Option.map_none, Option.map_eq_none_iff] at hrows
    rw [hrows]
    rfl
  | some cells =>
    rw [hr, Option.map_some, Option.map_eq_some_iff] at hrows
    obtain ⟨texts, htexts, hcells⟩ := hrows
    have hcell := congrArg (·[column]?) (mapM_eq_ok_iff.mp hcells)
    simp only [List.getElem?_map] at hcell
    rw [htexts]
    exact hcell.symm

theorem exists_cells_iff (t : Table) :
    (∃ rows, ((tableGrid t).mapM fun r => r.mapM textParagraphs) = .ok rows) ↔
      ∀ row column s, cellText? t row column = some s → HasCharacters s.toList := by
  obtain ⟨columns, hwidth, -, -, hgrid⟩ := exists_grid t
  rw [exists_mapM_ok_iff]
  simp only [exists_mapM_ok_iff, exists_textParagraphs_iff]
  constructor
  · intro h row column s hs
    have hcell := hgrid row column
    rw [if_pos (lt_of_cellText? hwidth hs), hs, Option.getD_some, cellAt?_eq_some_iff] at hcell
    obtain ⟨r, hr, hs⟩ := hcell
    exact h r (List.mem_of_getElem? hr) s (List.mem_of_getElem? hs)
  · intro h r hr s hs
    obtain ⟨row, hrow⟩ := List.mem_iff_getElem?.mp hr
    obtain ⟨column, hcolumn⟩ := List.mem_iff_getElem?.mp hs
    have hcell := (hgrid row column).symm.trans (cellAt?_eq_some_iff.mpr ⟨r, hrow, hcolumn⟩)
    split at hcell
    · cases htext : cellText? t row column with
      | none =>
        rw [htext] at hcell
        cases hcell
        exact List.forall_mem_nil _
      | some text =>
        rw [htext] at hcell
        cases hcell
        exact h row column _ htext
    · cases hcell

/-- A table is drawn if and only if its box can be and its texts can be written. It has a row for
the header and one for each row below, and as many columns as the longest of them, but one at least.
Each text stands in its own cell, and every other cell is empty. -/
theorem drawTable_cells (b : Box Float) (t : Table) :
    ((∃ ns f, drawTable b t = ⟨ns, .ok f⟩) ↔
      (IsLength b.x ∧ IsLength b.y ∧ IsLength b.width ∧ IsLength b.height) ∧
      ∀ row column s, cellText? t row column = some s → HasCharacters s.toList) ∧
    ∀ ns f, drawTable b t = ⟨ns, .ok f⟩ → ns = [] ∧ ∃ box rows columns,
      boxOfInches b = .ok box ∧ f = .table box rows ∧
      rows.length = t.rows.length + 1 ∧ IsWidth t columns ∧ (∀ row ∈ rows, row.length = columns) ∧
      (∀ row column s, cellText? t row column = some s → ∃ cell,
        cellAt? rows row column = some cell ∧ textParagraphs s = .ok cell ∧
        notesText cell = plainShown s) ∧
      ∀ row < t.rows.length + 1, ∀ column < columns, cellText? t row column = none →
        cellAt? rows row column = some [{}] := by
  constructor
  · rw [← exists_boxOfInches_iff, ← exists_cells_iff]
    simp only [drawTable_eq_ok_iff]
    constructor
    · rintro ⟨ns, f, -, box, rows, hbox, hrows, -⟩
      exact ⟨⟨box, hbox⟩, rows, hrows⟩
    · rintro ⟨⟨box, hbox⟩, rows, hrows⟩
      exact ⟨_, _, rfl, box, rows, hbox, hrows, rfl⟩
  · intro ns f h
    obtain ⟨rfl, box, rows, hbox, hrows, rfl⟩ := (drawTable_eq_ok_iff b t ns f).mp h
    obtain ⟨columns, hwidth, hlength, hlengths, hgrid⟩ := exists_grid t
    refine ⟨rfl, box, rows, columns, hbox, rfl, (length_of_mapM hrows).trans hlength, hwidth,
      fun row hrow => ?_, fun row column s hs => ?_, fun row hrow column hcolumn hs => ?_⟩
    · obtain ⟨r, hr, hcells⟩ := exists_of_mem_mapM hrows hrow
      exact (length_of_mapM hcells).trans (hlengths r hr)
    · have hcell := cellAt?_of_mapM hrows row column
      rw [hgrid, if_pos (lt_of_cellText? hwidth hs), hs, Option.getD_some, Option.map_some,
        Option.map_eq_some_iff] at hcell
      obtain ⟨cell, hcell, htext⟩ := hcell
      exact ⟨cell, hcell, htext.symm, notesText_textParagraphs htext.symm⟩
    · have hcell := cellAt?_of_mapM hrows row column
      rw [hgrid, if_pos ⟨hrow, hcolumn⟩, hs, Option.getD_none, Option.map_some,
        Option.map_eq_some_iff] at hcell
      obtain ⟨cell, hcell, htext⟩ := hcell
      have hempty : textParagraphs "" = .ok [{}] := rfl
      rw [hcell, Except.ok.inj (htext.trans hempty)]

/-- A header that is shorter than the first row, and a row without cells. -/
def raggedTable : Table := ⟨["a"], [["b", "c\nd"], []]⟩

theorem drawTable_cells_raggedTable :
    ∃ box rows, drawTable titleBox raggedTable = ⟨[], .ok (.table box rows)⟩ ∧
      rows.length = 3 ∧ (∀ row ∈ rows, row.length = 2) ∧ cellAt? rows 0 1 = some [{}] ∧
      ∃ cell, cellAt? rows 1 1 = some cell ∧ notesText cell = "c\nd" := by
  have hcells := (exists_cells_iff raggedTable).mp ⟨_, rfl⟩
  obtain ⟨hreturns, hdrawn⟩ := drawTable_cells titleBox raggedTable
  obtain ⟨ns, f, h⟩ :=
    hreturns.mpr ⟨(exists_boxOfInches_iff _).mp ⟨_, boxOfInches_titleBox⟩, hcells⟩
  obtain ⟨rfl, box, rows, columns, -, rfl, hlength, hwidth, hlengths, htexts, hempty⟩ :=
    hdrawn ns f h
  obtain rfl : columns = 2 := by
    have hle : 2 ≤ columns := hwidth.rows_le ["b", "c\nd"] List.mem_cons_self
    have hleast : columns = 1 ∨ 1 = columns ∨ 2 = columns ∨ 0 = columns := by
      simpa [raggedTable] using hwidth.least
    omega
  obtain ⟨cell, hcell, -, htext⟩ := htexts 1 1 "c\nd" rfl
  exact ⟨box, rows, h, hlength, hlengths, hempty 0 (by decide) 1 (by decide) rfl, cell, hcell,
    htext.trans (by decide)⟩

end SlideDeck.Drawing
