/-!
# Frames

A frame is 32 rows of 64 cells, each lit or unlit.  Cells change only by
being flipped; `isLit_flip` says that a flip inverts its own cell and no
other.  `getElem?_cells` finds each cell in the list of all cells.
-/

namespace ChipEight

/-- A position on the frame. -/
structure Cell where
  row : Fin 32
  column : Fin 64
  deriving DecidableEq

/-- Which cells of the screen are lit. -/
structure Frame where
  rows : Vector (Vector Bool 64) 32

/-- Frames are compared row by row. -/
instance : DecidableEq Frame := fun first second =>
  decidable_of_iff
    (first.rows.toList.map Vector.toList = second.rows.toList.map Vector.toList) <| by
      obtain ⟨firstRows⟩ := first
      obtain ⟨secondRows⟩ := second
      rw [List.map_inj_right fun _ _ => Vector.toList_inj.1, Vector.toList_inj]
      simp

namespace Cell

/-- The cell at coordinates of any size, folded onto the screen. -/
def wrapped (row column : UInt64) : Cell where
  row := ⟨row.toNat % 32, Nat.mod_lt _ (by decide)⟩
  column := ⟨column.toNat % 64, Nat.mod_lt _ (by decide)⟩

/--
The cell where a point at these coordinates lands.  Columns always fold
around the right edge; rows below the screen fold around to the top only
with `wrapRows`, and otherwise land nowhere.
-/
def place? (wrapRows : Bool) (row column : UInt64) : Option Cell :=
  if !wrapRows && 32 ≤ row.toNat then none else some (wrapped row column)

/-- The place of a cell where the rows stand one after another. -/
def position (cell : Cell) : Nat :=
  64 * cell.row.val + cell.column.val

theorem position_lt (cell : Cell) : cell.position < 32 * 64 := by
  obtain ⟨⟨row, rowBound⟩, ⟨column, columnBound⟩⟩ := cell
  simp only [position]
  omega

theorem position_inj {first second : Cell} :
    first.position = second.position ↔ first = second := by
  obtain ⟨⟨row, rowBound⟩, ⟨column, columnBound⟩⟩ := first
  obtain ⟨⟨otherRow, otherRowBound⟩, ⟨otherColumn, otherColumnBound⟩⟩ :=
    second
  simp only [position, Cell.mk.injEq, Fin.mk.injEq]
  omega

theorem exists_position_eq {index : Nat} (inside : index < 32 * 64) :
    ∃ cell : Cell, cell.position = index :=
  ⟨⟨⟨index / 64, by omega⟩, ⟨index % 64, Nat.mod_lt _ (by decide)⟩⟩,
    Nat.div_add_mod index 64⟩

end Cell

namespace Frame

/-- The frame with no cell lit. -/
def blank : Frame :=
  ⟨Vector.replicate 32 (Vector.replicate 64 false)⟩

/-- Whether a cell is lit. -/
def isLit (frame : Frame) (cell : Cell) : Bool :=
  frame.rows[cell.row][cell.column]

/-- The frame with one cell inverted. -/
def flip (frame : Frame) (cell : Cell) : Frame :=
  ⟨frame.rows.set cell.row
    (frame.rows[cell.row].set cell.column (!frame.rows[cell.row][cell.column]))⟩

/-- Whether each cell is lit, row after row. -/
def cells (frame : Frame) : List Bool :=
  frame.rows.toList.flatMap Vector.toList

/-- The number of lit cells. -/
def litCount (frame : Frame) : Nat :=
  frame.cells.count true

/-- The frame with one row replaced. -/
def setRow (frame : Frame) (row : Fin 32) (cells : Vector Bool 64) : Frame :=
  ⟨frame.rows.set row cells⟩

@[simp]
theorem isLit_blank (cell : Cell) : blank.isLit cell = false := by
  simp [isLit, blank]

/-- A flip inverts its own cell and no other. -/
theorem isLit_flip (frame : Frame) (flipped cell : Cell) :
    (frame.flip flipped).isLit cell =
      if flipped = cell then !frame.isLit cell else frame.isLit cell := by
  obtain ⟨flippedRow, flippedColumn⟩ := flipped
  obtain ⟨row, column⟩ := cell
  by_cases sameRow : flippedRow = row
  · subst sameRow
    by_cases sameColumn : flippedColumn = column
    · subst sameColumn
      simp [isLit, flip]
    · have separate : flippedColumn.val ≠ column.val :=
        fun equality => sameColumn (Fin.ext equality)
      simp [isLit, flip, sameColumn, Vector.getElem_set_ne, separate]
  · have separate : flippedRow.val ≠ row.val :=
      fun equality => sameRow (Fin.ext equality)
    simp [isLit, flip, sameRow, Vector.getElem_set_ne, separate]

/-- Frames that light the same cells are equal. -/
theorem eq_of_isLit_eq
    {first second : Frame}
    (agree : ∀ cell, first.isLit cell = second.isLit cell) :
    first = second := by
  rcases first with ⟨firstRows⟩
  rcases second with ⟨secondRows⟩
  congr
  ext row rowBound column columnBound
  exact agree ⟨⟨row, rowBound⟩, ⟨column, columnBound⟩⟩

/-! ## The list of cells -/

theorem toList_flatten_rows (frame : Frame) :
    frame.rows.flatten.toList = frame.cells := by
  rw [cells, List.flatMap_def]
  simp only [Vector.flatten, Vector.toList, Array.toList_flatten,
    Array.toList_map, List.map_map]
  rfl

@[simp]
theorem length_cells (frame : Frame) : frame.cells.length = 32 * 64 := by
  rw [← toList_flatten_rows, Vector.length_toList]

/-- The cells are listed from the left, row after row. -/
theorem getElem?_cells (frame : Frame) (cell : Cell) :
    frame.cells[cell.position]? = some (frame.isLit cell) := by
  obtain ⟨⟨row, rowBound⟩, ⟨column, columnBound⟩⟩ := cell
  have sameRow : (64 * row + column) / 64 = row := by omega
  have sameColumn : (64 * row + column) % 64 = column := by omega
  rw [← toList_flatten_rows, Vector.getElem?_toList,
    Vector.getElem?_eq_getElem (Cell.position_lt _), Vector.getElem_flatten]
  simp only [Cell.position, sameRow, sameColumn]
  rfl

theorem cells_flip (frame : Frame) (flipped : Cell) :
    (frame.flip flipped).cells =
      frame.cells.set flipped.position (!frame.isLit flipped) := by
  apply List.ext_getElem?
  intro index
  by_cases inside : index < 32 * 64
  · obtain ⟨cell, rfl⟩ := Cell.exists_position_eq inside
    rw [getElem?_cells, isLit_flip, List.getElem?_set, getElem?_cells]
    by_cases same : flipped = cell
    · subst same
      rw [if_pos rfl, if_pos rfl, if_pos (by rwa [length_cells])]
    · rw [if_neg same, if_neg (mt Cell.position_inj.mp same)]
  · rw [List.getElem?_eq_none (by rw [length_cells]; omega),
      List.getElem?_eq_none (by rw [List.length_set, length_cells]; omega)]

end Frame

end ChipEight
