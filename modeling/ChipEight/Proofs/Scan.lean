import ChipEight.Proofs.Sprite
import Mathlib.Data.Nat.Bitwise

/-!
# Drawing point by point

A sprite can be drawn by a scan: row by row and from the left, each set bit
toggles the point under it, and the scan remembers whether a toggle put out
a lit cell.  A point that is hit again meets the cell as the earlier hits
left it.  `draw_flips_odd_hits` says that drawing is this scan, and what it
does to every frame by the number of hits alone.
-/

namespace ChipEight

/-! ## Bits of a row -/

/-- The mask that selects a column, the leftmost being the highest bit. -/
def columnMask (column : Nat) : UInt8 :=
  0x80 >>> UInt8.ofNat column

theorem toNat_columnMask {column : Nat} (narrow : column < 8) :
    (columnMask column).toNat = 2 ^ (7 - column) := by
  have masks : ∀ column : Fin 8,
      (columnMask column.val).toNat = 2 ^ (7 - column.val) := by
    decide
  exact masks ⟨column, narrow⟩

/-- A masked row is not zero exactly if it has the selected point set. -/
theorem and_columnMask_ne_zero_iff
    {column : Nat} (narrow : column < 8) (bits : UInt8) :
    bits &&& columnMask column ≠ 0 ↔
      bits.toNat.testBit (7 - column) = true := by
  rw [Ne, ← UInt8.toNat_inj, UInt8.toNat_and, toNat_columnMask narrow,
    Nat.and_two_pow, UInt8.toNat_zero]
  cases bits.toNat.testBit (7 - column) <;> simp

/-! ## Scans -/

namespace Frame

/-- Toggles the point of a row at a column, if it is set. -/
def scanPoint
    (wrapRows : Bool) (row column : UInt64) (bits : UInt8) (down : Nat)
    (scanned : Frame × Bool) (right : Nat) : Frame × Bool :=
  if bits &&& columnMask right ≠ 0 then
    let toggled :=
      scanned.1.toggle wrapRows (row + UInt64.ofNat down)
        (column + UInt64.ofNat right)
    (toggled.frame, scanned.2 || toggled.collides)
  else scanned

/-- Toggles the set points of a row from the left. -/
def scanRow
    (wrapRows : Bool) (row column : UInt64) (scanned : Frame × Bool)
    (line : UInt8 × Nat) : Frame × Bool :=
  (List.range 8).foldl (scanPoint wrapRows row column line.1 line.2) scanned

/--
Toggles the set points of a sprite row by row and tells whether some toggle
put out a lit cell.
-/
def scan
    (frame : Frame) (wrapRows : Bool) (row column : UInt64)
    (sprite : Sprite) : Frame × Bool :=
  sprite.zipIdx.foldl (scanRow wrapRows row column) (frame, false)

end Frame

namespace Drawing

/-- A drawing as a scan shows it: its frame, and whether it collides. -/
def seen (drawing : Drawing) : Frame × Bool :=
  (drawing.frame, drawing.collides)

/-- Flips the cell where a point lands, if it lands. -/
def strike
    (wrapRows : Bool) (row column : UInt64) (drawing : Drawing) :
    Drawing :=
  match Cell.place? wrapRows row column with
  | some cell => drawing.flip cell
  | none => drawing

/-- A toggle is seen as the flip of the cell where the point lands. -/
theorem seen_strike
    (wrapRows : Bool) (row column : UInt64) (drawing : Drawing) :
    (drawing.strike wrapRows row column).seen =
      let toggled := drawing.frame.toggle wrapRows row column
      (toggled.frame, drawing.collides || toggled.collides) := by
  rw [strike, Frame.toggle]
  cases Cell.place? wrapRows row column with
  | none => simp [seen, start, collides]
  | some cell =>
      simp only [seen, collides_flip]
      rfl

/-- Strikes the cell under the point of a row at a column, if it is set. -/
def strikePoint
    (wrapRows : Bool) (row column : UInt64) (bits : UInt8) (down : Nat)
    (drawing : Drawing) (right : Nat) : Drawing :=
  if bits.toNat.testBit (7 - right) then
    drawing.strike wrapRows (row + UInt64.ofNat down)
      (column + UInt64.ofNat right)
  else drawing

/-- Strikes the cells under the set points of a row from the left. -/
def strikeRow
    (wrapRows : Bool) (row column : UInt64) (drawing : Drawing)
    (line : UInt8 × Nat) : Drawing :=
  (List.range 8).foldl (strikePoint wrapRows row column line.1 line.2) drawing

variable {wrapRows : Bool} {row column : UInt64} {bits : UInt8} {down : Nat}

/--
One point of the scan does to rows of bits what a strike does to the frame.
-/
theorem scanPoint_seen
    {right : Nat} (narrow : right < 8) (drawing : Drawing) :
    Frame.scanPoint wrapRows row column bits down drawing.seen right =
      (drawing.strikePoint wrapRows row column bits down right).seen := by
  rw [Frame.scanPoint, strikePoint]
  by_cases set : bits.toNat.testBit (7 - right) = true
  · rw [if_pos ((and_columnMask_ne_zero_iff narrow bits).mpr set),
      if_pos set, seen_strike]
    rfl
  · rw [if_neg (mt (and_columnMask_ne_zero_iff narrow bits).mp set),
      if_neg set]

theorem foldl_scanPoint_seen
    {columns : List Nat}
    (narrow : ∀ right ∈ columns, right < 8) (drawing : Drawing) :
    columns.foldl (Frame.scanPoint wrapRows row column bits down)
        drawing.seen =
      (columns.foldl (strikePoint wrapRows row column bits down)
        drawing).seen := by
  induction columns generalizing drawing with
  | nil => rfl
  | cons right rest ih =>
      rcases List.forall_mem_cons.mp narrow with ⟨first, others⟩
      rw [List.foldl_cons, List.foldl_cons, scanPoint_seen first]
      exact ih others _

theorem scanRow_seen (drawing : Drawing) (line : UInt8 × Nat) :
    Frame.scanRow wrapRows row column drawing.seen line =
      (drawing.strikeRow wrapRows row column line).seen :=
  foldl_scanPoint_seen (fun _ => List.mem_range.mp) drawing

end Drawing

namespace Frame

/-- A drawing strikes the cells under the set points row by row. -/
theorem draw_eq_foldl
    (frame : Frame) (wrapRows : Bool) (row column : UInt64)
    (sprite : Sprite) :
    frame.draw wrapRows row column sprite =
      sprite.zipIdx.foldl (Drawing.strikeRow wrapRows row column)
        (.start frame) := by
  simp only [draw, Sprite.landings, Sprite.points, Sprite.rowPoints,
    List.foldl_filterMap, List.foldl_flatMap, List.foldl_map,
    List.foldl_filter]
  congr 1
  funext drawing line
  rw [Drawing.strikeRow]
  congr 1
  funext drawing right
  rw [Drawing.strikePoint, Drawing.strike]
  cases Cell.place? wrapRows (row + UInt64.ofNat line.2)
    (column + UInt64.ofNat right) <;> rfl

/-- A scan sees what drawing does. -/
theorem scan_eq_seen_draw
    (frame : Frame) (wrapRows : Bool) (row column : UInt64)
    (sprite : Sprite) :
    frame.scan wrapRows row column sprite =
      (frame.draw wrapRows row column sprite).seen := by
  have start : (frame, false) = (Drawing.start frame).seen := rfl
  rw [draw_eq_foldl, scan, start]
  exact List.foldl_hom Drawing.seen Drawing.scanRow_seen

/--
Drawing a sprite is the scan that toggles its set bits one after another.
For every frame, every corner in sixty-four bits, every sprite and both
values of row wrapping it inverts exactly the cells that an odd number of
set bits hits, where columns fold at the right edge and rows, counted in
sixty-four bits, fold or miss at the bottom.  It collides exactly if it hits
a lit cell, or hits some cell twice and so puts out what it lit itself.
-/
theorem draw_flips_odd_hits
    (frame : Frame) (wrapRows : Bool) (row column : UInt64)
    (sprite : Sprite) :
    let drawing := frame.draw wrapRows row column sprite
    let hits (cell : Cell) : Nat :=
      {bit ∈ Finset.range sprite.length ×ˢ Finset.range 8 |
        sprite.isSet bit.1 bit.2 = true ∧
          (column.toNat + bit.2) % 64 = cell.column.val ∧
          let line := (row.toNat + bit.1) % 2 ^ 64
          (if wrapRows then line % 32 = cell.row.val
            else line = cell.row.val)}.card
    frame.scan wrapRows row column sprite =
        (drawing.frame, drawing.collides) ∧
      (∀ cell,
        drawing.frame.isLit cell =
          (frame.isLit cell ^^ decide (hits cell % 2 = 1))) ∧
      (drawing.collides = true ↔
        ∃ cell,
          (frame.isLit cell = true ∧ 1 ≤ hits cell) ∨ 2 ≤ hits cell) := by
  intro drawing hits
  refine ⟨frame.scan_eq_seen_draw wrapRows row column sprite, ?_, ?_⟩
  · intro cell
    have parity : Odd (hits cell) ↔ hits cell % 2 = 1 := Nat.odd_iff
    exact isLit_draw.trans (by rw [← decide_eq_decide.mpr parity]; rfl)
  · exact collides_draw_iff

/-- A dot drawn on both copies of the top row puts itself out. -/
example :
    let sprite : Sprite := 0x80 :: List.replicate 31 0 ++ [0x80]
    let drawing := blank.draw true 0 63 sprite
    drawing.frame = blank ∧ drawing.collides = true := by
  decide +kernel

end Frame

end ChipEight
