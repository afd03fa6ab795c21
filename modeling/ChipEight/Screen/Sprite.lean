import ChipEight.Screen.Frame

/-!
# Sprites

A sprite is a column of bytes, each a row of eight points with the most
significant bit on the left.  Drawing flips, one after another, the cells
where its set points land, and counts how many flips put out a lit cell.
-/

namespace ChipEight

/-- A byte string read as rows of eight points. -/
abbrev Sprite := List UInt8

/-- A frame while cells are flipped, with the number of lit cells put out so far. -/
structure Drawing where
  frame : Frame
  erasures : Nat
  deriving DecidableEq

namespace Sprite

/-- The columns, counted from the left, of the points set in one row. -/
def rowPoints (bits : UInt8) : List Nat :=
  (List.range 8).filter fun column => bits.toNat.testBit (7 - column)

/-- The set points of a sprite as row and column offsets, row by row. -/
def points (sprite : Sprite) : List (Nat × Nat) :=
  sprite.zipIdx.flatMap fun (bits, row) => (rowPoints bits).map (row, ·)

/-- The cells where the set points land, with a cell repeated for each point. -/
def landings (wrapRows : Bool) (row column : UInt64) (sprite : Sprite) : List Cell :=
  sprite.points.filterMap fun (down, right) =>
    Cell.place? wrapRows (row + UInt64.ofNat down) (column + UInt64.ofNat right)

end Sprite

namespace Drawing

/-- A drawing that has not flipped anything yet. -/
def start (frame : Frame) : Drawing :=
  ⟨frame, 0⟩

/-- Flips one cell, counting it if that puts it out. -/
def flip (drawing : Drawing) (cell : Cell) : Drawing where
  frame := drawing.frame.flip cell
  erasures := drawing.erasures + if drawing.frame.isLit cell then 1 else 0

/-- Whether some lit cell was put out. -/
def collides (drawing : Drawing) : Bool :=
  decide (0 < drawing.erasures)

end Drawing

namespace Frame

/-- Flips the cell where one point lands, if it lands. -/
def toggle (frame : Frame) (wrapRows : Bool) (row column : UInt64) : Drawing :=
  match Cell.place? wrapRows row column with
  | none => .start frame
  | some cell => (Drawing.start frame).flip cell

/-- Draws a sprite with its top left point at the given coordinates. -/
def draw
    (frame : Frame) (wrapRows : Bool) (row column : UInt64) (sprite : Sprite) : Drawing :=
  (sprite.landings wrapRows row column).foldl Drawing.flip (.start frame)

end Frame

end ChipEight
