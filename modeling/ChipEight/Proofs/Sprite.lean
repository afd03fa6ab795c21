import ChipEight.Screen.Sprite
import Mathlib.Algebra.Ring.Parity
import Mathlib.Data.Finset.Prod
import Mathlib.Data.List.Sigma

/-!
# Where sprites land and what drawing them does

The points of a sprite are its set bits, each listed once.  `hits` counts
the points that land on a cell by arithmetic on their coordinates, and
`count_landings` says that drawing flips the cell exactly that often.  A
drawing therefore inverts the cells that are hit an odd number of times
(`isLit_draw`), and it collides when it flips a cell that is lit at that
moment (`collides_draw_iff`).  A sprite no taller than the screen hits no
cell twice, so it collides exactly when it puts out a cell
(`collides_draw_iff_of_short`).
-/

namespace ChipEight

/-! ## The points of a sprite -/

namespace Sprite

/-- Whether a sprite has the point at these offsets set. -/
def isSet (sprite : Sprite) (down right : Nat) : Bool :=
  ((sprite[down]?).getD 0).toNat.testBit (7 - right)

theorem mem_points
    {sprite : Sprite} {point : Nat × Nat} :
    point ∈ sprite.points ↔
      (point.1 < sprite.length ∧ point.2 < 8) ∧
        sprite.isSet point.1 point.2 = true := by
  rcases point with ⟨down, right⟩
  simp only [points, rowPoints, List.mem_flatMap, List.mem_map,
    List.mem_filter, List.mem_range, Prod.exists,
    List.mk_mem_zipIdx_iff_getElem?, Prod.mk.injEq, isSet]
  constructor
  · rintro ⟨bits, row, entry, column, ⟨narrow, set⟩, rfl, rfl⟩
    rcases List.getElem?_eq_some_iff.mp entry with ⟨inRange, rfl⟩
    exact ⟨⟨inRange, narrow⟩, by simpa [inRange] using set⟩
  · rintro ⟨⟨inRange, narrow⟩, set⟩
    refine
      ⟨sprite[down], down, List.getElem?_eq_getElem inRange, right,
        ⟨narrow, ?_⟩, rfl, rfl⟩
    simpa [inRange] using set

theorem nodup_points (sprite : Sprite) : sprite.points.Nodup := by
  unfold points
  apply List.nodup_flatMap.mpr
  constructor
  · rintro ⟨bits, row⟩ _
    apply List.Nodup.map
    · intro first second equal
      exact (Prod.mk.inj equal).2
    · exact List.nodup_range.filter _
  · have separate := List.nodup_zipIdx_map_snd sprite
    rw [List.Nodup, List.pairwise_map] at separate
    apply separate.imp
    rintro ⟨bits, row⟩ ⟨otherBits, otherRow⟩ different
    apply List.disjoint_left.mpr
    rintro ⟨down, right⟩ member otherMember
    simp only [List.mem_map, Prod.mk.injEq] at member otherMember
    rcases member with ⟨_, _, rfl, _⟩
    rcases otherMember with ⟨_, _, rfl, _⟩
    exact different rfl

/-- Counting points of a sprite is counting its set bits by their offsets. -/
theorem countP_points
    (sprite : Sprite) (counts : Nat × Nat → Prop) [DecidablePred counts] :
    (sprite.points.countP fun point => decide (counts point)) =
      {point ∈ Finset.range sprite.length ×ˢ Finset.range 8 |
        sprite.isSet point.1 point.2 = true ∧ counts point}.card := by
  rw [List.countP_eq_length_filter,
    ← List.toFinset_card_of_nodup (sprite.nodup_points.filter _)]
  congr 1
  ext point
  simp only [List.mem_toFinset, List.mem_filter, mem_points,
    Finset.mem_filter, Finset.mem_product, Finset.mem_range,
    decide_eq_true_eq]
  exact and_assoc

/-! ## The cells where points land -/

/--
Whether the point at these offsets lands on a cell when the sprite's corner
is at the given coordinates.  Rows count in sixty-four bits.
-/
def LandsOn
    (wrapRows : Bool) (row column : UInt64) (cell : Cell)
    (point : Nat × Nat) : Prop :=
  (column.toNat + point.2) % 64 = cell.column.val ∧
    if wrapRows then
      (row.toNat + point.1) % 2 ^ 64 % 32 = cell.row.val
    else (row.toNat + point.1) % 2 ^ 64 = cell.row.val

instance
    (wrapRows : Bool) (row column : UInt64) (cell : Cell)
    (point : Nat × Nat) :
    Decidable (LandsOn wrapRows row column cell point) := by
  unfold LandsOn
  infer_instance

/-- The number of a sprite's set points that land on a cell. -/
def hits
    (wrapRows : Bool) (row column : UInt64) (sprite : Sprite)
    (cell : Cell) : Nat :=
  {point ∈ Finset.range sprite.length ×ˢ Finset.range 8 |
    sprite.isSet point.1 point.2 = true ∧
      LandsOn wrapRows row column cell point}.card

/-- Columns always fold into the screen, and rows only if they wrap. -/
theorem place?_eq_some_iff
    {wrapRows : Bool} {row column : UInt64} {cell : Cell} :
    Cell.place? wrapRows row column = some cell ↔
      column.toNat % 64 = cell.column.val ∧
        if wrapRows then row.toNat % 32 = cell.row.val
        else row.toNat = cell.row.val := by
  have rowBound := cell.row.isLt
  rcases cell with ⟨⟨cellRow, _⟩, ⟨cellColumn, _⟩⟩
  cases wrapRows with
  | true =>
      simp [Cell.place?, Cell.wrapped, and_comm]
  | false =>
      by_cases below : 32 ≤ row.toNat
      · have missed : row.toNat ≠ cellRow := by
          intro equal
          simp only at rowBound
          omega
        simp [Cell.place?, below, missed]
      · have small : row.toNat % 32 = row.toNat :=
          Nat.mod_eq_of_lt (by omega)
        simp [Cell.place?, Cell.wrapped, below, small, and_comm]

theorem place?_point_eq_some_iff
    {wrapRows : Bool} {row column : UInt64} {cell : Cell}
    {point : Nat × Nat} :
    Cell.place? wrapRows (row + UInt64.ofNat point.1)
        (column + UInt64.ofNat point.2) = some cell ↔
      LandsOn wrapRows row column cell point := by
  rw [place?_eq_some_iff, LandsOn]
  simp only [UInt64.toNat_add, UInt64.toNat_ofNat', Nat.add_mod_mod]
  have column64 :
      (column.toNat + point.2) % 2 ^ 64 % 64 =
        (column.toNat + point.2) % 64 := by
    omega
  rw [column64]

/-- A drawing flips each cell as often as set points land on it. -/
theorem count_landings
    (wrapRows : Bool) (row column : UInt64) (sprite : Sprite)
    (cell : Cell) :
    (sprite.landings wrapRows row column).count cell =
      sprite.hits wrapRows row column cell := by
  have onCell :
      (sprite.landings wrapRows row column).count cell =
        sprite.points.countP fun point =>
          decide (LandsOn wrapRows row column cell point) := by
    rw [landings, List.count_filterMap]
    congr 1
    funext point
    simp only [← place?_point_eq_some_iff, beq_eq_decide]
  rw [onCell, countP_points, hits]

end Sprite

/--
No two points of a sprite no taller than the screen land on one cell, since
its eight columns and its rows do not fold onto each other.
-/
theorem Sprite.hits_le_one
    {sprite : Sprite} (short : sprite.length ≤ 32)
    (wrapRows : Bool) (row column : UInt64) (cell : Cell) :
    sprite.hits wrapRows row column cell ≤ 1 := by
  unfold hits
  apply Finset.card_le_one.mpr
  rintro ⟨down, right⟩ member ⟨otherDown, otherRight⟩ otherMember
  simp only [Finset.mem_filter, Finset.mem_product, Finset.mem_range]
    at member otherMember
  rcases member with ⟨⟨inSprite, narrow⟩, _, sameColumn, sameRow⟩
  rcases otherMember with
    ⟨⟨otherInSprite, otherNarrow⟩, _, otherColumn, otherRow⟩
  have rights : right = otherRight := by omega
  have downs : down = otherDown := by
    cases wrapRows with
    | true =>
        simp only [if_true] at sameRow otherRow
        omega
    | false =>
        simp only [Bool.false_eq_true, if_false] at sameRow otherRow
        omega
  rw [rights, downs]

/-! ## Flipping cells one after another -/

theorem decide_odd_add (first second : Nat) :
    decide (Odd (first + second)) =
      (decide (Odd first) ^^ decide (Odd second)) := by
  rw [Bool.eq_iff_iff]
  by_cases odd : Odd second <;>
    simp [Nat.odd_add, ← Nat.not_odd_iff_even, odd]

namespace Drawing

variable {drawing : Drawing} {cells : List Cell} {cell : Cell}

/-- Flips invert the cells that they name an odd number of times. -/
theorem isLit_foldl_flip :
    (cells.foldl flip drawing).frame.isLit cell =
      (drawing.frame.isLit cell ^^ decide (Odd (cells.count cell))) := by
  induction cells generalizing drawing with
  | nil => simp
  | cons first rest ih =>
      rw [List.foldl_cons, ih, flip, Frame.isLit_flip, List.count_cons]
      by_cases same : first = cell
      · simp [same, decide_odd_add]
      · simp [same]

/-- A flip collides if the cell was lit, and an earlier collision stays. -/
@[simp]
theorem collides_flip (drawing : Drawing) (cell : Cell) :
    (drawing.flip cell).collides =
      (drawing.collides || drawing.frame.isLit cell) := by
  unfold collides flip
  cases drawing.frame.isLit cell <;> simp

/--
Flips put out a lit cell exactly when one was counted before, or one of the
cells that they name is lit at the start, or they name a cell twice: then
the first of the two flips lights it for the second.
-/
theorem collides_foldl_flip_iff :
    (cells.foldl flip drawing).collides = true ↔
      drawing.collides = true ∨
        ∃ cell,
          (drawing.frame.isLit cell = true ∧ 1 ≤ cells.count cell) ∨
            2 ≤ cells.count cell := by
  induction cells generalizing drawing with
  | nil => simp
  | cons first rest ih =>
      have lit (cell : Cell) :
          (drawing.flip first).frame.isLit cell =
            if first = cell then !drawing.frame.isLit cell
            else drawing.frame.isLit cell :=
        drawing.frame.isLit_flip first cell
      rw [List.foldl_cons, ih, collides_flip, Bool.or_eq_true, or_assoc]
      apply or_congr_right
      simp only [List.count_cons, beq_iff_eq, lit]
      constructor
      · rintro (struck | ⟨cell, hit⟩)
        · exact ⟨first, Or.inl ⟨struck, by simp⟩⟩
        · refine ⟨cell, ?_⟩
          by_cases same : first = cell
          · simp only [same, if_true] at hit ⊢
            omega
          · simpa [same] using hit
      · rintro ⟨cell, hit⟩
        by_cases same : first = cell
        · subst same
          cases struck : drawing.frame.isLit first with
          | true => exact Or.inl rfl
          | false =>
              have again : 1 ≤ rest.count first := by
                simpa [struck] using hit
              exact Or.inr ⟨first, Or.inl ⟨by simp [struck], again⟩⟩
        · exact Or.inr ⟨cell, by simpa [same] using hit⟩

end Drawing

/-! ## Drawing a sprite -/

namespace Frame

variable {frame : Frame} {wrapRows : Bool} {row column : UInt64}
  {sprite : Sprite} {cell : Cell}

/-- Drawing inverts the cells where an odd number of set points lands. -/
theorem isLit_draw :
    (frame.draw wrapRows row column sprite).frame.isLit cell =
      (frame.isLit cell ^^
        decide (Odd (sprite.hits wrapRows row column cell))) := by
  rw [draw, Drawing.isLit_foldl_flip, Sprite.count_landings]
  rfl

/-- Drawing collides when it hits a lit cell, or hits a cell twice. -/
theorem collides_draw_iff :
    (frame.draw wrapRows row column sprite).collides = true ↔
      ∃ cell,
        (frame.isLit cell = true ∧
            1 ≤ sprite.hits wrapRows row column cell) ∨
          2 ≤ sprite.hits wrapRows row column cell := by
  rw [draw, Drawing.collides_foldl_flip_iff]
  simp only [Sprite.count_landings, Drawing.start, Drawing.collides]
  simp

/-- A sprite no taller than the screen collides when it puts out a cell. -/
theorem collides_draw_iff_of_short (short : sprite.length ≤ 32) :
    (frame.draw wrapRows row column sprite).collides = true ↔
      ∃ cell,
        frame.isLit cell = true ∧
          (frame.draw wrapRows row column sprite).frame.isLit cell =
            false := by
  rw [collides_draw_iff]
  apply exists_congr
  intro cell
  have single := Sprite.hits_le_one short wrapRows row column cell
  rw [isLit_draw]
  generalize sprite.hits wrapRows row column cell = hits at single ⊢
  rcases Nat.le_one_iff_eq_zero_or_eq_one.mp single with rfl | rfl <;> simp

end Frame

end ChipEight
