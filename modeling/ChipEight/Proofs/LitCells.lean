import ChipEight.Proofs.Scan

/-!
# How many cells a drawing lights

A flip lights one cell or puts one out.  So a drawing raises the number of
lit cells by the points that land, less two for each that puts out a cell
(`litCount_foldl_flip`).  The toggles of a sprite's points, one after
another, show which of them put out a cell; `draw_accounts_for_lit_cells`
balances them against the lit cells before and after.
-/

namespace ChipEight

/-! ## Points that land -/

namespace Sprite

variable {wrapRows : Bool} {row column : UInt64}

/-- A point lands if rows fold or its row, in sixty-four bits, is on the screen. -/
theorem isSome_place?_point (point : Nat × Nat) :
    (Cell.place? wrapRows (row + UInt64.ofNat point.1)
        (column + UInt64.ofNat point.2)).isSome =
      decide (wrapRows = true ∨ (row.toNat + point.1) % 2 ^ 64 < 32) := by
  have sum :
      (row + UInt64.ofNat point.1).toNat =
        (row.toNat + point.1) % 2 ^ 64 := by
    rw [UInt64.toNat_add, UInt64.toNat_ofNat', Nat.add_mod_mod]
  rw [Cell.place?, sum]
  generalize (row.toNat + point.1) % 2 ^ 64 = line
  cases wrapRows with
  | true => rfl
  | false =>
      by_cases below : 32 ≤ line
      · simp [below, Nat.not_lt.mpr below]
      · simp [below, Nat.lt_of_not_le below]

/-- A drawing makes one flip for each point that lands. -/
theorem length_landings (sprite : Sprite) :
    (sprite.landings wrapRows row column).length =
      {point ∈ Finset.range sprite.length ×ˢ Finset.range 8 |
        sprite.isSet point.1 point.2 = true ∧
          (wrapRows = true ∨
            (row.toNat + point.1) % 2 ^ 64 < 32)}.card := by
  have onScreen :
      (sprite.landings wrapRows row column).length =
        sprite.points.countP fun point =>
          decide
            (wrapRows = true ∨ (row.toNat + point.1) % 2 ^ 64 < 32) := by
    rw [landings, List.length_filterMap_eq_countP]
    congr 1
    funext point
    exact isSome_place?_point point
  rw [onScreen, countP_points]

end Sprite

/-! ## Flips and the number of lit cells -/

/--
A flip takes a lit cell from the count or adds one that was not lit.  The
equation adds a lit cell twice, so that it needs no subtraction.
-/
theorem Frame.litCount_flip (frame : Frame) (cell : Cell) :
    (frame.flip cell).litCount +
        2 * (if frame.isLit cell = true then 1 else 0) =
      frame.litCount + 1 := by
  have inside : cell.position < frame.cells.length := by
    rw [length_cells]
    exact cell.position_lt
  have here : frame.cells[cell.position] = frame.isLit cell := by
    rw [← Option.some_inj, ← List.getElem?_eq_getElem inside,
      getElem?_cells]
  rw [litCount, litCount, cells_flip, List.count_set inside, here]
  cases lit : frame.isLit cell with
  | false => rfl
  | true =>
      have counted : 0 < frame.cells.count true := by
        apply List.count_pos_iff.mpr
        rw [← lit, ← here]
        exact List.getElem_mem inside
      simp only [beq_self_eq_true, if_true, Bool.not_true,
        Bool.false_beq, Bool.false_eq_true, if_false]
      omega

namespace Drawing

/-- Each flip lights a cell, or puts one out and counts that. -/
theorem litCount_foldl_flip (drawing : Drawing) (cells : List Cell) :
    (cells.foldl flip drawing).frame.litCount +
        2 * (cells.foldl flip drawing).erasures =
      drawing.frame.litCount + 2 * drawing.erasures + cells.length := by
  induction cells generalizing drawing with
  | nil => rfl
  | cons cell rest ih =>
      have first := drawing.frame.litCount_flip cell
      have frame : (drawing.flip cell).frame = drawing.frame.flip cell := rfl
      have erasures :
          (drawing.flip cell).erasures =
            drawing.erasures +
              if drawing.frame.isLit cell = true then 1 else 0 :=
        rfl
      rw [List.foldl_cons, ih, List.length_cons, frame, erasures]
      omega

/-! ## The toggles of a drawing -/

variable {wrapRows : Bool} {row column : UInt64}

theorem frame_strike (drawing : Drawing) :
    (drawing.strike wrapRows row column).frame =
      (drawing.frame.toggle wrapRows row column).frame :=
  congrArg Prod.fst (seen_strike wrapRows row column drawing)

theorem erasures_strike (drawing : Drawing) :
    (drawing.strike wrapRows row column).erasures =
      drawing.erasures +
        if (drawing.frame.toggle wrapRows row column).collides = true
        then 1 else 0 := by
  rw [strike, Frame.toggle]
  cases Cell.place? wrapRows row column with
  | none => rfl
  | some cell =>
      simp only [collides_flip]
      rfl

/-- Strikes the cells under points given as offsets, one after another. -/
def strikeEach
    (wrapRows : Bool) (row column : UInt64) (drawing : Drawing)
    (points : List (Nat × Nat)) : Drawing :=
  points.foldl
    (fun drawing point =>
      drawing.strike wrapRows (row + UInt64.ofNat point.1)
        (column + UInt64.ofNat point.2))
    drawing

theorem strikeEach_cons
    (drawing : Drawing) (point : Nat × Nat) (rest : List (Nat × Nat)) :
    drawing.strikeEach wrapRows row column (point :: rest) =
      (drawing.strike wrapRows (row + UInt64.ofNat point.1)
        (column + UInt64.ofNat point.2)).strikeEach wrapRows row column
          rest :=
  rfl

end Drawing

namespace Frame

/--
The toggles of points one after another, each on the frame that the one
before it left.  The points are offsets from the given coordinates.
-/
def toggles
    (wrapRows : Bool) (row column : UInt64) (frame : Frame) :
    List (Nat × Nat) → List Drawing
  | [] => []
  | point :: rest =>
    let toggled :=
      frame.toggle wrapRows (row + UInt64.ofNat point.1)
        (column + UInt64.ofNat point.2)
    toggled :: toggled.frame.toggles wrapRows row column rest

variable {wrapRows : Bool} {row column : UInt64}

/-- A draw strikes the set points of its sprite one after the other. -/
theorem draw_eq_strikeEach (frame : Frame) (sprite : Sprite) :
    frame.draw wrapRows row column sprite =
      (Drawing.start frame).strikeEach wrapRows row column sprite.points := by
  rw [draw, Sprite.landings, List.foldl_filterMap, Drawing.strikeEach]
  congr 1
  funext drawing point
  simp only [Drawing.strike]
  cases Cell.place? wrapRows (row + UInt64.ofNat point.1)
    (column + UInt64.ofNat point.2) <;> rfl

/-- Strikes end with the frame that the last of the toggles leaves. -/
theorem frame_strikeEach (drawing : Drawing) (points : List (Nat × Nat)) :
    (drawing.strikeEach wrapRows row column points).frame =
      ((drawing.frame.toggles wrapRows row column points).map
        Drawing.frame).getLastD drawing.frame := by
  induction points generalizing drawing with
  | nil => rfl
  | cons point rest ih =>
      rw [Drawing.strikeEach_cons, ih, Drawing.frame_strike, toggles,
        List.map_cons, List.getLastD_cons]

/-- Strikes count the toggles that put out a cell. -/
theorem erasures_strikeEach
    (drawing : Drawing) (points : List (Nat × Nat)) :
    (drawing.strikeEach wrapRows row column points).erasures =
      drawing.erasures +
        (drawing.frame.toggles wrapRows row column points).countP
          Drawing.collides := by
  induction points generalizing drawing with
  | nil => rfl
  | cons point rest ih =>
      rw [Drawing.strikeEach_cons, ih, Drawing.frame_strike,
        Drawing.erasures_strike, toggles, List.countP_cons]
      omega

/--
A drawing toggles the set points of a sprite one after another.  The cells
lit before and the set points whose row is not dropped are the cells lit
after it and twice the toggles that put out a cell.  It collides exactly if
there are such toggles, which is when it lights less than one cell for each
point that lands.  The number of lit cells keeps its parity exactly if an
even number of points lands.
-/
theorem draw_accounts_for_lit_cells
    (frame : Frame) (wrapRows : Bool) (row column : UInt64)
    (sprite : Sprite) :
    let drawing := frame.draw wrapRows row column sprite
    let toggles := frame.toggles wrapRows row column sprite.points
    let erased := toggles.countP Drawing.collides
    let landed :=
      {point ∈ Finset.range sprite.length ×ˢ Finset.range 8 |
        sprite.isSet point.1 point.2 = true ∧
          (wrapRows = true ∨ (row.toNat + point.1) % 2 ^ 64 < 32)}.card
    drawing.frame = (toggles.map Drawing.frame).getLastD frame ∧
      drawing.frame.litCount + 2 * erased = frame.litCount + landed ∧
      (drawing.collides = true ↔ 0 < erased) ∧
      (drawing.collides = false ↔
        drawing.frame.litCount = frame.litCount + landed) ∧
      (drawing.frame.litCount % 2 = frame.litCount % 2 ↔
        landed % 2 = 0) := by
  intro drawing toggles erased landed
  have struck :
      drawing =
        (Drawing.start frame).strikeEach wrapRows row column
          sprite.points :=
    draw_eq_strikeEach frame sprite
  have counted : drawing.erasures = erased := by
    rw [struck, erasures_strikeEach]
    exact Nat.zero_add erased
  have balance :
      drawing.frame.litCount + 2 * erased = frame.litCount + landed := by
    rw [← counted, show landed = _ from (sprite.length_landings).symm]
    exact (Drawing.start frame).litCount_foldl_flip
      (sprite.landings wrapRows row column)
  have collides : drawing.collides = true ↔ 0 < erased := by
    rw [← counted]
    exact decide_eq_true_iff
  refine ⟨?_, balance, collides, ?_, ?_⟩
  · rw [struck]
    exact frame_strikeEach (Drawing.start frame) sprite.points
  · rw [← Bool.not_eq_true, collides]
    omega
  · omega

end Frame

end ChipEight
