import ChipEight.Proofs.Effect
import ChipEight.Proofs.Sprite

/-!
# Draws undo themselves and commute

A draw inverts a set of cells that does not depend on the frame, so drawing
the same sprite twice restores the frame and the order of two draws does not
matter to it.  An instruction writes its flag as well, so this holds of
draws whose position is not in the flag register.  The flag itself depends
on the frame that a draw meets: the second of two equal draws reports
whether the first one lit a cell, and two draws in another order may report
differently (`draws_cancel_and_commute`).
-/

namespace ChipEight

open Instruction (xyWord)

/-! ## Drawings of sprites -/

namespace Frame

variable {wrapRows : Bool}

/-- Drawing a sprite again where it was drawn restores the frame. -/
theorem draw_draw_self
    (frame : Frame) (row column : UInt64) (sprite : Sprite) :
    ((frame.draw wrapRows row column sprite).frame.draw wrapRows row column
        sprite).frame =
      frame := by
  apply eq_of_isLit_eq
  intro cell
  rw [isLit_draw, isLit_draw, Bool.xor_assoc, Bool.xor_self, Bool.xor_false]

/-- Two sprites drawn in either order leave the same frame. -/
theorem draw_draw_comm
    (frame : Frame) (row otherRow column otherColumn : UInt64)
    (sprite other : Sprite) :
    ((frame.draw wrapRows row column sprite).frame.draw wrapRows otherRow
        otherColumn other).frame =
      ((frame.draw wrapRows otherRow otherColumn other).frame.draw wrapRows
        row column sprite).frame := by
  apply eq_of_isLit_eq
  intro cell
  simp only [isLit_draw]
  exact Bool.xor_right_comm _ _ _

end Frame

/-! ## Draws as instructions -/

theorem bit_eq_one_iff {condition : Bool} :
    bit condition = 1 ↔ condition = true := by
  cases condition <;> decide

/-- A draw whose position is not in the register that it reports in. -/
structure PlainDraw where
  column : Register
  row : Register
  height : Fin 16
  column_ne_flag : column ≠ flagRegister
  row_ne_flag : row ≠ flagRegister

namespace PlainDraw

/-- The word of a draw. -/
def word (draw : PlainDraw) : UInt16 :=
  UInt16.ofNat (xyWord 0xD draw.column draw.row draw.height.val)

/-- The instruction of a draw. -/
def instruction (draw : PlainDraw) : Instruction :=
  .draw draw.column draw.row draw.height

/-- The drawing that a draw makes on a frame, with all else as in a state. -/
def drawing
    (draw : PlainDraw) (wrapRows : Bool) (state : State) (frame : Frame) :
    Drawing :=
  frame.draw wrapRows
    (state.register draw.row).toUInt64 (state.register draw.column).toUInt64
    (state.memory.readBlock state.index draw.height.val)

variable {surroundings : Surroundings} {state : State}

theorem afterWord?_word (draw : PlainDraw) :
    state.afterWord? surroundings draw.word =
      some (draw.instruction.stateAfter surroundings state) :=
  @State.afterWord?_encode state draw.instruction surroundings rfl

theorem frame_after (draw : PlainDraw) :
    (draw.instruction.stateAfter surroundings state).frame =
      (draw.drawing surroundings.wrapRows state state.frame).frame :=
  Instruction.frame_stateAfter

theorem flag_after (draw : PlainDraw) :
    (draw.instruction.stateAfter surroundings state).register flagRegister =
      bit (draw.drawing surroundings.wrapRows state state.frame).collides :=
  (State.register_setRegister _ _ _ _).trans (if_pos rfl)

/-- What a draw draws is the same before and after another draw. -/
theorem drawing_after (draw other : PlainDraw) (frame : Frame) :
    draw.drawing surroundings.wrapRows
        (other.instruction.stateAfter surroundings state) frame =
      draw.drawing surroundings.wrapRows state frame := by
  have kept {register : Register} (notFlag : register ≠ flagRegister) :
      (other.instruction.stateAfter surroundings state).register register =
        state.register register :=
    (State.register_setRegister _ _ _ _).trans (if_neg (Ne.symm notFlag))
  rw [drawing, drawing, kept draw.row_ne_flag, kept draw.column_ne_flag]
  rfl

/-- A draw reports exactly if it puts out a cell. -/
theorem collides_drawing_iff
    (draw : PlainDraw) (wrapRows : Bool) (frame : Frame) :
    (draw.drawing wrapRows state frame).collides = true ↔
      ∃ cell,
        frame.isLit cell = true ∧
          (draw.drawing wrapRows state frame).frame.isLit cell = false := by
  apply Frame.collides_draw_iff_of_short
  have bound := draw.height.isLt
  rw [Memory.length_readBlock]
  omega

/--
Drawing twice gives the frame back, since nothing that a draw reads has
changed.
-/
theorem frame_after_after_self (draw : PlainDraw) :
    (draw.instruction.stateAfter surroundings
        (draw.instruction.stateAfter surroundings state)).frame =
      state.frame := by
  rw [frame_after, drawing_after, frame_after]
  exact state.frame.draw_draw_self _ _ _

theorem frame_after_after_comm (draw other : PlainDraw) :
    (other.instruction.stateAfter surroundings
        (draw.instruction.stateAfter surroundings state)).frame =
      (draw.instruction.stateAfter surroundings
        (other.instruction.stateAfter surroundings state)).frame := by
  rw [frame_after, drawing_after, frame_after, frame_after, drawing_after,
    frame_after]
  exact state.frame.draw_draw_comm _ _ _ _ _ _

/-- The second of two equal draws reports if the first one lit a cell. -/
theorem collides_again_iff (draw : PlainDraw) :
    let once := draw.instruction.stateAfter surroundings state
    (draw.drawing surroundings.wrapRows once once.frame).collides = true ↔
      ∃ cell,
        state.frame.isLit cell = false ∧ once.frame.isLit cell = true := by
  intro once
  have restored :
      (draw.drawing surroundings.wrapRows once once.frame).frame =
        state.frame :=
    draw.frame_after.symm.trans draw.frame_after_after_self
  rw [collides_drawing_iff, restored]
  apply exists_congr
  intro cell
  exact and_comm

/--
The order of two draws may show in the flag: here only the first sprite
meets a lit cell, so the flag tells which draw came last.
-/
theorem exists_flag_after_after_ne (surroundings : Surroundings) :
    ∃ (state : State) (first second : PlainDraw),
      (second.instruction.stateAfter surroundings
          (first.instruction.stateAfter surroundings state)).register
          flagRegister ≠
        (first.instruction.stateAfter surroundings
          (second.instruction.stateAfter surroundings state)).register
          flagRegister := by
  let corner : Cell := ⟨0, 0⟩
  let state : State :=
    { State.initial.setRegister 1 8 with frame := Frame.blank.flip corner }
  let first : PlainDraw := ⟨0, 0, 1, by decide, by decide⟩
  let second : PlainDraw := ⟨1, 0, 1, by decide, by decide⟩
  have reports (wrapRows : Bool) :
      let drawn (draw : PlainDraw) := draw.drawing wrapRows state
      (drawn second (drawn first state.frame).frame).collides = false ∧
        (drawn first (drawn second state.frame).frame).collides = true := by
    cases wrapRows <;> decide +kernel
  refine ⟨state, first, second, ?_⟩
  rw [flag_after, flag_after, drawing_after, drawing_after, frame_after,
    frame_after, (reports _).1, (reports _).2]
  decide

/-- The state after the words of two draws, one after the other. -/
def afterBoth?
    (first : PlainDraw) (surroundings : Surroundings) (state : State)
    (second : PlainDraw) : Option State :=
  (state.afterWord? surroundings first.word).bind fun next =>
    next.afterWord? surroundings second.word

theorem afterBoth?_eq_some (first second : PlainDraw) :
    first.afterBoth? surroundings state second =
      some (second.instruction.stateAfter surroundings
        (first.instruction.stateAfter surroundings state)) := by
  rw [afterBoth?, afterWord?_word, Option.bind_some, afterWord?_word]

end PlainDraw

/--
Executing the word of a draw twice in a row restores the frame, and the
second execution leaves one in the flag register exactly if the first one lit
a cell that was not lit before.  The words of two draws lead to the same
frame in either order, but not always to the same flag.
-/
theorem draws_cancel_and_commute (surroundings : Surroundings) :
    (∀ (state : State) (draw : PlainDraw),
      ∃ once twice,
        state.afterWord? surroundings draw.word = some once ∧
          once.afterWord? surroundings draw.word = some twice ∧
          twice.frame = state.frame ∧
          (twice.register flagRegister = 1 ↔
            ∃ cell,
              state.frame.isLit cell = false ∧
                once.frame.isLit cell = true)) ∧
      (∀ (state : State) (first second : PlainDraw),
        ∃ forth back,
          first.afterBoth? surroundings state second = some forth ∧
            second.afterBoth? surroundings state first = some back ∧
            forth.frame = back.frame) ∧
      ∃ (state : State) (first second : PlainDraw) (forth back : State),
        first.afterBoth? surroundings state second = some forth ∧
          second.afterBoth? surroundings state first = some back ∧
          forth.register flagRegister ≠ back.register flagRegister := by
  refine ⟨?_, ?_, ?_⟩
  · intro state draw
    let once := draw.instruction.stateAfter surroundings state
    let twice := draw.instruction.stateAfter surroundings once
    have reported :
        twice.register flagRegister = 1 ↔
          ∃ cell,
            state.frame.isLit cell = false ∧ once.frame.isLit cell = true :=
      calc
        twice.register flagRegister = 1
        _ ↔ (draw.drawing surroundings.wrapRows once once.frame).collides =
              true := by
          rw [draw.flag_after, bit_eq_one_iff]
        _ ↔ _ := draw.collides_again_iff
    exact
      ⟨once, twice, draw.afterWord?_word, draw.afterWord?_word,
        draw.frame_after_after_self, reported⟩
  · intro state first second
    exact
      ⟨_, _, first.afterBoth?_eq_some second, second.afterBoth?_eq_some first,
        first.frame_after_after_comm second⟩
  · rcases PlainDraw.exists_flag_after_after_ne surroundings with
      ⟨state, first, second, differ⟩
    exact
      ⟨state, first, second, _, _, first.afterBoth?_eq_some second,
        second.afterBoth?_eq_some first, differ⟩

end ChipEight
