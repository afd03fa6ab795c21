import ChipEight.Instruction.RoundTrip
import ChipEight.Proofs.Effect
import ChipEight.Proofs.Memory
import ChipEight.Proofs.Run
import ChipEight.Proofs.Sprite
import Mathlib.Algebra.BigOperators.Group.List.Basic
import Mathlib.Data.List.DropRight

/-!
# The frame as the sum of its draws

Every draw inverts the cells where one of its set bits lands, a clear or a
reset puts out all cells, and nothing else touches the frame.  A cell is
therefore lit exactly when an odd number of bits landed on it since the last
clearing, which `Session.frame_is_sum_of_draws` states for every session,
together with what a draw reports and what a tick shows.
-/

namespace ChipEight

namespace Machine

variable {machine : Machine} {cell : Cell}

/-! ## The bits of one draw -/

/--
The number of set bits that a draw with these operands lands on a cell.  The
sprite is read from the index on with its corner at the registers' values.
-/
def bitsOn
    (machine : Machine) (column row : Register) (height : Fin 16)
    (cell : Cell) : Nat :=
  {bit ∈ Finset.range height.val ×ˢ Finset.range 8 |
    (machine.state.memory.byteAt
        (machine.state.index.toNat + bit.1)).toNat.testBit
      (7 - bit.2) = true ∧
    ((machine.state.register column).toNat + bit.2) % 64 =
      cell.column.val ∧
    (if machine.config.wrapRows then
      ((machine.state.register row).toNat + bit.1) % 32
    else (machine.state.register row).toNat + bit.1) = cell.row.val}.card

theorem hits_eq_bitsOn
    (machine : Machine) (column row : Register) (height : Fin 16)
    (cell : Cell) :
    Sprite.hits machine.config.wrapRows
        (machine.state.register row).toUInt64
        (machine.state.register column).toUInt64
        (machine.state.memory.readBlock machine.state.index height.val)
        cell =
      machine.bitsOn column row height cell := by
  unfold Sprite.hits bitsOn
  congr 1
  ext ⟨down, right⟩
  have shortRow := (machine.state.register row).toNat_lt
  have shortSprite := height.isLt
  simp only [Memory.length_readBlock, Finset.mem_filter,
    Finset.mem_product, Finset.mem_range, Sprite.isSet,
    Memory.getElem?_readBlock, Sprite.LandsOn, UInt8.toNat_toUInt64]
  apply and_congr_right
  rintro ⟨inSprite, _⟩
  have noWrap :
      ((machine.state.register row).toNat + down) % 2 ^ 64 =
        (machine.state.register row).toNat + down :=
    Nat.mod_eq_of_lt (by omega)
  simp only [inSprite, if_true, Option.getD_some, noWrap]
  cases machine.config.wrapRows <;> simp

/-- A draw inverts the cells where an odd number of its bits land. -/
theorem isLit_drawing
    (machine : Machine) (column row : Register) (height : Fin 16)
    (cell : Cell) :
    (machine.state.drawing machine.config.wrapRows column row
        height).frame.isLit cell =
      (machine.state.frame.isLit cell ^^
        decide (Odd (machine.bitsOn column row height cell))) := by
  rw [State.drawing, Frame.isLit_draw, hits_eq_bitsOn]

/-- A draw collides exactly when it puts out a cell. -/
theorem collides_drawing_iff
    (machine : Machine) (column row : Register) (height : Fin 16) :
    (machine.state.drawing machine.config.wrapRows column row
        height).collides = true ↔
      ∃ cell,
        machine.state.frame.isLit cell = true ∧
          (machine.state.drawing machine.config.wrapRows column row
            height).frame.isLit cell = false := by
  apply Frame.collides_draw_iff_of_short
  have bound := height.isLt
  rw [Memory.length_readBlock]
  omega

/-! ## The frame after a cycle -/

/-- A cycle gives the frame to the instruction that it executes, if any. -/
theorem frame_cycle (machine : Machine) :
    machine.cycle.machine.state.frame =
      match machine.upcoming? with
      | some instruction =>
          instruction.frameAfter machine.surroundings machine.state
      | none => machine.state.frame :=
  observe_cycle State.frame machine (fun _ _ => rfl) rfl fun _ => rfl

/-- A draw always succeeds, shows its drawing and reports its collision. -/
theorem cycle_of_upcoming_draw
    {column row : Register} {height : Fin 16}
    (upcoming : machine.upcoming? = some (.draw column row height)) :
    (∃ status, machine.cycle.result = .ok status) ∧
      machine.cycle.machine.state.frame =
        (machine.state.drawing machine.config.wrapRows column row
          height).frame ∧
      machine.cycle.machine.state.register flagRegister =
        bit (machine.state.drawing machine.config.wrapRows column row
          height).collides := by
  rcases cycle_machine_of_upcoming upcoming with
    ⟨fault, execution, _, _⟩ | ⟨next, execution, succeeded, after⟩
  · cases execution
  · refine ⟨succeeded, ?_, ?_⟩
    · rw [frame_cycle, upcoming]
      rfl
    · rw [after]
      cases execution
      exact (State.register_setRegister _ _ _ _).trans (if_pos rfl)

end Machine

/-! ## The steps that clear and draw -/

namespace Step

/-- Whether a step puts out all cells: it is a reset or fetches `00E0`. -/
def clears (step : Step) : Bool :=
  decide (step.operation = .reset ∨ step.word? = some 0x00E0)

/--
The number of set bits that a step lands on a cell.  Only the words `Dxyn`
land any, by their last three digits.
-/
def bitsOn (step : Step) (cell : Cell) : Nat :=
  match step.word? with
  | some word =>
      if word.toNat / 4096 = 0xD then
        step.before.bitsOn (Opcode.x word) (Opcode.y word) (Opcode.n word) cell
      else 0
  | none => 0

theorem word?_eq_clear_iff {step : Step} :
    step.word? = some 0x00E0 ↔ step.instruction? = some .clear := by
  rw [instruction?_eq_some_iff]
  constructor
  · intro fetched
    exact ⟨0x00E0, fetched, rfl⟩
  · rintro ⟨word, fetched, number⟩
    have same : word = 0x00E0 := UInt16.toNat_inj.mp number
    rw [same] at fetched
    exact fetched

/-- Words `Dxyn` draw, and no other words do. -/
theorem exists_draw_iff {step : Step} :
    (∃ column row height,
        step.instruction? = some (.draw column row height)) ↔
      ∃ word ∈ step.word?, word.toNat / 4096 = 0xD := by
  simp only [instruction?_eq_some_iff, Instruction.number]
  constructor
  · rintro ⟨column, row, height, word, fetched, number⟩
    exact ⟨word, fetched, (Opcode.fields_of_xyWord number height.isLt).1⟩
  · rintro ⟨word, fetched, family⟩
    have number := Instruction.xyWord_fields word
    rw [Opcode.family, family] at number
    exact ⟨_, _, _, word, fetched, number.symm⟩

theorem bitsOn_of_draw
    {step : Step} {column row : Register} {height : Fin 16}
    (executed : step.instruction? = some (.draw column row height))
    (cell : Cell) :
    step.bitsOn cell = step.before.bitsOn column row height cell := by
  rcases instruction?_eq_some_iff.mp executed with ⟨word, fetched, number⟩
  rcases Opcode.fields_of_xyWord number height.isLt with
    ⟨family, isColumn, isRow, isHeight⟩
  have draws : word.toNat / 4096 = 0xD := family
  rw [bitsOn, fetched]
  dsimp only
  rw [if_pos draws, isColumn, isRow, Fin.ext isHeight]

theorem bitsOn_of_noDraw
    {step : Step}
    (noDraw :
      ∀ column row height,
        step.instruction? ≠ some (.draw column row height))
    (cell : Cell) :
    step.bitsOn cell = 0 := by
  rw [bitsOn]
  cases fetched : step.word? with
  | none => rfl
  | some word =>
      refine if_neg fun family => ?_
      rcases exists_draw_iff.mpr ⟨word, fetched, family⟩ with
        ⟨column, row, height, executed⟩
      exact noDraw column row height executed

/-- A step leaves the frame to a reset or to the instruction it executes. -/
theorem frame_after (step : Step) :
    step.after.state.frame =
      if step.operation = .reset then .blank
      else
        match step.instruction? with
        | some instruction =>
            instruction.frameAfter step.before.surroundings step.before.state
        | none => step.before.state.frame := by
  rcases step with ⟨machine, operation⟩
  cases operation with
  | cycle => exact machine.frame_cycle
  | load program =>
      rcases machine.load_machine program with ⟨memory, loaded⟩
      rw [after, Machine.perform_load_machine, loaded]
      rfl
  | loadFile path contents =>
      rcases machine.loadFile_machine path contents with ⟨memory, loaded⟩
      rw [after, Machine.perform_loadFile_machine, loaded]
      rfl
  | _ => rfl

/-- A step that neither clears nor draws leaves the frame alone. -/
theorem frame_after_of_keeps
    {step : Step}
    (keeps : step.clears = false)
    (noDraw :
      ∀ column row height,
        step.instruction? ≠ some (.draw column row height)) :
    step.after.state.frame = step.before.state.frame := by
  simp only [clears, word?_eq_clear_iff, decide_eq_false_iff_not,
    not_or] at keeps
  rcases keeps with ⟨noReset, noClear⟩
  rw [frame_after, if_neg noReset]
  rcases executed : step.instruction? with _ | instruction
  · rfl
  · cases instruction with
    | clear => exact (noClear executed).elim
    | draw column row height => exact (noDraw column row height executed).elim
    | _ => rfl

/-- A step puts out all cells or inverts those that its bits land on. -/
theorem isLit_after (step : Step) (cell : Cell) :
    step.after.state.frame.isLit cell =
      if step.clears then false
      else
        (step.before.state.frame.isLit cell ^^
          decide (Odd (step.bitsOn cell))) := by
  by_cases clearing : step.clears = true
  · rw [if_pos clearing, frame_after]
    rcases of_decide_eq_true clearing with reset | cleared
    · rw [if_pos reset, Frame.isLit_blank]
    · rw [word?_eq_clear_iff.mp cleared]
      split
      · exact Frame.isLit_blank cell
      · exact Frame.isLit_blank cell
  · have keeps : step.clears = false := Bool.eq_false_of_not_eq_true clearing
    rw [if_neg clearing]
    by_cases draws :
        ∃ column row height,
          step.instruction? = some (.draw column row height)
    · rcases draws with ⟨column, row, height, executed⟩
      have noReset : step.operation ≠ .reset := by
        intro reset
        simp [clears, reset] at keeps
      rw [frame_after, if_neg noReset, executed, bitsOn_of_draw executed]
      exact step.before.isLit_drawing column row height cell
    · have noDraw (column row : Register) (height : Fin 16) :
          step.instruction? ≠ some (.draw column row height) := by
        intro executed
        exact draws ⟨column, row, height, executed⟩
      rw [frame_after_of_keeps keeps noDraw, bitsOn_of_noDraw noDraw]
      simp

end Step

/-! ## Runs -/

/-- The number of bits on a cell since the last clearing among some steps. -/
def bitsSinceClear (steps : List Step) (cell : Cell) : Nat :=
  ((steps.rtakeWhile fun step => !step.clears).map
    fun step => step.bitsOn cell).sum

/-- A clearing starts the count again, and any other step adds its bits. -/
theorem bitsSinceClear_concat
    (steps : List Step) (step : Step) (cell : Cell) :
    bitsSinceClear (steps ++ [step]) cell =
      if step.clears then 0
      else bitsSinceClear steps cell + step.bitsOn cell := by
  unfold bitsSinceClear
  rw [List.rtakeWhile_concat]
  cases step.clears <;> simp

namespace Machine

/--
From a blank frame on, a cell shows the parity of its bits.  The last step
either clears, and then nothing before it counts, or adds its own bits.
-/
theorem isLit_after
    {machine : Machine}
    (blank : machine.state.frame = .blank)
    (operations : List Operation) (cell : Cell) :
    (machine.after operations).state.frame.isLit cell =
      decide (Odd (bitsSinceClear (machine.trace operations) cell)) := by
  induction operations using List.reverseRecOn with
  | nil => simp [blank, bitsSinceClear]
  | append_singleton operations operation ih =>
      have last := Step.isLit_after ⟨machine.after operations, operation⟩ cell
      rw [trace_concat, bitsSinceClear_concat, after_append]
      refine last.trans ?_
      rw [ih]
      split
      · simp
      · exact (decide_odd_add _ _).symm

end Machine

/-! ## Sessions -/

namespace Pacer

theorem eq_frame_of_show_mem_tick
    {pacer : Pacer} {machine : Machine} {frame : Frame}
    (shown : .show frame ∈ (pacer.tick machine).requests) :
    frame = (pacer.tick machine).machine.state.frame := by
  rw [tick] at shown ⊢
  cases result : (machine.burst pacer.speed.toNat).result with
  | error fault => simp [result] at shown
  | ok answer => simpa [result] using shown

theorem eq_frame_of_show_mem_poll
    {pacer : Pacer} {machine : Machine} {now : Instant} {frame : Frame}
    (shown : .show frame ∈ (pacer.poll machine now).requests) :
    frame = (pacer.poll machine now).machine.state.frame := by
  rw [poll] at shown ⊢
  by_cases due : pacer.isDue now
  · simp only [due, if_true] at shown ⊢
    exact eq_frame_of_show_mem_tick shown
  · simp [due] at shown

end Pacer

namespace Session

open Instruction (xyWord)

/-- An action shows no frame but the one that it leaves. -/
theorem eq_frame_of_show_mem_act
    {session : Session} {action : Action} {frame : Frame}
    (shown : .show frame ∈ (session.act action).requests) :
    frame = (session.act action).session.machine.state.frame := by
  revert shown
  cases action with
  | operate operation =>
      intro shown
      cases shown
  | pace speed =>
      rw [act]
      cases Pacer.ofSpeed speed <;>
      · intro shown
        cases shown
  | tick =>
      rw [act]
      cases session.pacer with
      | none =>
          intro shown
          cases shown
      | some pacer => exact Pacer.eq_frame_of_show_mem_tick
  | poll now =>
      rw [act]
      cases session.pacer with
      | none =>
          intro shown
          cases shown
      | some pacer => exact Pacer.eq_frame_of_show_mem_poll

/--
In every session a cell is lit exactly when an odd number of sprite bits
landed on it since the last clear or reset.  A draw reports whether it puts
out a cell, no other operation than a draw, a clear or a reset changes the
frame, and ticks show the frame that they leave.
-/
theorem frame_is_sum_of_draws
    (config : Config) (random : RandomStream) (actions : List Action) :
    let start := create config random
    let session := start.after actions
    let machine := session.machine
    let steps := start.machine.trace (start.history actions)
    machine = start.machine.after (start.history actions) ∧
      (∀ cell,
        machine.state.frame.isLit cell = true ↔
          Odd (bitsSinceClear steps cell)) ∧
      (∀ (x y : Register) (n : Fin 16),
        machine.Fetches (xyWord 0xD x y n.val) →
          (∃ status, machine.cycle.result = .ok status) ∧
          ((∃ cell,
              machine.state.frame.isLit cell = true ∧
                machine.cycle.machine.state.frame.isLit cell = false) →
            machine.cycle.machine.state.register flagRegister = 1) ∧
          ((¬ ∃ cell,
              machine.state.frame.isLit cell = true ∧
                machine.cycle.machine.state.frame.isLit cell = false) →
            machine.cycle.machine.state.register flagRegister = 0)) ∧
      (∀ operation,
        let step : Step := ⟨machine, operation⟩
        step.clears = false →
        (∀ (x y : Register) (n : Fin 16),
          operation = .cycle → ¬ machine.Fetches (xyWord 0xD x y n.val)) →
        (machine.perform operation).machine.state.frame =
          machine.state.frame) ∧
      (∀ action,
        (session.act action).session.machine =
            machine.after (session.operations action) ∧
          ∀ operation ∈ session.operations action,
            action = .operate operation ∨ operation = .cycle ∨
              operation = .countDown) ∧
      ∀ action frame,
        .show frame ∈ (session.act action).requests →
          frame = (session.act action).session.machine.state.frame := by
  intro start session machine steps
  have run : machine = start.machine.after (start.history actions) :=
    start.after_machine actions
  refine ⟨run, ?_, ?_, ?_, session.act_operations, ?_⟩
  · intro cell
    rw [run, Machine.isLit_after rfl, decide_eq_true_eq]
  · intro x y n fetched
    have upcoming : machine.upcoming? = some (.draw x y n) :=
      Machine.upcoming?_eq_some_iff_fetches.mpr fetched
    rcases Machine.cycle_of_upcoming_draw upcoming with
      ⟨succeeded, drawn, flag⟩
    have collision := machine.collides_drawing_iff x y n
    rw [drawn, flag, ← collision]
    refine ⟨succeeded, ?_, ?_⟩
    · intro collides
      rw [collides]
      rfl
    · intro separate
      rw [Bool.eq_false_of_not_eq_true separate]
      rfl
  · intro operation step keeps noDraw
    refine step.frame_after_of_keeps keeps fun x y n executed => ?_
    cases operation with
    | cycle =>
        exact noDraw x y n rfl
          (Machine.upcoming?_eq_some_iff_fetches.mp executed)
    | _ => cases executed
  · intro action frame shown
    exact eq_frame_of_show_mem_act shown

/--
A program that draws a glyph twice on a new machine, the second time one
column further to the right, up to the second draw.
-/
def beforeSecondDraw : List Action :=
  [.operate (.load #[0xD0, 0x05, 0x61, 0x01, 0xD1, 0x05]), .operate .cycle,
    .operate .cycle]

/--
Where only one draw landed a bit the cell is lit, where both did it is not;
the second draw reports that it put cells out.
-/
theorem second_draw_puts_out_shared_cells :
    let start := create .standard (.cycling #[])
    let actions := beforeSecondDraw ++ [.operate .cycle]
    let steps := start.machine.trace (start.history actions)
    let machine := (start.after beforeSecondDraw).machine
    let frame := (start.after actions).machine.state.frame
    machine.Fetches (xyWord 0xD 1 0 5) ∧
      bitsSinceClear steps ⟨0, 0⟩ = 1 ∧ frame.isLit ⟨0, 0⟩ = true ∧
      bitsSinceClear steps ⟨0, 1⟩ = 2 ∧ frame.isLit ⟨0, 1⟩ = false ∧
      machine.cycle.machine.state.register flagRegister = 1 := by
  intro start actions steps machine frame
  have fetched : machine.Fetches (xyWord 0xD 1 0 5) := by decide +kernel
  have bits :
      bitsSinceClear steps ⟨0, 0⟩ = 1 ∧ bitsSinceClear steps ⟨0, 1⟩ = 2 := by
    decide +kernel
  have erased :
      machine.state.frame.isLit ⟨0, 1⟩ = true ∧
        machine.cycle.machine.state.frame.isLit ⟨0, 1⟩ = false := by
    decide +kernel
  have odd : Odd (bitsSinceClear steps ⟨0, 0⟩) := by
    rw [bits.1]
    decide
  have even : ¬ Odd (bitsSinceClear steps ⟨0, 1⟩) := by
    rw [bits.2]
    decide
  have sum := frame_is_sum_of_draws .standard (.cycling #[]) actions
  have law := frame_is_sum_of_draws .standard (.cycling #[]) beforeSecondDraw
  have isFrame : (start.after actions).machine.state.frame = frame := rfl
  have isSteps : start.machine.trace (start.history actions) = steps := rfl
  have isMachine : (start.after beforeSecondDraw).machine = machine := rfl
  simp only [start] at isFrame isSteps isMachine
  simp only [isFrame, isSteps] at sum
  simp only [isMachine] at law
  clear_value machine frame steps
  exact
    ⟨fetched, bits.1, (sum.2.1 ⟨0, 0⟩).mpr odd, bits.2,
      Bool.eq_false_of_not_eq_true ((sum.2.1 ⟨0, 1⟩).not.mpr even),
      (law.2.2.1 1 0 5 fetched).2.1 ⟨⟨0, 1⟩, erased⟩⟩

end Session

end ChipEight
