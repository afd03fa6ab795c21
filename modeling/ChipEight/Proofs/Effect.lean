import ChipEight.Instruction.RoundTrip
import ChipEight.Machine.Execute

/-!
# What an instruction does to each field

Executing an instruction rebuilds the whole state.  For each field this
module gives the value after a successful execution as a function of the
instruction and the state before it: the instructions that own the field are
listed, and every other instruction leaves it alone.  It also says exactly
when an execution fails, which only calls and returns do; `execute_eq` puts
the two together as one equation, and `afterWord?` executes a word.
-/

namespace ChipEight

variable {surroundings : Surroundings} {state next : State}
  {instruction : Instruction} {fault : Fault}

namespace State

/-- The drawing of the bytes from the index on as a sprite. -/
def drawing
    (state : State) (wrapRows : Bool) (column row : Register)
    (height : Fin 16) : Drawing :=
  state.frame.draw wrapRows
    (state.register row).toUInt64 (state.register column).toUInt64
    (state.memory.readBlock state.index height.val)

theorem register_fillRegisters
    (state : State) (last register : Register) :
    (state.fillRegisters last).register register =
      if register ≤ last then
        state.memory.read (state.index + UInt16.ofNat register.val)
      else state.register register := by
  simp only [State.register, fillRegisters, Fin.getElem_fin,
    Vector.getElem_ofFn, Fin.le_def]

@[simp]
theorem length_registersThrough (state : State) (last : Register) :
    (state.registersThrough last).length = last.val + 1 := by
  have bound := last.isLt
  simp only [registersThrough, List.length_take, Vector.length_toList]
  omega

theorem depth_pos (nonempty : state.depth ≠ 0) : 0 < state.depth.toNat := by
  rw [Nat.pos_iff_ne_zero, Ne, ← UInt8.toNat_zero, UInt8.toNat_inj]
  exact nonempty

theorem toNat_depth_sub_one (nonempty : state.depth ≠ 0) :
    (state.depth - 1).toNat = state.depth.toNat - 1 :=
  UInt8.toNat_sub_of_le state.depth 1 (depth_pos nonempty)

/--
A call succeeds exactly if a slot is free, and stores the address behind it
there.
-/
theorem enter_eq_ok_iff {target : Address} :
    state.enter target = .ok next ↔
      ∃ free : state.depth.toNat < 16,
        next =
          { state with
            counter := UInt16.ofNat target.val
            depth := state.depth + 1
            returns :=
              state.returns.set state.depth.toNat (state.counter + 2) } := by
  unfold enter
  by_cases free : state.depth.toNat < 16
  · simp [free, eq_comm]
  · simp [free]

/--
A return succeeds exactly if there is a live slot, and continues at its
address.
-/
theorem leave_eq_ok_iff :
    state.leave = .ok next ↔
      state.depth ≠ 0 ∧
        ∃ live : state.depth.toNat - 1 < 16,
          next =
            { state with
              counter := state.returns[state.depth.toNat - 1]
              depth := state.depth - 1 } := by
  unfold leave
  by_cases empty : state.depth = 0
  · simp [empty]
  · by_cases live : state.depth.toNat - 1 < 16
    · simp [empty, live, eq_comm]
    · simp [empty, live]

/-- A call fails exactly if all slots are in use. -/
theorem enter_eq_error_iff {target : Address} :
    state.enter target = .error fault ↔
      16 ≤ state.depth.toNat ∧
        fault = .stackOverflow state.counter state.depth := by
  unfold enter
  by_cases free : state.depth.toNat < 16
  · have shallow : ¬ 16 ≤ state.depth.toNat := by omega
    simp [free, shallow]
  · have full : 16 ≤ state.depth.toNat := by omega
    simp [free, full, eq_comm]

/-- Short of an overfull stack a return fails exactly if the stack is empty. -/
theorem leave_eq_error_iff
    (shallow : state.depth.toNat ≤ 16) :
    state.leave = .error fault ↔
      state.depth = 0 ∧ fault = .stackUnderflow state.counter := by
  unfold leave
  have live : state.depth.toNat - 1 < 16 := by omega
  by_cases empty : state.depth = 0
  · simp [empty, eq_comm]
  · simp [empty, live]

end State

namespace Instruction

/-! ## Failure -/

/-- Among all instructions only calls and returns can fail. -/
theorem execute_eq_error_iff
    (shallow : state.depth.toNat ≤ 16) :
    instruction.execute surroundings state = .error fault ↔
      (instruction = .ret ∧ state.depth = 0 ∧
          fault = .stackUnderflow state.counter) ∨
        (∃ target, instruction = .call target) ∧ state.depth = 16 ∧
          fault = .stackOverflow state.counter state.depth := by
  cases instruction with
  | ret =>
      simp [execute, State.leave_eq_error_iff shallow]
  | call target =>
      have full : 16 ≤ state.depth.toNat ↔ state.depth = 16 := by
        rw [← UInt8.toNat_inj]
        constructor
        · intro deep
          exact Nat.le_antisymm shallow deep
        · intro equality
          exact Nat.le_of_eq equality.symm
      simp [execute, State.enter_eq_error_iff, full]
  | _ => simp [execute]

/-! ## Success -/

/-- The registers after an instruction. -/
def registersAfter
    (surroundings : Surroundings) (state : State) :
    Instruction → Vector UInt8 16
  | setByte target value => (state.setRegister target value).registers
  | addByte target value =>
      (state.setRegister target (state.register target + value)).registers
  | combine operator first second =>
      (state.setResult first
        (operator.apply (state.register first)
          (state.register second))).registers
  | random target mask =>
      (state.setRegister target (surroundings.random.byte &&& mask)).registers
  | draw column row height =>
      (state.setRegister flagRegister
        (bit (state.drawing surroundings.wrapRows column row
          height).collides)).registers
  | readDelay target => (state.setRegister target state.delay).registers
  | loadRegisters last => (state.fillRegisters last).registers
  | _ => state.registers

/-- The index after an instruction. -/
def indexAfter (state : State) : Instruction → UInt16
  | setIndex target => UInt16.ofNat target.val
  | addIndex source =>
      (state.index + (state.register source).toUInt16) &&& 0x0FFF
  | pointGlyph source =>
      UInt16.ofNat (glyphHeight * (state.register source).toNat)
  | _ => state.index

/-- The counter after an instruction, if a return has an address to return to. -/
def counterAfter
    (surroundings : Surroundings) (state : State) : Instruction → UInt16
  | ret => (state.returns[state.depth.toNat - 1]?).getD state.counter
  | jump target | call target => UInt16.ofNat target.val
  | skip condition =>
      if condition.holds surroundings.keypad state then
        state.counter + 2 + 2
      else state.counter + 2
  | jumpOffset target =>
      (UInt16.ofNat target.val
        + (state.register offsetRegister).toUInt16) &&& 0x0FFF
  | _ => state.counter + 2

/-- The depth after an instruction. -/
def depthAfter (state : State) : Instruction → UInt8
  | ret => state.depth - 1
  | call _ => state.depth + 1
  | _ => state.depth

/-- The return slots after an instruction. -/
def returnsAfter (state : State) : Instruction → Vector UInt16 16
  | call _ =>
      state.returns.setIfInBounds state.depth.toNat (state.counter + 2)
  | _ => state.returns

/-- The delay timer after an instruction. -/
def delayAfter (state : State) : Instruction → UInt8
  | setDelay source => state.register source
  | _ => state.delay

/-- The sound timer after an instruction. -/
def soundAfter (state : State) : Instruction → UInt8
  | setSound source => state.register source
  | _ => state.sound

/-- The memory after an instruction. -/
def memoryAfter (state : State) : Instruction → Memory
  | storeDecimal source =>
      state.memory.writeBlock state.index
        (decimalDigits (state.register source))
  | saveRegisters last =>
      state.memory.writeBlock state.index (state.registersThrough last)
  | _ => state.memory

/-- The frame after an instruction. -/
def frameAfter
    (surroundings : Surroundings) (state : State) : Instruction → Frame
  | clear => .blank
  | draw column row height =>
      (state.drawing surroundings.wrapRows column row height).frame
  | _ => state.frame

/-- The awaited register after an instruction. -/
def waitingAfter (state : State) : Instruction → Option UInt8
  | awaitKey target => some (UInt8.ofNat target.val)
  | _ => state.waiting

/-- The state after an instruction that does not fail, field by field. -/
def stateAfter
    (surroundings : Surroundings) (state : State)
    (instruction : Instruction) : State where
  registers := instruction.registersAfter surroundings state
  index := instruction.indexAfter state
  counter := instruction.counterAfter surroundings state
  depth := instruction.depthAfter state
  delay := instruction.delayAfter state
  sound := instruction.soundAfter state
  returns := instruction.returnsAfter state
  memory := instruction.memoryAfter state
  frame := instruction.frameAfter surroundings state
  waiting := instruction.waitingAfter state

@[simp]
theorem registers_stateAfter :
    (instruction.stateAfter surroundings state).registers =
      instruction.registersAfter surroundings state :=
  rfl

@[simp]
theorem index_stateAfter :
    (instruction.stateAfter surroundings state).index =
      instruction.indexAfter state :=
  rfl

@[simp]
theorem memory_stateAfter :
    (instruction.stateAfter surroundings state).memory =
      instruction.memoryAfter state :=
  rfl

@[simp]
theorem frame_stateAfter :
    (instruction.stateAfter surroundings state).frame =
      instruction.frameAfter surroundings state :=
  rfl

/-- Every successful execution is the one described field by field. -/
theorem execute_eq_ok
    (success : instruction.execute surroundings state = .ok next) :
    next = instruction.stateAfter surroundings state := by
  cases instruction with
  | ret =>
      rcases State.leave_eq_ok_iff.mp success with ⟨_, live, rfl⟩
      have slot :
          state.returns[state.depth.toNat - 1]? =
            some state.returns[state.depth.toNat - 1] :=
        Vector.getElem?_eq_getElem live
      simp only [stateAfter, counterAfter, slot, Option.getD_some]
      rfl
  | call target =>
      rcases State.enter_eq_ok_iff.mp success with ⟨free, rfl⟩
      have slot :
          state.returns.setIfInBounds state.depth.toNat (state.counter + 2) =
            state.returns.set state.depth.toNat (state.counter + 2) := by
        ext place bound
        rw [Vector.getElem_setIfInBounds, Vector.getElem_set]
      simp only [stateAfter, returnsAfter, slot]
      rfl
  | skip condition =>
      cases success
      simp only [stateAfter, counterAfter]
      split <;> rfl
  | combine operator first second =>
      cases success
      simp only [stateAfter, registersAfter]
      rcases operator.apply (state.register first) (state.register second) with
        ⟨value, _ | flag⟩ <;> rfl
  | _ => exact (Except.ok.inj success).symm

/-! ## Either way -/

/-- The fault that an instruction meets, if it meets one. -/
def fault? (state : State) : Instruction → Option Fault
  | ret =>
      if state.depth = 0 then some (.stackUnderflow state.counter)
      else if state.depth.toNat - 1 < 16 then none
      else some (.returnMissing state.counter state.depth)
  | call _ =>
      if state.depth.toNat < 16 then none
      else some (.stackOverflow state.counter state.depth)
  | _ => none

/-- An instruction fails with its fault or else has all of its effects. -/
theorem execute_eq
    (surroundings : Surroundings) (state : State)
    (instruction : Instruction) :
    instruction.execute surroundings state =
      match instruction.fault? state with
      | some fault => .error fault
      | none => .ok (instruction.stateAfter surroundings state) := by
  cases instruction with
  | ret =>
      by_cases empty : state.depth = 0
      · simp only [execute, State.leave, fault?, empty, if_true]
      · by_cases live : state.depth.toNat - 1 < 16
        · have success : ret.execute surroundings state = .ok _ :=
            State.leave_eq_ok_iff.mpr ⟨empty, live, rfl⟩
          simp only [fault?, empty, live, if_true, if_false]
          rw [success, execute_eq_ok success]
        · simp only [execute, State.leave, fault?, empty, live, if_false,
            dif_neg, not_false_eq_true]
  | call target =>
      by_cases free : state.depth.toNat < 16
      · have success : (call target).execute surroundings state = .ok _ :=
          State.enter_eq_ok_iff.mpr ⟨free, rfl⟩
        simp only [fault?, free, if_true]
        rw [success, execute_eq_ok success]
      · simp only [execute, State.enter, fault?, free, if_false, dif_neg,
          not_false_eq_true]
  | _ => exact congrArg Except.ok (execute_eq_ok rfl)

end Instruction

/-! ## Words -/

/--
The state after a word, executed as the word at the counter, if it is an
instruction that does not fail.
-/
def State.afterWord?
    (surroundings : Surroundings) (state : State) (word : UInt16) :
    Option State :=
  (Instruction.decode? word).bind fun instruction =>
    (instruction.execute surroundings state).toOption

theorem State.afterWord?_encode
    (surroundings : Surroundings)
    (sound : instruction.fault? state = none) :
    state.afterWord? surroundings instruction.encode =
      some (instruction.stateAfter surroundings state) := by
  rw [afterWord?, Instruction.decode?_encode, Option.bind_some,
    Instruction.execute_eq, sound]
  rfl

end ChipEight
