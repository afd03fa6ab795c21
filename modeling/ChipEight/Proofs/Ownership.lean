import ChipEight.Proofs.Arithmetic
import ChipEight.Proofs.Cycle
import ChipEight.Proofs.Memory

/-!
# What a cycle may change

Executing an instruction rebuilds the whole state, so every field of it
could come out different.  A `Part` is a piece of a machine that can change
by itself: a timer, one register, one byte of memory, one return slot.
`Machine.Owns` lists, for each part, the words whose cycle may change it;
a cycle that resumes a key wait owns the awaited register and the wait.
`Machine.cycle_changes_only_owned_parts` says that a cycle changes no part
that it does not own.
-/

namespace ChipEight

open Instruction (addressWord xkWord xyWord)

/-! ## Operators by their last digit -/

namespace Operator

theorem code_le_seven_or_eq (operator : Operator) :
    operator.code ≤ 0x7 ∨ operator.code = 0xE := by
  cases operator <;> decide

/-- The operators that report a flag are those of the last digits 4 to 7 and E. -/
theorem code_of_flag_ne_none
    {operator : Operator} {first second : UInt8}
    (reports : (operator.apply first second).2 ≠ none) :
    0x4 ≤ operator.code ∧ operator.code ≤ 0x7 ∨ operator.code = 0xE := by
  cases operator with
  | copy | or | and | xor => exact (reports rfl).elim
  | add | sub | shiftRight | subFrom | shiftLeft => decide

end Operator

namespace Machine

/-! ## Parts and their owners -/

/-- A piece of a machine that can change by itself, the counter apart. -/
inductive Part
  | depth
  | slot (place : Fin 16)
  | index
  | delay
  | sound
  | cell (place : Fin 4096)
  | frame
  | waiting
  | register (register : Register)
  | random

/-- Whether two machines have a part in common. -/
def Part.Agrees (first second : Machine) : Part → Prop
  | depth => first.state.depth = second.state.depth
  | slot place =>
      first.state.returns.get place = second.state.returns.get place
  | index => first.state.index = second.state.index
  | delay => first.state.delay = second.state.delay
  | sound => first.state.sound = second.state.sound
  | cell place =>
      first.state.memory.bytes.get place = second.state.memory.bytes.get place
  | frame => first.state.frame = second.state.frame
  | waiting => first.state.waiting = second.state.waiting
  | register target =>
      first.state.register target = second.state.register target
  | random => first.random = second.random

/-- Whether the next cycle puts a held key into the register with this number. -/
def Resumes (machine : Machine) (register : UInt8) : Prop :=
  machine.state.waiting = some register ∧ machine.keypad.lowest? ≠ none

/-- The parts that the next cycle may change, by the word that it fetches. -/
inductive Owns (machine : Machine) : Part → Prop
  | depthOfReturn
      (fetched : machine.Fetches 0x00EE) :
      machine.Owns .depth
  | depthOfCall (nnn : Address)
      (fetched : machine.Fetches (addressWord 0x2 nnn)) :
      machine.Owns .depth
  | slotOfCall (nnn : Address) (place : Fin 16)
      (next : place.val = machine.state.depth.toNat)
      (fetched : machine.Fetches (addressWord 0x2 nnn)) :
      machine.Owns (.slot place)
  | indexOfSet (nnn : Address)
      (fetched : machine.Fetches (addressWord 0xA nnn)) :
      machine.Owns .index
  | indexOfAdd (x : Register)
      (fetched : machine.Fetches (xkWord 0xF x 0x1E)) :
      machine.Owns .index
  | indexOfGlyph (x : Register)
      (fetched : machine.Fetches (xkWord 0xF x 0x29)) :
      machine.Owns .index
  | delayOfSet (x : Register)
      (fetched : machine.Fetches (xkWord 0xF x 0x15)) :
      machine.Owns .delay
  | soundOfSet (x : Register)
      (fetched : machine.Fetches (xkWord 0xF x 0x18)) :
      machine.Owns .sound
  | cellOfDecimal (x : Register) (place : Fin 4096) (k : Nat)
      (reached : k ≤ 2)
      (there : place.val = (machine.state.index.toNat + k) % 4096)
      (fetched : machine.Fetches (xkWord 0xF x 0x33)) :
      machine.Owns (.cell place)
  | cellOfSave (x : Register) (place : Fin 4096) (k : Nat)
      (reached : k ≤ x.val)
      (there : place.val = (machine.state.index.toNat + k) % 4096)
      (fetched : machine.Fetches (xkWord 0xF x 0x55)) :
      machine.Owns (.cell place)
  | frameOfClear
      (fetched : machine.Fetches 0x00E0) :
      machine.Owns .frame
  | frameOfDraw (x y : Register) (n : Fin 16)
      (fetched : machine.Fetches (xyWord 0xD x y n.val)) :
      machine.Owns .frame
  | waitingOfAwait (x : Register)
      (fetched : machine.Fetches (xkWord 0xF x 0x0A)) :
      machine.Owns .waiting
  | waitingOfResume (register : UInt8)
      (resumes : machine.Resumes register) :
      machine.Owns .waiting
  | registerOfSet (x : Register) (kk : UInt8)
      (fetched : machine.Fetches (xkWord 0x6 x kk.toNat)) :
      machine.Owns (.register x)
  | registerOfAdd (x : Register) (kk : UInt8)
      (fetched : machine.Fetches (xkWord 0x7 x kk.toNat)) :
      machine.Owns (.register x)
  | registerOfCombine (x y : Register) (last : Nat)
      (listed : last ≤ 0x7 ∨ last = 0xE)
      (fetched : machine.Fetches (xyWord 0x8 x y last)) :
      machine.Owns (.register x)
  | flagOfCombine (x y : Register) (last : Nat)
      (flagged : 0x4 ≤ last ∧ last ≤ 0x7 ∨ last = 0xE)
      (fetched : machine.Fetches (xyWord 0x8 x y last)) :
      machine.Owns (.register flagRegister)
  | registerOfRandom (x : Register) (kk : UInt8)
      (fetched : machine.Fetches (xkWord 0xC x kk.toNat)) :
      machine.Owns (.register x)
  | flagOfDraw (x y : Register) (n : Fin 16)
      (fetched : machine.Fetches (xyWord 0xD x y n.val)) :
      machine.Owns (.register flagRegister)
  | registerOfDelay (x : Register)
      (fetched : machine.Fetches (xkWord 0xF x 0x07)) :
      machine.Owns (.register x)
  | registerOfLoad (x register : Register)
      (reached : register ≤ x)
      (fetched : machine.Fetches (xkWord 0xF x 0x65)) :
      machine.Owns (.register register)
  | registerOfResume (register : Register) (number : UInt8)
      (named : number.toNat = register.val)
      (resumes : machine.Resumes number) :
      machine.Owns (.register register)
  | randomOfDraw (x : Register) (kk : UInt8)
      (fetched : machine.Fetches (xkWord 0xC x kk.toNat)) :
      machine.Owns .random

/-! ## What an executed instruction changes -/

section Executed

variable {machine : Machine} {instruction : Instruction}

theorem owns_depth_of_changed
    (fetched : machine.Fetches instruction.number)
    (changed :
      instruction.depthAfter machine.state ≠ machine.state.depth) :
    machine.Owns .depth := by
  cases instruction with
  | ret => exact .depthOfReturn fetched
  | call nnn => exact .depthOfCall nnn fetched
  | _ => exact (changed rfl).elim

theorem owns_slot_of_changed
    {place : Fin 16}
    (fetched : machine.Fetches instruction.number)
    (changed :
      (instruction.returnsAfter machine.state).get place ≠
        machine.state.returns.get place) :
    machine.Owns (.slot place) := by
  cases instruction with
  | call nnn =>
      by_cases next : place.val = machine.state.depth.toNat
      · exact .slotOfCall nnn place next fetched
      · exact (changed
          (Vector.getElem_setIfInBounds_ne place.isLt (Ne.symm next))).elim
  | _ => exact (changed rfl).elim

theorem owns_index_of_changed
    (fetched : machine.Fetches instruction.number)
    (changed :
      instruction.indexAfter machine.state ≠ machine.state.index) :
    machine.Owns .index := by
  cases instruction with
  | setIndex nnn => exact .indexOfSet nnn fetched
  | addIndex x => exact .indexOfAdd x fetched
  | pointGlyph x => exact .indexOfGlyph x fetched
  | _ => exact (changed rfl).elim

theorem owns_delay_of_changed
    (fetched : machine.Fetches instruction.number)
    (changed :
      instruction.delayAfter machine.state ≠ machine.state.delay) :
    machine.Owns .delay := by
  cases instruction with
  | setDelay x => exact .delayOfSet x fetched
  | _ => exact (changed rfl).elim

theorem owns_sound_of_changed
    (fetched : machine.Fetches instruction.number)
    (changed :
      instruction.soundAfter machine.state ≠ machine.state.sound) :
    machine.Owns .sound := by
  cases instruction with
  | setSound x => exact .soundOfSet x fetched
  | _ => exact (changed rfl).elim

/-- A byte that a block write changes is named by an address of the block. -/
theorem exists_offset_of_changed
    {memory : Memory} {address : UInt16} {values : List UInt8}
    {place : Fin 4096}
    (changed :
      (memory.writeBlock address values).bytes.get place ≠
        memory.bytes.get place) :
    ∃ k < values.length, place.val = (address.toNat + k) % 4096 := by
  by_contra outside
  apply changed
  rw [← Memory.byteAt_cell, ← Memory.byteAt_cell]
  apply Memory.byteAt_writeBlock_of_outside
  intro k inBlock same
  exact outside
    ⟨k, inBlock, (same.trans (Nat.mod_eq_of_lt place.isLt)).symm⟩

/-- An instruction changes only cells of the block that its word writes. -/
theorem owns_cell_of_changed
    {place : Fin 4096}
    (fetched : machine.Fetches instruction.number)
    (changed :
      (instruction.memoryAfter machine.state).bytes.get place ≠
        machine.state.memory.bytes.get place) :
    machine.Owns (.cell place) := by
  cases instruction with
  | storeDecimal x =>
      rcases exists_offset_of_changed changed with ⟨k, inBlock, there⟩
      exact .cellOfDecimal x place k (Nat.le_of_lt_succ inBlock) there
        fetched
  | saveRegisters x =>
      rcases exists_offset_of_changed changed with ⟨k, inBlock, there⟩
      rw [State.length_registersThrough] at inBlock
      exact .cellOfSave x place k (Nat.le_of_lt_succ inBlock) there fetched
  | _ => exact (changed rfl).elim

theorem owns_frame_of_changed
    (fetched : machine.Fetches instruction.number)
    (changed :
      instruction.frameAfter machine.surroundings machine.state ≠
        machine.state.frame) :
    machine.Owns .frame := by
  cases instruction with
  | clear => exact .frameOfClear fetched
  | draw x y n => exact .frameOfDraw x y n fetched
  | _ => exact (changed rfl).elim

theorem owns_waiting_of_changed
    (fetched : machine.Fetches instruction.number)
    (changed :
      instruction.waitingAfter machine.state ≠ machine.state.waiting) :
    machine.Owns .waiting := by
  cases instruction with
  | awaitKey x => exact .waitingOfAwait x fetched
  | _ => exact (changed rfl).elim

/-- A register other than the one written keeps its value. -/
theorem eq_of_setRegister_changed
    {state : State} {written register : Register} {value : UInt8}
    (changed :
      (state.setRegister written value).register register ≠
        state.register register) :
    register = written := by
  by_contra different
  apply changed
  rw [State.register_setRegister, if_neg (Ne.symm different)]

/-- Storing a result changes its target and, if it reports, the flag register. -/
theorem target_or_flag_of_setResult_changed
    {state : State} {target register : Register}
    {result : UInt8 × Option UInt8}
    (changed :
      (state.setResult target result).register register ≠
        state.register register) :
    register = target ∨ register = flagRegister ∧ result.2 ≠ none := by
  by_contra neither
  apply changed
  rcases not_or.mp neither with ⟨notTarget, unreported⟩
  rw [State.register_setResult, if_neg (Ne.symm notTarget)]
  by_cases isFlag : register = flagRegister
  · have silent : result.2 = none := by
      by_contra reports
      exact unreported ⟨isFlag, reports⟩
    rw [if_pos isFlag, silent]
    rfl
  · rw [if_neg isFlag]

/--
An instruction changes only the registers that its word names, and the flag.
-/
theorem owns_register_of_changed
    {register : Register}
    (fetched : machine.Fetches instruction.number)
    (changed :
      (instruction.stateAfter machine.surroundings
          machine.state).register register ≠
        machine.state.register register) :
    machine.Owns (.register register) := by
  cases instruction with
  | setByte x kk =>
      rcases eq_of_setRegister_changed changed with rfl
      exact .registerOfSet register kk fetched
  | addByte x kk =>
      rcases eq_of_setRegister_changed changed with rfl
      exact .registerOfAdd register kk fetched
  | combine operator x y =>
      rcases target_or_flag_of_setResult_changed changed with
        rfl | ⟨rfl, reports⟩
      · exact .registerOfCombine register y operator.code
          operator.code_le_seven_or_eq fetched
      · exact .flagOfCombine x y operator.code
          (Operator.code_of_flag_ne_none reports) fetched
  | random x kk =>
      rcases eq_of_setRegister_changed changed with rfl
      exact .registerOfRandom register kk fetched
  | draw x y n =>
      rw [eq_of_setRegister_changed changed]
      exact .flagOfDraw x y n fetched
  | readDelay x =>
      rcases eq_of_setRegister_changed changed with rfl
      exact .registerOfDelay register fetched
  | loadRegisters x =>
      by_cases reached : register ≤ x
      · exact .registerOfLoad x register reached fetched
      · have filled := machine.state.register_fillRegisters x register
        exact (changed (filled.trans (if_neg reached))).elim
  | _ => exact (changed rfl).elim

theorem owns_random_of_changed
    (fetched : machine.Fetches instruction.number)
    (changed :
      (if instruction.drawsRandom then machine.random.next
        else machine.random) ≠ machine.random) :
    machine.Owns .random := by
  cases instruction with
  | random x kk => exact .randomOfDraw x kk fetched
  | _ => exact (changed rfl).elim

/-- An instruction that succeeds changes only parts that its cycle owns. -/
theorem owns_of_commit_changed
    {part : Part}
    (fetched : machine.Fetches instruction.number)
    (changed :
      ¬ part.Agrees
        (machine.commit instruction
          (instruction.stateAfter machine.surroundings machine.state))
        machine) :
    machine.Owns part := by
  cases part with
  | depth => exact owns_depth_of_changed fetched changed
  | slot place => exact owns_slot_of_changed fetched changed
  | index => exact owns_index_of_changed fetched changed
  | delay => exact owns_delay_of_changed fetched changed
  | sound => exact owns_sound_of_changed fetched changed
  | cell place => exact owns_cell_of_changed fetched changed
  | frame => exact owns_frame_of_changed fetched changed
  | waiting => exact owns_waiting_of_changed fetched changed
  | register register => exact owns_register_of_changed fetched changed
  | random => exact owns_random_of_changed fetched changed

end Executed

/-! ## What a cycle changes -/

variable {machine : Machine}

theorem resumes_of_held
    {number : UInt8} {key : Key}
    (waiting : machine.state.waiting = some number)
    (held : machine.keypad.lowest? = some key) :
    machine.Resumes number := by
  refine ⟨waiting, ?_⟩
  rw [held]
  exact Option.some_ne_none key

/-- Resuming a key wait changes the awaited register and ends the wait. -/
theorem owns_of_resumed_changed
    {part : Part} {number : UInt8} {key : Key}
    (inRange : number.toNat < 16)
    (resumes : machine.Resumes number)
    (changed :
      ¬ part.Agrees (machine.resumed ⟨number.toNat, inRange⟩ key) machine) :
    machine.Owns part := by
  cases part with
  | waiting => exact .waitingOfResume number resumes
  | register register =>
      have awaited := eq_of_setRegister_changed changed
      exact .registerOfResume register number
        (congrArg Fin.val awaited).symm resumes
  | _ => exact (changed rfl).elim

theorem owns_of_changed
    {part : Part}
    (changed : ¬ part.Agrees machine.cycle.machine machine) :
    machine.Owns part := by
  have same (unchanged : machine.cycle.machine = machine) :
      machine.Owns part := by
    rw [unchanged] at changed
    cases part <;> exact (changed rfl).elim
  cases machine.course with
  | parked _ _ _ equation | stranded _ _ _ _ _ equation
  | unknown _ _ equation | failed _ _ _ _ equation =>
      exact same (by rw [equation])
  | resumed number key inRange waiting held equation =>
      rw [equation] at changed
      exact owns_of_resumed_changed inRange (resumes_of_held waiting held)
        changed
  | executed instruction state upcoming success equation =>
      rw [equation, Instruction.execute_eq_ok success] at changed
      exact owns_of_commit_changed
        (upcoming?_eq_some_iff_fetches.mp upcoming) changed

/--
A part of a machine that differs after a cycle is owned by that cycle.  A
wait begins with the register of the executed `Fx0A`, it ends only by
resuming, and the keypad and the configuration never change.
-/
theorem cycle_changes_only_owned_parts (machine : Machine) :
    let next := machine.cycle.machine
    (∀ part : Part, ¬ part.Agrees next machine → machine.Owns part) ∧
      (∀ x, machine.Fetches (xkWord 0xF x 0x0A) →
        next.state.waiting = some (UInt8.ofNat x.val)) ∧
      (∀ register, machine.state.waiting = some register →
        next.state.waiting = some register ∨
          machine.Resumes register ∧ next.state.waiting = none) ∧
      next.keypad = machine.keypad ∧
      next.config = machine.config := by
  intro next
  refine ⟨fun part => owns_of_changed, ?_, ?_, machine.keypad_cycle,
    machine.config_cycle⟩
  · intro x fetched
    have upcoming : machine.upcoming? = some (.awaitKey x) :=
      upcoming?_eq_some_iff_fetches.mpr fetched
    have executed :=
      @execute_of_no_fault machine (.awaitKey x) rfl
    simp only [next, cycle_of_upcoming upcoming, executed]
    rfl
  · intro register waiting
    cases machine.course with
    | parked _ _ _ equation | stranded _ _ _ _ _ equation
    | unknown _ _ equation | failed _ _ _ _ equation =>
        simp only [next, equation]
        exact Or.inl waiting
    | resumed number key inRange awaited held equation =>
        cases waiting.symm.trans awaited
        simp only [next, equation]
        exact Or.inr ⟨resumes_of_held waiting held, rfl⟩
    | executed instruction state upcoming success equation =>
        have running := (upcoming?_eq_some_iff.mp upcoming).1
        cases waiting.symm.trans running

end Machine

end ChipEight
