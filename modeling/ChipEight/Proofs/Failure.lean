import ChipEight.Proofs.Cycle
import ChipEight.Proofs.Effect
import ChipEight.Proofs.InstructionTable
import ChipEight.Proofs.Memory

/-!
# When a cycle fails

A cycle fails in exactly the situations that `Machine.Refuses` lists, and a
cycle that fails changes nothing.  `Machine.cycle_fails_exactly` states both
for every machine whose call stack has no more entries than slots.
-/

namespace ChipEight

/-- The word at the counter is read high byte first, through folded addresses. -/
theorem State.toNat_fetch (state : State) :
    state.fetch.toNat =
      (state.memory.byteAt state.counter.toNat).toNat * 256 +
        (state.memory.byteAt (state.counter.toNat + 1)).toNat := by
  have low := state.memory.read_add state.counter 1
  rw [fetch, Opcode.toNat_ofBytes, Memory.read_eq_byteAt, ← low]
  rfl

namespace Machine

variable {machine : Machine}

/--
The situations in which a cycle fails with a given fault.  The last kind of
fault needs a machine that waits for a register that does not exist.
-/
def Refuses (machine : Machine) : Fault → Prop
  | .unknownInstruction opcode counter =>
      machine.state.waiting = none ∧ ¬ Listed machine.state.fetch ∧
        opcode = machine.state.fetch ∧ counter = machine.state.counter
  | .stackUnderflow counter =>
      machine.state.waiting = none ∧ machine.state.fetch = 0x00EE ∧
        machine.state.depth = 0 ∧ counter = machine.state.counter
  | .stackOverflow counter depth =>
      machine.state.waiting = none ∧ machine.state.fetch.toNat / 4096 = 2 ∧
        machine.state.depth = 16 ∧ counter = machine.state.counter ∧
        depth = 16
  | .returnMissing _ _ => False
  | .registerMissing register =>
      machine.state.waiting = some register ∧ 16 ≤ register.toNat ∧
        machine.keypad.pressed ≠ []

/-- An upcoming instruction fails with exactly the faults of its refusals. -/
theorem execute_eq_error_iff_refuses
    {instruction : Instruction} {fault : Fault}
    (shallow : machine.state.depth.toNat ≤ 16)
    (upcoming : machine.upcoming? = some instruction) :
    instruction.execute machine.surroundings machine.state = .error fault ↔
      machine.Refuses fault := by
  rcases upcoming?_eq_some_iff.mp upcoming with ⟨running, decoded⟩
  have listed : Listed machine.state.fetch :=
    Instruction.listed_of_decode? decoded
  have isRet : instruction = .ret ↔ machine.state.fetch = 0x00EE := by
    rw [← Instruction.decode?_eq_ret_iff, decoded, Option.some.injEq]
  have isCall :
      (∃ target, instruction = .call target) ↔
        machine.state.fetch.toNat / 4096 = 2 := by
    rw [← Instruction.decode?_eq_call_iff, decoded]
    simp
  rw [Instruction.execute_eq_error_iff shallow, isRet, isCall]
  cases fault <;> simp [Refuses, running, listed]
  rintro _ full _
  rw [full]

theorem lowest?_eq_none_iff {keypad : Keypad} :
    keypad.lowest? = none ↔ keypad.pressed = [] :=
  List.head?_eq_none_iff

/-- A cycle fails with a fault exactly when the machine refuses it. -/
theorem cycle_eq_error_iff
    {fault : Fault}
    (shallow : machine.state.depth.toNat ≤ 16) :
    machine.cycle.result = .error fault ↔ machine.Refuses fault := by
  cases machine.course with
  | parked register waiting idle equation =>
      have silent : machine.keypad.pressed = [] :=
        lowest?_eq_none_iff.mp idle
      rw [equation]
      cases fault <;> simp [Refuses, waiting, silent]
  | resumed register key inRange waiting held equation =>
      rw [equation]
      cases fault with
      | registerMissing other =>
          simp only [Refuses, waiting, Option.some.injEq, reduceCtorEq,
            false_iff]
          rintro ⟨rfl, outOfRange, _⟩
          omega
      | _ => simp [Refuses, waiting]
  | stranded register key outOfRange waiting held equation =>
      have pressed : machine.keypad.pressed ≠ [] := by
        rw [Ne, ← lowest?_eq_none_iff, held]
        exact Option.some_ne_none key
      rw [equation]
      cases fault with
      | registerMissing other =>
          simp only [Refuses, waiting, Except.error.injEq,
            Fault.registerMissing.injEq, Option.some.injEq]
          constructor
          · rintro rfl
            exact ⟨rfl, outOfRange, pressed⟩
          · exact And.left
      | _ => simp [Refuses, waiting]
  | unknown running undecodable equation =>
      have unlisted : ¬ Listed machine.state.fetch :=
        Instruction.decode?_eq_none_iff.mp undecodable
      have notRet : machine.state.fetch ≠ 0x00EE := by
        intro equal
        rw [Instruction.decode?_eq_ret_iff.mpr equal] at undecodable
        cases undecodable
      have notCall : machine.state.fetch.toNat / 4096 ≠ 2 := by
        intro equal
        rcases Instruction.decode?_eq_call_iff.mpr equal with
          ⟨target, decoded⟩
        rw [decoded] at undecodable
        cases undecodable
      rw [equation]
      cases fault with
      | unknownInstruction opcode counter =>
          simp only [Refuses, running, unlisted, Except.error.injEq,
            Fault.unknownInstruction.injEq, true_and, not_false_eq_true]
          exact and_congr eq_comm eq_comm
      | _ => simp [Refuses, running, notRet, notCall]
  | failed instruction other upcoming failure equation =>
      rw [equation, ← execute_eq_error_iff_refuses shallow upcoming, failure]
      simp
  | executed instruction state upcoming success equation =>
      rw [equation, ← execute_eq_error_iff_refuses shallow upcoming, success]
      simp

/--
A cycle fails in exactly the listed situations, each with its own fault at
the address of the opcode, and then leaves the whole machine as it was.
Apart from a wait for a register that does not exist, they are an opcode
outside the instruction table, a return without an entry to return to and a
call without a slot for its return address.
-/
theorem cycle_fails_exactly
    (machine : Machine)
    (shallow : machine.state.depth.toNat ≤ 16) :
    machine.state.fetch.toNat =
        (machine.state.memory.byteAt machine.state.counter.toNat).toNat * 256 +
          (machine.state.memory.byteAt
            (machine.state.counter.toNat + 1)).toNat ∧
      (∀ fault,
        machine.cycle.result = .error fault ↔ machine.Refuses fault) ∧
      ((∃ fault,
          machine.cycle.result = .error fault ∧
            ∀ register, fault ≠ .registerMissing register) ↔
        machine.state.waiting = none ∧
          (¬ Listed machine.state.fetch ∨
            machine.state.fetch = 0x00EE ∧ machine.state.depth = 0 ∨
            machine.state.fetch.toNat / 4096 = 2 ∧
              machine.state.depth = 16)) ∧
      (∀ fault,
        machine.cycle.result = .error fault →
          machine.cycle.machine = machine) := by
  refine ⟨machine.state.toNat_fetch, fun fault => cycle_eq_error_iff shallow,
    ?_, fun fault => cycle_machine_of_error⟩
  constructor
  · rintro ⟨fault, failed, present⟩
    have refused := (cycle_eq_error_iff shallow).mp failed
    cases fault with
    | unknownInstruction opcode counter =>
        exact ⟨refused.1, Or.inl refused.2.1⟩
    | stackOverflow counter depth =>
        exact ⟨refused.1, Or.inr (Or.inr ⟨refused.2.1, refused.2.2.1⟩)⟩
    | stackUnderflow counter =>
        exact ⟨refused.1, Or.inr (Or.inl ⟨refused.2.1, refused.2.2.1⟩)⟩
    | returnMissing counter depth => exact refused.elim
    | registerMissing register => exact (present register rfl).elim
  · rintro ⟨running, unlisted | ⟨isRet, empty⟩ | ⟨isCall, full⟩⟩
    · refine ⟨.unknownInstruction machine.state.fetch machine.state.counter,
        ?_, by simp⟩
      exact (cycle_eq_error_iff shallow).mpr ⟨running, unlisted, rfl, rfl⟩
    · refine ⟨.stackUnderflow machine.state.counter, ?_, by simp⟩
      exact (cycle_eq_error_iff shallow).mpr ⟨running, isRet, empty, rfl⟩
    · refine ⟨.stackOverflow machine.state.counter 16, ?_, by simp⟩
      exact (cycle_eq_error_iff shallow).mpr
        ⟨running, isCall, full, rfl, rfl⟩

/-- A new machine whose counter is on the last of all addresses. -/
def atLastAddress : Machine :=
  { create .standard (.cycling #[]) with
    state := { State.initial with counter := 0xFFFF } }

/-- There the opcode's low byte is the first byte of memory. -/
theorem cycle_fails_at_last_address :
    atLastAddress.state.depth.toNat ≤ 16 ∧
      atLastAddress.cycle.result =
        .error (.unknownInstruction 0x00F0 0xFFFF) := by
  have shallow : atLastAddress.state.depth.toNat ≤ 16 := by decide
  have opcode : atLastAddress.state.fetch = 0x00F0 := by decide +kernel
  have unlisted : ¬ Listed atLastAddress.state.fetch :=
    Instruction.decode?_eq_none_iff.mp (by rw [opcode]; rfl)
  exact
    ⟨shallow,
      ((cycle_fails_exactly atLastAddress shallow).2.1 _).mpr
        ⟨rfl, unlisted, opcode.symm, rfl⟩⟩

end Machine

end ChipEight
