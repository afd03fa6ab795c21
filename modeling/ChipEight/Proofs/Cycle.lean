import ChipEight.Machine.Operation
import ChipEight.Proofs.Effect

/-!
# The courses of a cycle

A cycle takes one of six courses: it stays parked, it resumes with a held
key, it cannot resume because the awaited register does not exist, it meets
a word that is no instruction, it meets an instruction that fails, or it
executes an instruction.  `Machine.course` gives the course of every cycle
with its complete outcome, so facts about cycles need not open the
definition again.
-/

namespace ChipEight

namespace Machine

/-- The word that the next cycle fetches; a machine that waits fetches none. -/
def word? (machine : Machine) : Option UInt16 :=
  match machine.state.waiting with
  | some _ => none
  | none => some machine.state.fetch

/-- The instruction that the next cycle executes, if it executes one. -/
def upcoming? (machine : Machine) : Option Instruction :=
  match machine.state.waiting with
  | some _ => none
  | none => Instruction.decode? machine.state.fetch

/-- The machine after a key went into the register that waited for it. -/
def resumed (machine : Machine) (target : Register) (key : Key) : Machine :=
  { machine with
    state :=
      { machine.state.setRegister target (UInt8.ofNat key.val) with
        waiting := none } }

/-- Only a machine that waits for nothing executes the word it fetches. -/
theorem upcoming?_eq_some_iff
    {machine : Machine} {instruction : Instruction} :
    machine.upcoming? = some instruction ↔
      machine.state.waiting = none ∧
        Instruction.decode? machine.state.fetch = some instruction := by
  unfold upcoming?
  cases machine.state.waiting <;> simp

/-- Whether the next cycle fetches the word with this number. -/
def Fetches (machine : Machine) (number : Nat) : Prop :=
  machine.state.waiting = none ∧ machine.state.fetch.toNat = number

instance (machine : Machine) (number : Nat) :
    Decidable (machine.Fetches number) :=
  inferInstanceAs (Decidable (_ ∧ _))

/-- A cycle executes an instruction exactly if it fetches its word. -/
theorem upcoming?_eq_some_iff_fetches
    {machine : Machine} {instruction : Instruction} :
    machine.upcoming? = some instruction ↔
      machine.Fetches instruction.number := by
  rw [upcoming?_eq_some_iff, Fetches,
    Instruction.decode?_eq_some_iff_number]

theorem upcoming?_eq_bind_word? (machine : Machine) :
    machine.upcoming? = machine.word?.bind Instruction.decode? := by
  unfold upcoming? word?
  cases machine.state.waiting <;> rfl

/-- What a cycle does, with the reason why it does that. -/
inductive Course (machine : Machine) : Prop where
  | parked
      (register : UInt8)
      (waiting : machine.state.waiting = some register)
      (idle : machine.keypad.lowest? = none)
      (equation :
        machine.cycle = ⟨.ok (.awaitingKey register), machine, []⟩)
  | resumed
      (register : UInt8)
      (key : Key)
      (inRange : register.toNat < 16)
      (waiting : machine.state.waiting = some register)
      (held : machine.keypad.lowest? = some key)
      (equation :
        machine.cycle =
          ⟨.ok .running, machine.resumed ⟨register.toNat, inRange⟩ key,
            [.resuming key register]⟩)
  | stranded
      (register : UInt8)
      (key : Key)
      (outOfRange : 16 ≤ register.toNat)
      (waiting : machine.state.waiting = some register)
      (held : machine.keypad.lowest? = some key)
      (equation :
        machine.cycle = ⟨.error (.registerMissing register), machine, []⟩)
  | unknown
      (running : machine.state.waiting = none)
      (undecodable : Instruction.decode? machine.state.fetch = none)
      (equation :
        machine.cycle =
          ⟨.error
              (.unknownInstruction machine.state.fetch machine.state.counter),
            machine, []⟩)
  | failed
      (instruction : Instruction)
      (fault : Fault)
      (upcoming : machine.upcoming? = some instruction)
      (failure :
        instruction.execute machine.surroundings machine.state =
          .error fault)
      (equation :
        machine.cycle =
          ⟨.error fault, machine,
            [.executing (machine.snapshot instruction)]⟩)
  | executed
      (instruction : Instruction)
      (state : State)
      (upcoming : machine.upcoming? = some instruction)
      (success :
        instruction.execute machine.surroundings machine.state = .ok state)
      (equation :
        machine.cycle =
          ⟨.ok (machine.commit instruction state).status,
            machine.commit instruction state,
            .executing (machine.snapshot instruction) ::
              (machine.commit instruction state).parkingEvents⟩)

theorem cycle_of_upcoming
    {machine : Machine} {instruction : Instruction}
    (upcoming : machine.upcoming? = some instruction) :
    machine.cycle = machine.execute instruction := by
  rcases upcoming?_eq_some_iff.mp upcoming with ⟨running, decoded⟩
  simp [cycle, running, decoded]

/-- A waiting machine takes the lowest held key or stays as it is. -/
theorem cycle_of_waiting
    {machine : Machine} {register : UInt8}
    (waiting : machine.state.waiting = some register) :
    machine.cycle =
      match machine.keypad.lowest? with
      | some key => machine.resume register key
      | none => ⟨.ok (.awaitingKey register), machine, []⟩ := by
  cases held : machine.keypad.lowest? <;> simp [cycle, waiting, held]

theorem cycle_of_undecodable
    {machine : Machine}
    (running : machine.state.waiting = none)
    (undecodable : Instruction.decode? machine.state.fetch = none) :
    machine.cycle =
      ⟨.error
          (.unknownInstruction machine.state.fetch machine.state.counter),
        machine, []⟩ := by
  simp [cycle, running, undecodable]

/-- Every cycle takes one of the six courses. -/
theorem course (machine : Machine) : machine.Course := by
  cases waiting : machine.state.waiting with
  | some register =>
      cases held : machine.keypad.lowest? with
      | none =>
          exact .parked register waiting held
            (by simp [cycle_of_waiting waiting, held])
      | some key =>
          by_cases inRange : register.toNat < 16
          · exact .resumed register key inRange waiting held
              (by simp [cycle_of_waiting waiting, held, resume, inRange,
                resumed])
          · exact .stranded register key (by omega) waiting held
              (by simp [cycle_of_waiting waiting, held, resume, inRange])
  | none =>
      cases decoded : Instruction.decode? machine.state.fetch with
      | none =>
          exact .unknown waiting decoded (by simp [cycle, waiting, decoded])
      | some instruction =>
          have upcoming : machine.upcoming? = some instruction :=
            upcoming?_eq_some_iff.mpr ⟨waiting, decoded⟩
          cases result :
              instruction.execute machine.surroundings machine.state with
          | error fault =>
              exact .failed instruction fault upcoming result
                (by simp [cycle_of_upcoming upcoming, execute, result])
          | ok state =>
              exact .executed instruction state upcoming result
                (by simp [cycle_of_upcoming upcoming, execute, result])

/-- A cycle that fails returns the machine that it was given. -/
theorem cycle_machine_of_error
    {machine : Machine} {fault : Fault}
    (failed : machine.cycle.result = .error fault) :
    machine.cycle.machine = machine := by
  cases machine.course with
  | parked _ _ _ equation => rw [equation]
  | resumed _ _ _ _ _ equation =>
      rw [equation] at failed
      cases failed
  | stranded _ _ _ _ _ equation => rw [equation]
  | unknown _ _ equation => rw [equation]
  | failed _ _ _ _ equation => rw [equation]
  | executed _ _ _ _ equation =>
      rw [equation] at failed
      cases failed

/-- A cycle that executes nothing changes at most the awaited register. -/
theorem cycle_machine_of_upcoming_eq_none
    {machine : Machine}
    (quiet : machine.upcoming? = none) :
    ∃ registers waiting,
      machine.cycle.machine =
        { machine with
          state :=
            { machine.state with
              registers := registers
              waiting := waiting } } := by
  cases machine.course with
  | resumed register key inRange waiting held equation =>
      rw [equation]
      exact ⟨_, none, rfl⟩
  | failed instruction fault upcoming failure equation =>
      rw [quiet] at upcoming
      cases upcoming
  | executed instruction state upcoming success equation =>
      rw [quiet] at upcoming
      cases upcoming
  | parked _ _ _ equation | stranded _ _ _ _ _ equation
  | unknown _ _ equation =>
      rw [equation]
      exact ⟨machine.state.registers, machine.state.waiting, rfl⟩

/-- A cycle that executes something either changes nothing or commits a state. -/
theorem cycle_machine_of_upcoming
    {machine : Machine} {instruction : Instruction}
    (upcoming : machine.upcoming? = some instruction) :
    (∃ fault,
        instruction.execute machine.surroundings machine.state =
          .error fault ∧
        machine.cycle.result = .error fault ∧
        machine.cycle.machine = machine) ∨
      ∃ state,
        instruction.execute machine.surroundings machine.state = .ok state ∧
        (∃ status, machine.cycle.result = .ok status) ∧
        machine.cycle.machine = machine.commit instruction state := by
  rw [cycle_of_upcoming upcoming, execute]
  cases instruction.execute machine.surroundings machine.state with
  | error fault => exact Or.inl ⟨fault, rfl, rfl, rfl⟩
  | ok state => exact Or.inr ⟨state, rfl, ⟨_, rfl⟩, rfl⟩

/--
A cycle leaves what can be seen of a state to the instruction that it
executes, if that depends neither on the registers and the wait nor on what
a call or a return would have done.
-/
theorem observe_cycle
    {Value : Type} (observe : State → Value) (machine : Machine)
    (quiet :
      ∀ registers waiting,
        observe
            { machine.state with
              registers := registers
              waiting := waiting } =
          observe machine.state)
    (returning :
      observe (Instruction.ret.stateAfter machine.surroundings machine.state) =
        observe machine.state)
    (calling :
      ∀ target,
        observe
            ((Instruction.call target).stateAfter machine.surroundings
              machine.state) =
          observe machine.state) :
    observe machine.cycle.machine.state =
      match machine.upcoming? with
      | some instruction =>
          observe (instruction.stateAfter machine.surroundings machine.state)
      | none => observe machine.state := by
  cases upcoming : machine.upcoming? with
  | none =>
      rcases cycle_machine_of_upcoming_eq_none upcoming with
        ⟨registers, waiting, after⟩
      rw [after]
      exact quiet registers waiting
  | some instruction =>
      rcases cycle_machine_of_upcoming upcoming with
        ⟨fault, execution, _, same⟩ | ⟨next, execution, _, after⟩
      · rw [same]
        cases instruction with
        | ret => exact returning.symm
        | call target => exact (calling target).symm
        | _ => cases execution
      · rw [after, Instruction.execute_eq_ok execution]
        rfl

/-! ## Cycles that execute an instruction -/

/-- An instruction with a fault is reported and changes nothing. -/
theorem execute_of_fault
    {machine : Machine} {instruction : Instruction} {fault : Fault}
    (faulty : instruction.fault? machine.state = some fault) :
    machine.execute instruction =
      ⟨.error fault, machine, [.executing (machine.snapshot instruction)]⟩ := by
  simp only [execute, Instruction.execute_eq, faulty]

theorem execute_of_no_fault
    {machine : Machine} {instruction : Instruction}
    (sound : instruction.fault? machine.state = none) :
    machine.execute instruction =
      let after :=
        machine.commit instruction
          (instruction.stateAfter machine.surroundings machine.state)
      ⟨.ok after.status, after,
        .executing (machine.snapshot instruction) :: after.parkingEvents⟩ := by
  simp only [execute, Instruction.execute_eq, sound]

/-- A cycle runs on after every instruction that neither fails nor waits. -/
theorem result_cycle_of_no_fault
    {machine : Machine} {instruction : Instruction}
    (upcoming : machine.upcoming? = some instruction)
    (sound : instruction.fault? machine.state = none)
    (noWait : ∀ target, instruction ≠ .awaitKey target) :
    machine.cycle.result = .ok .running := by
  have running : machine.state.waiting = none :=
    (upcoming?_eq_some_iff.mp upcoming).1
  have still : instruction.waitingAfter machine.state = none := by
    cases instruction with
    | awaitKey target => exact (noWait target rfl).elim
    | _ => exact running
  rw [cycle_of_upcoming upcoming, execute_of_no_fault sound]
  simp only [status, commit, Instruction.stateAfter, still]

/-! ## What a cycle leaves alone -/

theorem keypad_cycle (machine : Machine) :
    machine.cycle.machine.keypad = machine.keypad := by
  cases machine.course with
  | parked _ _ _ equation | stranded _ _ _ _ _ equation
  | unknown _ _ equation | failed _ _ _ _ equation => rw [equation]
  | resumed _ _ _ _ _ equation | executed _ _ _ _ equation =>
      rw [equation]
      rfl

theorem config_cycle (machine : Machine) :
    machine.cycle.machine.config = machine.config := by
  cases machine.course with
  | parked _ _ _ equation | stranded _ _ _ _ _ equation
  | unknown _ _ equation | failed _ _ _ _ equation => rw [equation]
  | resumed _ _ _ _ _ equation | executed _ _ _ _ equation =>
      rw [equation]
      rfl

/-- A cycle uses a word of the random stream only to execute a draw from it. -/
theorem random_cycle (machine : Machine) :
    machine.cycle.machine.random =
      if machine.upcoming?.any Instruction.drawsRandom then
        machine.random.next
      else machine.random := by
  cases upcoming : machine.upcoming? with
  | none =>
      rcases cycle_machine_of_upcoming_eq_none upcoming with ⟨_, _, after⟩
      rw [after]
      rfl
  | some instruction =>
      rcases cycle_machine_of_upcoming upcoming with
        ⟨fault, failure, _, same⟩ | ⟨state, _, _, after⟩
      · rw [same]
        cases instruction with
        | random target mask => cases failure
        | _ => rfl
      · rw [after]
        rfl

/-! ## Operations and their cycles -/

@[simp]
theorem perform_cycle_machine (machine : Machine) :
    (machine.perform .cycle).machine = machine.cycle.machine :=
  rfl

@[simp]
theorem perform_load_machine (machine : Machine) (program : Array UInt8) :
    (machine.perform (.load program)).machine =
      (machine.load program).machine :=
  rfl

@[simp]
theorem perform_loadFile_machine
    (machine : Machine) (path : String) (contents : Option (Array UInt8)) :
    (machine.perform (.loadFile path contents)).machine =
      (machine.loadFile path contents).machine :=
  rfl

/-- A program that fits is laid over memory and reported with its length. -/
theorem load_of_fits
    {program : Array UInt8}
    (fits : program.size ≤ Memory.programLimit) (machine : Machine) :
    machine.load program =
      ⟨.ok (),
        { machine with
          state :=
            { machine.state with
              memory :=
                machine.state.memory.overlay Memory.programStart
                  program.toList } },
        [.loaded program.size]⟩ := by
  rw [load, State.load, if_pos fits]

/-- A program that does not fit changes nothing. -/
theorem load_of_too_large
    {program : Array UInt8}
    (large : Memory.programLimit < program.size) (machine : Machine) :
    machine.load program =
      ⟨.error (.tooLarge program.size Memory.programLimit), machine, []⟩ := by
  rw [load, State.load, if_neg (Nat.not_le.mpr large)]

/-- A load replaces memory alone, and only if it is not refused. -/
theorem load_machine (machine : Machine) (program : Array UInt8) :
    ∃ memory,
      (machine.load program).machine =
        { machine with state := { machine.state with memory := memory } } := by
  rcases Nat.lt_or_ge Memory.programLimit program.size with large | fits
  · rw [load_of_too_large large]
    exact ⟨machine.state.memory, rfl⟩
  · rw [load_of_fits fits]
    exact ⟨_, rfl⟩

theorem loadFile_machine
    (machine : Machine) (path : String) (contents : Option (Array UInt8)) :
    ∃ memory,
      (machine.loadFile path contents).machine =
        { machine with state := { machine.state with memory := memory } } := by
  cases contents with
  | none => exact ⟨machine.state.memory, rfl⟩
  | some program => exact machine.load_machine program

end Machine

end ChipEight
