import ChipEight.Proofs.Memory
import ChipEight.Proofs.Tick
import Mathlib.Data.Nat.ModEq

/-!
# Machines that differ in the upper bits of addresses

The counter, the index and the return addresses have sixteen bits, but only
the lower twelve name a cell of memory.  Two machines are alike if they
agree in everything else and name the same cells.  Every operation keeps
alike machines alike and gives them the same answers, so the upper four bits
never show anywhere but in the addresses themselves
(`Session.upper_address_bits_never_show`).
-/

namespace ChipEight

/-! ## Addresses -/

/-- Whether two words name the same cell of memory. -/
def SameCell (first second : UInt16) : Prop :=
  first.toNat ≡ second.toNat [MOD 4096]

instance (first second : UInt16) : Decidable (SameCell first second) :=
  inferInstanceAs (Decidable (first.toNat ≡ second.toNat [MOD 4096]))

namespace SameCell

variable {first second : UInt16}

theorem refl (word : UInt16) : SameCell word word :=
  Nat.ModEq.refl word.toNat

/-- The range of addresses is a whole number of memories, so sums may wrap. -/
theorem add (same : SameCell first second) (distance : UInt16) :
    SameCell (first + distance) (second + distance) := by
  have sum (word : UInt16) :
      (word + distance).toNat ≡ word.toNat + distance.toNat [MOD 4096] := by
    rw [UInt16.toNat_add]
    exact Nat.mod_mod_of_dvd _ (by decide)
  exact (sum first).trans
    ((Nat.ModEq.add_right distance.toNat same).trans (sum second).symm)

/-- Only the low twelve bits of an address name its cell. -/
theorem masked_eq (same : SameCell first second) :
    first &&& 0x0FFF = second &&& 0x0FFF := by
  have masked (word : UInt16) :
      (word &&& 0x0FFF).toNat = word.toNat % 4096 := by
    rw [UInt16.toNat_and]
    exact Nat.and_two_pow_sub_one_eq_mod word.toNat 12
  rw [← UInt16.toNat_inj, masked, masked]
  exact same

theorem slot_eq (same : SameCell first second) :
    Memory.slot first = Memory.slot second :=
  Fin.ext same

end SameCell

namespace Memory

variable {first second : UInt16}

/-- Reading looks at the low twelve bits of the address alone. -/
theorem read_of_sameCell (memory : Memory) (same : SameCell first second) :
    memory.read first = memory.read second := by
  simp only [read, same.slot_eq]

theorem write_of_sameCell
    (memory : Memory) (same : SameCell first second) (value : UInt8) :
    memory.write first value = memory.write second value := by
  simp only [write, same.slot_eq]

theorem readBlock_of_sameCell
    (memory : Memory) (same : SameCell first second) (count : Nat) :
    memory.readBlock first count = memory.readBlock second count := by
  apply List.map_congr_left
  intro offset _
  exact memory.read_of_sameCell (same.add (UInt16.ofNat offset))

/-- A block goes to the same cells from both addresses. -/
theorem writeBlock_of_sameCell
    (memory : Memory) (same : SameCell first second) (values : List UInt8) :
    memory.writeBlock first values = memory.writeBlock second values := by
  induction values generalizing memory first second with
  | nil => rfl
  | cons value rest ih =>
      rw [writeBlock, writeBlock, memory.write_of_sameCell same]
      exact ih _ (same.add 1)

end Memory

/-! ## States -/

/-- Whether two states agree but for the upper four bits of addresses. -/
structure State.Alike (first second : State) : Prop where
  registers : first.registers = second.registers
  index : SameCell first.index second.index
  counter : SameCell first.counter second.counter
  depth : first.depth = second.depth
  delay : first.delay = second.delay
  sound : first.sound = second.sound
  returns :
    ∀ slot : Fin 16, SameCell first.returns[slot] second.returns[slot]
  memory : first.memory = second.memory
  frame : first.frame = second.frame
  waiting : first.waiting = second.waiting

namespace State.Alike

variable {first second : State}

theorem fetch_eq (alike : first.Alike second) :
    first.fetch = second.fetch := by
  rw [fetch, fetch, alike.memory,
    second.memory.read_of_sameCell alike.counter,
    second.memory.read_of_sameCell (alike.counter.add 1)]

theorem register_eq (alike : first.Alike second) (register : Register) :
    first.register register = second.register register := by
  rw [State.register, State.register, alike.registers]

/-- Alike states read the same sprite from behind their indices. -/
theorem drawing_eq
    (alike : first.Alike second) (wrapRows : Bool)
    (column row : Register) (height : Fin 16) :
    first.drawing wrapRows column row height =
      second.drawing wrapRows column row height := by
  rw [drawing, drawing, alike.frame, alike.register_eq, alike.register_eq,
    alike.memory, second.memory.readBlock_of_sameCell alike.index]

theorem holds_eq
    (alike : first.Alike second) (keypad : Keypad) (condition : Condition) :
    condition.holds keypad first = condition.holds keypad second := by
  cases condition <;> simp only [Condition.holds, alike.register_eq]

theorem fillRegisters_eq (alike : first.Alike second) (last : Register) :
    (first.fillRegisters last).registers =
      (second.fillRegisters last).registers := by
  simp only [fillRegisters]
  congr 1
  funext register
  rw [alike.register_eq, alike.memory,
    second.memory.read_of_sameCell (alike.index.add _)]

end State.Alike

/-! ## Instructions -/

namespace Instruction

variable {first second : State}

theorem registersAfter_alike
    (alike : first.Alike second) (surroundings : Surroundings)
    (instruction : Instruction) :
    instruction.registersAfter surroundings first =
      instruction.registersAfter surroundings second := by
  cases instruction with
  | setByte target value =>
      simp only [registersAfter, State.setRegister, alike.registers]
  | addByte target value =>
      simp only [registersAfter, State.setRegister, alike.registers,
        alike.register_eq]
  | combine operator x y =>
      simp only [registersAfter, alike.register_eq]
      rcases operator.apply (second.register x) (second.register y) with
        ⟨value, _ | flag⟩ <;>
        simp only [State.setResult, State.setRegister, alike.registers]
  | random target mask =>
      simp only [registersAfter, State.setRegister, alike.registers]
  | draw column row height =>
      simp only [registersAfter, State.setRegister, alike.registers,
        alike.drawing_eq]
  | readDelay target =>
      simp only [registersAfter, State.setRegister, alike.registers,
        alike.delay]
  | loadRegisters last => exact alike.fillRegisters_eq last
  | _ => exact alike.registers

/-- Every way to move the index keeps the indices on one cell. -/
theorem indexAfter_alike
    (alike : first.Alike second) (instruction : Instruction) :
    SameCell (instruction.indexAfter first)
      (instruction.indexAfter second) := by
  cases instruction with
  | setIndex target => exact .refl _
  | addIndex source =>
      rw [indexAfter, indexAfter, alike.register_eq,
        (alike.index.add _).masked_eq]
      exact .refl _
  | pointGlyph source =>
      rw [indexAfter, indexAfter, alike.register_eq]
      exact .refl _
  | _ => exact alike.index

/-- Every way to move the counter keeps the counters on one cell. -/
theorem counterAfter_alike
    (alike : first.Alike second) (surroundings : Surroundings)
    (instruction : Instruction) :
    SameCell (instruction.counterAfter surroundings first)
      (instruction.counterAfter surroundings second) := by
  cases instruction with
  | ret =>
      rw [counterAfter, counterAfter, alike.depth]
      by_cases live : second.depth.toNat - 1 < 16
      · rw [Vector.getElem?_eq_getElem live, Vector.getElem?_eq_getElem live]
        exact alike.returns ⟨_, live⟩
      · rw [Vector.getElem?_eq_none (Nat.le_of_not_lt live),
          Vector.getElem?_eq_none (Nat.le_of_not_lt live)]
        exact alike.counter
  | jump target | call target => exact .refl _
  | skip condition =>
      rw [counterAfter, counterAfter, alike.holds_eq]
      split
      · exact (alike.counter.add 2).add 2
      · exact alike.counter.add 2
  | jumpOffset target =>
      rw [counterAfter, counterAfter, alike.register_eq]
      exact .refl _
  | _ => exact alike.counter.add 2

/-- Every return slot names the same cell after an instruction. -/
theorem returnsAfter_alike
    (alike : first.Alike second) (instruction : Instruction)
    (slot : Fin 16) :
    SameCell (instruction.returnsAfter first)[slot]
      (instruction.returnsAfter second)[slot] := by
  cases instruction with
  | call target =>
      simp only [returnsAfter, alike.depth, Fin.getElem_fin,
        Vector.getElem_setIfInBounds]
      split
      · exact alike.counter.add 2
      · exact alike.returns slot
  | _ => exact alike.returns slot

theorem memoryAfter_alike
    (alike : first.Alike second) (instruction : Instruction) :
    instruction.memoryAfter first = instruction.memoryAfter second := by
  cases instruction with
  | storeDecimal source =>
      rw [memoryAfter, memoryAfter, alike.memory, alike.register_eq,
        second.memory.writeBlock_of_sameCell alike.index]
  | saveRegisters last =>
      rw [memoryAfter, memoryAfter, alike.memory, State.registersThrough,
        State.registersThrough, alike.registers,
        second.memory.writeBlock_of_sameCell alike.index]
  | _ => exact alike.memory

theorem frameAfter_alike
    (alike : first.Alike second) (surroundings : Surroundings)
    (instruction : Instruction) :
    instruction.frameAfter surroundings first =
      instruction.frameAfter surroundings second := by
  cases instruction with
  | clear => rfl
  | draw column row height =>
      rw [frameAfter, frameAfter, alike.drawing_eq]
  | _ => exact alike.frame

/-- An instruction takes alike states to alike states. -/
theorem stateAfter_alike
    (alike : first.Alike second) (surroundings : Surroundings)
    (instruction : Instruction) :
    (instruction.stateAfter surroundings first).Alike
      (instruction.stateAfter surroundings second) where
  registers := instruction.registersAfter_alike alike surroundings
  index := indexAfter_alike alike instruction
  counter := counterAfter_alike alike surroundings instruction
  depth := by
    cases instruction <;> simp only [stateAfter, depthAfter, alike.depth]
  delay := by
    cases instruction <;>
      simp only [stateAfter, delayAfter, alike.delay, alike.register_eq]
  sound := by
    cases instruction <;>
      simp only [stateAfter, soundAfter, alike.sound, alike.register_eq]
  returns := returnsAfter_alike alike instruction
  memory := memoryAfter_alike alike instruction
  frame := frameAfter_alike alike surroundings instruction
  waiting := by
    cases instruction <;> simp only [stateAfter, waitingAfter, alike.waiting]

end Instruction

/-! ## Results -/

/-- Whether two faults are the same but for the upper bits of addresses. -/
def Fault.Alike : Fault → Fault → Prop
  | .unknownInstruction opcode counter, .unknownInstruction opcode' counter' =>
      opcode = opcode' ∧ SameCell counter counter'
  | .stackOverflow counter depth, .stackOverflow counter' depth' =>
      SameCell counter counter' ∧ depth = depth'
  | .stackUnderflow counter, .stackUnderflow counter' =>
      SameCell counter counter'
  | .returnMissing counter depth, .returnMissing counter' depth' =>
      SameCell counter counter' ∧ depth = depth'
  | .registerMissing register, .registerMissing register' =>
      register = register'
  | _, _ => False

/-- Whether two results are the same answer or failures that are alike. -/
inductive ResultsAlike {failure answer : Type}
    (failuresAlike : failure → failure → Prop) :
    Except failure answer → Except failure answer → Prop
  | ok (reply : answer) : ResultsAlike failuresAlike (.ok reply) (.ok reply)
  | error {first second : failure} (alike : failuresAlike first second) :
      ResultsAlike failuresAlike (.error first) (.error second)

/-- Alike results are equal answers, or failures that are alike. -/
theorem ResultsAlike.cases
    {failure answer : Type} {failuresAlike : failure → failure → Prop}
    {first second : Except failure answer}
    (alike : ResultsAlike failuresAlike first second) :
    (∃ reply, first = .ok reply ∧ second = .ok reply) ∨
      ∃ cause cause',
        first = .error cause ∧ second = .error cause' ∧
          failuresAlike cause cause' := by
  cases alike with
  | ok reply => exact Or.inl ⟨reply, rfl, rfl⟩
  | error causes => exact Or.inr ⟨_, _, rfl, rfl, causes⟩

theorem ResultsAlike.map
    {failure answer failure' answer' : Type}
    {before : failure → failure → Prop} {after : failure' → failure' → Prop}
    {first second : Except failure answer}
    (onFailure : failure → failure') (onAnswer : answer → answer')
    (keeps :
      ∀ cause cause', before cause cause' →
        after (onFailure cause) (onFailure cause'))
    (alike : ResultsAlike before first second) :
    ResultsAlike after ((first.map onAnswer).mapError onFailure)
      ((second.map onAnswer).mapError onFailure) := by
  cases alike with
  | ok reply => exact .ok (onAnswer reply)
  | error causes => exact .error (keeps _ _ causes)

/-- In alike states an instruction either works or fails alike. -/
theorem Instruction.fault?_alike
    {first second : State}
    (alike : first.Alike second) (instruction : Instruction) :
    (instruction.fault? first = none ∧ instruction.fault? second = none) ∨
      ∃ fault fault',
        instruction.fault? first = some fault ∧
          instruction.fault? second = some fault' ∧ fault.Alike fault' := by
  cases instruction with
  | ret =>
      rw [fault?, fault?, alike.depth]
      split
      · exact Or.inr ⟨_, _, rfl, rfl, alike.counter⟩
      · split
        · exact Or.inl ⟨rfl, rfl⟩
        · exact Or.inr ⟨_, _, rfl, rfl, alike.counter, rfl⟩
  | call target =>
      rw [fault?, fault?, alike.depth]
      split
      · exact Or.inl ⟨rfl, rfl⟩
      · exact Or.inr ⟨_, _, rfl, rfl, alike.counter, rfl⟩
  | _ => exact Or.inl ⟨rfl, rfl⟩

/-! ## Machines -/

/-- Whether two machines agree but for the upper four bits of addresses. -/
structure Machine.Alike (first second : Machine) : Prop where
  state : first.state.Alike second.state
  keypad : first.keypad = second.keypad
  config : first.config = second.config
  random : first.random = second.random

/-- Whether two outcomes are alike; journals are not, for they show addresses. -/
structure Outcome.Alike {failure answer : Type}
    (failuresAlike : failure → failure → Prop)
    (first second : Outcome failure answer) : Prop where
  result : ResultsAlike failuresAlike first.result second.result
  machine : first.machine.Alike second.machine

namespace Machine.Alike

variable {first second : Machine}

theorem surroundings_eq (alike : first.Alike second) :
    first.surroundings = second.surroundings := by
  rw [surroundings, surroundings, alike.keypad, alike.config, alike.random]

theorem status_eq (alike : first.Alike second) :
    first.status = second.status := by
  rw [status, status, alike.state.waiting]

theorem upcoming?_eq (alike : first.Alike second) :
    first.upcoming? = second.upcoming? := by
  rw [upcoming?, upcoming?, alike.state.waiting, alike.state.fetch_eq]

theorem commit
    {state state' : State}
    (alike : first.Alike second)
    (states : state.Alike state')
    (instruction : Instruction) :
    (first.commit instruction state).Alike
      (second.commit instruction state') where
  state := states
  keypad := alike.keypad
  config := alike.config
  random := by simp only [Machine.commit, alike.random]

/-- An instruction succeeds on both machines or fails on both, alike. -/
theorem execute
    (alike : first.Alike second) (instruction : Instruction) :
    Outcome.Alike Fault.Alike (first.execute instruction)
      (second.execute instruction) := by
  rcases instruction.fault?_alike alike.state with
    ⟨sound, sound'⟩ | ⟨fault, fault', faulty, faulty', faults⟩
  · have states :=
      instruction.stateAfter_alike alike.state second.surroundings
    have after := alike.commit states instruction
    rw [execute_of_no_fault sound, execute_of_no_fault sound',
      alike.surroundings_eq]
    refine ⟨?_, after⟩
    simp only [after.status_eq]
    exact .ok _
  · rw [execute_of_fault faulty, execute_of_fault faulty']
    exact ⟨.error faults, alike⟩

theorem resume
    (alike : first.Alike second) (register : UInt8) (key : Key) :
    Outcome.Alike Fault.Alike (first.resume register key)
      (second.resume register key) := by
  by_cases inRange : register.toNat < 16
  · simp only [Machine.resume, inRange, dif_pos]
    refine ⟨.ok _, ?_, alike.keypad, alike.config, alike.random⟩
    exact
      { alike.state with
        registers := by simp only [State.setRegister, alike.state.registers]
        waiting := rfl }
  · simp only [Machine.resume, inRange, dif_neg, not_false_eq_true]
    exact ⟨.error rfl, alike⟩

theorem cycle (alike : first.Alike second) :
    Outcome.Alike Fault.Alike first.cycle second.cycle := by
  cases waiting : second.state.waiting with
  | some register =>
      rw [cycle_of_waiting waiting,
        cycle_of_waiting (alike.state.waiting.trans waiting), alike.keypad]
      cases second.keypad.lowest? with
      | some key => exact alike.resume register key
      | none => exact ⟨.ok _, alike⟩
  | none =>
      have running := alike.state.waiting.trans waiting
      cases decoded : Instruction.decode? second.state.fetch with
      | some instruction =>
          have upcoming :=
            upcoming?_eq_some_iff.mpr ⟨waiting, decoded⟩
          rw [cycle_of_upcoming upcoming,
            cycle_of_upcoming (alike.upcoming?_eq.trans upcoming)]
          exact alike.execute instruction
      | none =>
          have undecodable :
              Instruction.decode? first.state.fetch = none := by
            rw [alike.state.fetch_eq, decoded]
          rw [cycle_of_undecodable waiting decoded,
            cycle_of_undecodable running undecodable]
          exact ⟨.error ⟨alike.state.fetch_eq, alike.state.counter⟩, alike⟩

theorem countDown (alike : first.Alike second) :
    first.countDown.Alike second.countDown where
  state :=
    { alike.state with
      delay := congrArg State.countedDown alike.state.delay
      sound := congrArg State.countedDown alike.state.sound }
  keypad := alike.keypad
  config := alike.config
  random := alike.random

theorem load (alike : first.Alike second) (program : Array UInt8) :
    Outcome.Alike Eq (first.load program) (second.load program) := by
  by_cases fits : program.size ≤ Memory.programLimit
  · simp only [Machine.load, State.load, fits, if_true]
    refine ⟨.ok _, ?_, alike.keypad, alike.config, alike.random⟩
    exact
      { alike.state with
        memory := by simp only [alike.state.memory] }
  · simp only [Machine.load, State.load, fits, if_false]
    exact ⟨.error rfl, alike⟩

theorem loadFile
    (alike : first.Alike second) (path : String)
    (contents : Option (Array UInt8)) :
    Outcome.Alike Eq (first.loadFile path contents)
      (second.loadFile path contents) := by
  cases contents with
  | none => exact ⟨.error rfl, alike⟩
  | some program => exact alike.load program

end Machine.Alike

/-- Whether two failures are the same but for the upper bits of addresses. -/
def Failure.Alike : Failure → Failure → Prop
  | .fault cause, .fault cause' => cause.Alike cause'
  | .load cause, .load cause' => cause = cause'
  | _, _ => False

theorem Machine.Alike.perform
    {first second : Machine}
    (alike : first.Alike second) (operation : Operation) :
    Outcome.Alike Failure.Alike (first.perform operation)
      (second.perform operation) := by
  cases operation with
  | cycle =>
      exact ⟨alike.cycle.result.map _ _ fun _ _ causes => causes,
        alike.cycle.machine⟩
  | countDown => exact ⟨.ok _, alike.countDown⟩
  | load program =>
      have loaded := alike.load program
      exact ⟨loaded.result.map _ _ fun _ _ causes => causes, loaded.machine⟩
  | loadFile path contents =>
      have loaded := alike.loadFile path contents
      exact ⟨loaded.result.map _ _ fun _ _ causes => causes, loaded.machine⟩
  | press code =>
      exact ⟨.ok _, alike.state, congrArg (Keypad.press · code) alike.keypad,
        alike.config, alike.random⟩
  | release code =>
      exact ⟨.ok _, alike.state,
        congrArg (Keypad.release · code) alike.keypad, alike.config,
        alike.random⟩
  | releaseAll => exact ⟨.ok _, alike.state, rfl, alike.config, alike.random⟩
  | reset =>
      refine ⟨.ok _, ?_, alike.keypad, alike.config, alike.random⟩
      exact ⟨rfl, .refl _, .refl _, rfl, rfl, rfl, fun _ => .refl _, rfl, rfl,
        rfl⟩

/-! ## Ticks -/

/-- A burst ends alike on both machines. -/
theorem Machine.Alike.burst
    {first second : Machine}
    (alike : first.Alike second) (cycles : Nat) :
    ResultsAlike Fault.Alike (first.burst cycles).result
        (second.burst cycles).result ∧
      (first.burst cycles).machine.Alike (second.burst cycles).machine := by
  induction cycles generalizing first second with
  | zero => exact ⟨.ok _, alike⟩
  | succ cycles ih =>
      rw [burst_succ, burst_succ]
      rcases alike.cycle.result.cases with
        ⟨status, answer, answer'⟩ | ⟨fault, fault', failed, failed', faults⟩
      · rw [answer, answer']
        cases status with
        | running => exact ih alike.cycle.machine
        | awaitingKey register => exact ⟨.ok _, alike.cycle.machine⟩
      · rw [failed, failed']
        exact ⟨.error faults, alike.cycle.machine⟩

/-- Whether two ticks are alike; their journals again are not. -/
structure Tick.Alike {answer : Type} (first second : Tick answer) : Prop where
  result : ResultsAlike Fault.Alike first.result second.result
  pacer : first.pacer = second.pacer
  machine : first.machine.Alike second.machine
  requests : first.requests = second.requests

namespace Pacer

variable {first second : Machine}

theorem picture_alike (alike : first.Alike second) :
    first.picture = second.picture := by
  rw [Machine.picture, Machine.picture, Machine.soundActive,
    Machine.soundActive, alike.state.sound, alike.state.frame]

/-- Ticks ask for the same tone and the same frame. -/
theorem tick_alike (pacer : Pacer) (alike : first.Alike second) :
    (pacer.tick first).Alike (pacer.tick second) := by
  rcases alike.burst pacer.speed.toNat with ⟨results, machines⟩
  rcases results.cases with
    ⟨_, succeeded, succeeded'⟩ | ⟨fault, fault', failed, failed', faults⟩
  · rw [tick_of_burst_ok succeeded, tick_of_burst_ok succeeded']
    exact ⟨.ok _, rfl, machines.countDown, picture_alike machines.countDown⟩
  · rw [tick_of_burst_error failed, tick_of_burst_error failed']
    exact ⟨.error faults, rfl, machines, rfl⟩

theorem poll_alike
    (pacer : Pacer) (alike : first.Alike second) (now : Instant) :
    (pacer.poll first now).Alike (pacer.poll second now) := by
  cases due : pacer.isDue now with
  | false =>
      rw [poll_of_not_isDue due, poll_of_not_isDue due]
      exact ⟨.ok _, rfl, alike, rfl⟩
  | true =>
      have ticks := pacer.tick_alike alike
      rw [poll_of_isDue due, poll_of_isDue due]
      refine ⟨?_, ?_, ticks.machine, ticks.requests⟩
      · rcases ticks.result.cases with
          ⟨_, succeeded, succeeded'⟩ | ⟨_, _, failed, failed', faults⟩
        · rw [succeeded, succeeded']
          exact .ok _
        · rw [failed, failed']
          exact .error faults
      · simp only [ticks.pacer]

end Pacer

/-! ## Sessions -/

/-- Whether two setbacks are the same but for the upper bits of addresses. -/
def Setback.Alike : Setback → Setback → Prop
  | .failure cause, .failure cause' => cause.Alike cause'
  | .pace cause, .pace cause' => cause = cause'
  | .unpaced, .unpaced => True
  | _, _ => False

/-- Whether two sessions have the same pacer and machines that are alike. -/
structure Session.Alike (first second : Session) : Prop where
  machine : first.machine.Alike second.machine
  pacer : first.pacer = second.pacer

/--
Whether two responses have the same answer or setbacks that are alike, ask
for the same and leave sessions that are alike.
-/
structure Response.Alike (first second : Response) : Prop where
  result : ResultsAlike Setback.Alike first.result second.result
  requests : first.requests = second.requests
  session : first.session.Alike second.session

namespace Session

variable {first second : Session}

theorem ofTick_alike
    {answer : Type} {firstTick secondTick : Tick answer}
    (reply : answer → Reply)
    (alike : firstTick.Alike secondTick) :
    (ofTick reply firstTick).Alike (ofTick reply secondTick) where
  result := alike.result.map _ _ fun _ _ faults => faults
  requests := alike.requests
  session := ⟨alike.machine, congrArg some alike.pacer⟩

theorem refuse_alike
    {setback : Setback}
    (alike : first.Alike second)
    (same : setback.Alike setback) :
    (first.refuse setback).Alike (second.refuse setback) :=
  ⟨.error same, rfl, alike⟩

/-- What happens to alike sessions is alike. -/
theorem act_alike
    (alike : first.Alike second) (action : Action) :
    (first.act action).Alike (second.act action) := by
  cases action with
  | operate operation =>
      have outcomes := alike.machine.perform operation
      exact
        ⟨outcomes.result.map _ _ fun _ _ causes => causes, rfl,
          outcomes.machine, alike.pacer⟩
  | pace speed =>
      simp only [act]
      cases Pacer.ofSpeed speed with
      | ok pacer => exact ⟨.ok _, rfl, alike.machine, rfl⟩
      | error refusal => exact refuse_alike alike rfl
  | tick =>
      simp only [act, alike.pacer]
      cases second.pacer with
      | none => exact refuse_alike alike trivial
      | some pacer => exact ofTick_alike _ (pacer.tick_alike alike.machine)
  | poll now =>
      simp only [act, alike.pacer]
      cases second.pacer with
      | none => exact refuse_alike alike trivial
      | some pacer =>
          exact ofTick_alike _ (pacer.poll_alike alike.machine now)

theorem after_alike
    (alike : first.Alike second) (actions : List Action) :
    (first.after actions).Alike (second.after actions) := by
  induction actions generalizing first second with
  | nil => exact alike
  | cons action rest ih => exact ih (act_alike alike action).session

/-- Alike sessions respond alike to all actions. -/
theorem responses_alike
    (alike : first.Alike second) (actions : List Action) :
    List.Forall₂ Response.Alike (first.responses actions)
      (second.responses actions) := by
  induction actions generalizing first second with
  | nil => exact .nil
  | cons action rest ih =>
      have responses := act_alike alike action
      exact .cons responses (ih responses.session)

/--
Sessions that differ only in the upper four bits of the counter, the index
and the return addresses go on alike whatever the host does: each action
gets the same answer or a setback that differs at most in those bits of an
address, asks for the same, and leaves sessions that are alike again and
about to execute the same instruction.
-/
theorem upper_address_bits_never_show
    (alike : first.Alike second) (actions : List Action) :
    List.Forall₂ Response.Alike (first.responses actions)
        (second.responses actions) ∧
      (first.after actions).Alike (second.after actions) ∧
      (first.after actions).machine.upcoming? =
        (second.after actions).machine.upcoming? := by
  have after := after_alike alike actions
  exact ⟨responses_alike alike actions, after, after.machine.upcoming?_eq⟩

/-- A session with its counter and its index moved elsewhere. -/
def moved (session : Session) (counter index : UInt16) : Session :=
  { session with
    machine :=
      { session.machine with
        state :=
          { session.machine.state with counter := counter, index := index } } }

theorem alike_moved
    {session : Session} {counter index : UInt16}
    (counters : SameCell session.machine.state.counter counter)
    (indices : SameCell session.machine.state.index index) :
    session.Alike (session.moved counter index) := by
  refine ⟨⟨?_, rfl, rfl, rfl⟩, rfl⟩
  exact
    ⟨rfl, indices, counters, rfl, rfl, rfl, fun _ => .refl _, rfl, rfl, rfl⟩

/-- A session about to call a routine that returns at once. -/
def beforeCall : Session where
  machine :=
    ((Machine.create .standard (.cycling #[])).load
      #[0x22, 0x04, 0x00, 0xE0, 0x00, 0xEE]).machine
  pacer := some ⟨2, by decide, none, 0⟩

/-- The call returns to different addresses of the same cell. -/
theorem upper_address_bits_never_show_in_a_call :
    let beyond := beforeCall.moved 0x1200 0xF000
    beforeCall.Alike beyond ∧
      (beforeCall.after [.tick]).machine.state.counter = 0x0202 ∧
      (beyond.after [.tick]).machine.state.counter = 0x1202 ∧
      List.Forall₂ Response.Alike (beforeCall.responses [.tick, .tick])
        (beyond.responses [.tick, .tick]) ∧
      (beforeCall.after [.tick]).machine.upcoming? =
        (beyond.after [.tick]).machine.upcoming? := by
  intro beyond
  have alike : beforeCall.Alike beyond :=
    alike_moved (by decide) (by decide)
  refine ⟨alike, by decide +kernel, by decide +kernel, ?_, ?_⟩
  · exact (upper_address_bits_never_show alike [.tick, .tick]).1
  · exact (upper_address_bits_never_show alike [.tick]).2.2

end Session

end ChipEight
