import ChipEight.Proofs.Tick

/-!
# Faults that last

A cycle that fails leaves the machine as it was, so the reason why it failed
is still there for the next one: it lies in the word at the counter and in
the depth of the call stack, and neither keys nor timers have a part in it.
Until a load succeeds or a new session starts, every cycle therefore meets
the same fault, ticks at every speed stop at it before they count or ask for
anything, and of the state only the timers still move, when they are counted
down directly (`faults_last`).
-/

namespace ChipEight

/-! ## Where a fault lies -/

/-- The fault that the next cycle meets unless it waits for a key, if any. -/
def State.fault? (state : State) : Option Fault :=
  match state.waiting with
  | some _ => none
  | none =>
      match Instruction.decode? state.fetch with
      | some instruction => instruction.fault? state
      | none => some (.unknownInstruction state.fetch state.counter)

namespace Machine

variable {machine : Machine} {fault : Fault}

/-- The next cycle fails with the fault that the state shows. -/
theorem cycle_of_fault? (faulty : machine.state.fault? = some fault) :
    machine.cycle.result = .error fault := by
  rw [State.fault?] at faulty
  cases waiting : machine.state.waiting with
  | some register =>
      rw [waiting] at faulty
      cases faulty
  | none =>
      rw [waiting] at faulty
      cases decoded : Instruction.decode? machine.state.fetch with
      | none =>
          rw [decoded] at faulty
          rw [cycle_of_undecodable waiting decoded]
          exact congrArg Except.error (Option.some.inj faulty)
      | some instruction =>
          rw [decoded] at faulty
          have upcoming := upcoming?_eq_some_iff.mpr ⟨waiting, decoded⟩
          rw [cycle_of_upcoming upcoming, execute_of_fault faulty]

/-- A fault lies in the state, unless it is a wait for a missing register. -/
theorem fault?_of_cycle_error
    (failed : machine.cycle.result = .error fault)
    (present : ∀ register, fault ≠ .registerMissing register) :
    machine.state.fault? = some fault := by
  cases machine.course with
  | parked _ _ _ equation | resumed _ _ _ _ _ equation
  | executed _ _ _ _ equation =>
      rw [equation] at failed
      cases failed
  | stranded register _ _ _ _ equation =>
      rw [equation] at failed
      exact (present register (Except.error.inj failed).symm).elim
  | unknown running undecodable equation =>
      rw [equation] at failed
      simp only [State.fault?, running, undecodable]
      exact congrArg some (Except.error.inj failed)
  | failed instruction other upcoming failure equation =>
      rcases upcoming?_eq_some_iff.mp upcoming with ⟨running, decoded⟩
      rw [equation] at failed
      cases Except.error.inj failed
      simp only [State.fault?, running, decoded]
      rw [Instruction.execute_eq] at failure
      cases faulty : instruction.fault? machine.state with
      | none =>
          rw [faulty] at failure
          cases failure
      | some other =>
          rw [faulty] at failure
          exact congrArg some (Except.error.inj failure)

end Machine

/-! ## What does not remove a fault -/

/--
Whether an operation leaves the program and its session in place; a load
does if it is refused.
-/
def Operation.KeepsProgram : Operation → Prop
  | .load program | .loadFile _ (some program) =>
      Memory.programLimit < program.size
  | .reset => False
  | .cycle | .countDown | .loadFile _ none | .press _ | .release _
  | .releaseAll => True

/-- The operation that an action performs directly, if it is one. -/
def Action.operation? : Action → Option Operation
  | .operate operation => some operation
  | .pace _ | .tick | .poll _ => none

/-- Whether an action leaves the program and its session in place. -/
def Action.KeepsProgram (action : Action) : Prop :=
  ∀ operation ∈ action.operation?, operation.KeepsProgram

namespace Machine

/-- The machine after operations that touch only its keypad and its timers. -/
def lingered (machine : Machine) (operations : List Operation) : Machine :=
  let counted (timer : UInt8) : UInt8 :=
    UInt8.ofNat (timer.toNat - operations.count .countDown)
  { machine with
    state :=
      { machine.state with
        delay := counted machine.state.delay
        sound := counted machine.state.sound }
    keypad := operations.foldl Operation.onKeypad machine.keypad }

variable {machine : Machine} {fault : Fault} {operations : List Operation}
  {operation : Operation}

@[simp]
theorem lingered_nil (machine : Machine) : machine.lingered [] = machine := by
  simp [lingered]

@[simp]
theorem fault?_lingered (machine : Machine) (operations : List Operation) :
    (machine.lingered operations).state.fault? = machine.state.fault? :=
  rfl

/-- While a machine lingers, its next cycle goes on failing. -/
theorem cycle_lingered_of_fault?
    (faulty : machine.state.fault? = some fault)
    (operations : List Operation) :
    (machine.lingered operations).cycle.result = .error fault := by
  apply cycle_of_fault?
  rw [fault?_lingered]
  exact faulty

/-- Only counts and key events show in a machine that lingers. -/
theorem lingered_concat_of_quiet
    (noCount : operation ≠ .countDown)
    (keys : ∀ keypad, operation.onKeypad keypad = keypad) :
    machine.lingered (operations ++ [operation]) =
      machine.lingered operations := by
  simp [lingered, keys, noCount]

theorem countedDown_ofNat_sub (timer : UInt8) (count : Nat) :
    State.countedDown (UInt8.ofNat (timer.toNat - count)) =
      UInt8.ofNat (timer.toNat - (count + 1)) := by
  have bound := timer.toNat_lt
  rw [← UInt8.toNat_inj, State.toNat_countedDown, UInt8.toNat_ofNat',
    UInt8.toNat_ofNat']
  omega

/-- A machine with a fault lingers through whatever keeps its program. -/
theorem perform_lingered
    (faulty : machine.state.fault? = some fault)
    (keeps : operation.KeepsProgram) :
    ((machine.lingered operations).perform operation).machine =
      machine.lingered (operations ++ [operation]) := by
  cases operation with
  | cycle =>
      rw [lingered_concat_of_quiet (by simp) (fun _ => rfl)]
      exact cycle_machine_of_error
        (cycle_lingered_of_fault? faulty operations)
  | countDown =>
      simp [perform, countDown, State.countDown, lingered,
        countedDown_ofNat_sub, Operation.onKeypad]
  | load program =>
      rw [lingered_concat_of_quiet (by simp) (fun _ => rfl)]
      exact congrArg Outcome.machine (load_of_too_large keeps _)
  | loadFile path contents =>
      rw [lingered_concat_of_quiet (by simp) (fun _ => rfl)]
      cases contents with
      | none => rfl
      | some program => exact congrArg Outcome.machine (load_of_too_large keeps _)
  | reset => exact keeps.elim
  | _ =>
      simp [perform, lingered, Operation.onKeypad, press, release, releaseAll]

end Machine

/-! ## Ticks that meet a fault -/

namespace Pacer

variable {machine : Machine} {fault : Fault}

/-- A tick that meets a fault at once changes nothing and asks for nothing. -/
theorem tick_of_fault
    (failed : machine.cycle.result = .error fault) (pacer : Pacer) :
    pacer.tick machine =
      ⟨.error fault, pacer, machine, [], machine.cycle.events⟩ := by
  have stops : machine.StopsAt pacer.speed.toNat 0 := by
    refine ⟨pacer.toNat_speed_pos, by simp, ?_⟩
    intro running
    cases failed.symm.trans running
  rw [tick_of_failed_cycle stops failed]
  simp [Machine.cycled, Machine.journal]

/-- A poll that is due fails with the fault; it only remembers its instant. -/
theorem poll_of_fault
    (failed : machine.cycle.result = .error fault)
    (pacer : Pacer) (now : Instant) :
    pacer.poll machine now =
      if pacer.isDue now then
        ⟨.error fault, { pacer with lastAttempt := some now }, machine, [],
          machine.cycle.events⟩
      else ⟨.ok false, pacer, machine, [], []⟩ := by
  cases due : pacer.isDue now with
  | true =>
      rw [poll_of_isDue due, tick_of_fault failed]
      rfl
  | false => rw [poll_of_not_isDue due, if_neg (by simp)]

end Pacer

namespace Session

variable {machine : Machine} {fault : Fault} {operations : List Operation}
  {session : Session} {action : Action} {actions : List Action}

/-- Of the actions that keep the program only direct operations show. -/
theorem act_lingered
    (faulty : machine.state.fault? = some fault)
    (met : session.machine = machine.lingered operations)
    (keeps : action.KeepsProgram) :
    (session.act action).session.machine =
        machine.lingered (operations ++ action.operation?.toList) ∧
      (session.act action).requests = [] ∧
      (action.KeepsPacer →
        (session.act action).session.pacer.map Pacer.ticks =
          session.pacer.map Pacer.ticks) := by
  have failed : session.machine.cycle.result = .error fault := by
    rw [met]
    exact Machine.cycle_lingered_of_fault? faulty operations
  cases action with
  | operate operation =>
      refine ⟨?_, rfl, fun _ => rfl⟩
      show (session.machine.perform operation).machine = _
      rw [met]
      exact Machine.perform_lingered faulty (keeps operation rfl)
  | pace speed =>
      simp only [act, Action.operation?, Option.toList_none, List.append_nil]
      cases Pacer.ofSpeed speed with
      | ok pacer => exact ⟨met, rfl, fun keepsPacer => keepsPacer.elim⟩
      | error refusal => exact ⟨met, rfl, fun _ => rfl⟩
  | tick =>
      simp only [act, Action.operation?, Option.toList_none, List.append_nil]
      cases paced : session.pacer with
      | none => exact ⟨met, rfl, fun _ => congrArg _ paced⟩
      | some pacer =>
          simp only [Pacer.tick_of_fault failed]
          exact ⟨met, rfl, fun _ => rfl⟩
  | poll now =>
      simp only [act, Action.operation?, Option.toList_none, List.append_nil]
      cases paced : session.pacer with
      | none => exact ⟨met, rfl, fun _ => congrArg _ paced⟩
      | some pacer =>
          simp only [Pacer.poll_of_fault failed]
          split <;> exact ⟨met, rfl, fun _ => rfl⟩

/-- A machine with a fault lingers through sessions that keep its program. -/
theorem after_lingered
    (faulty : machine.state.fault? = some fault)
    (met : session.machine = machine.lingered operations)
    (keeps : ∀ action ∈ actions, action.KeepsProgram) :
    (session.after actions).machine =
        machine.lingered
          (operations ++ actions.filterMap Action.operation?) ∧
      (∀ response ∈ session.responses actions, response.requests = []) ∧
      ((∀ action ∈ actions, action.KeepsPacer) →
        (session.after actions).pacer.map Pacer.ticks =
          session.pacer.map Pacer.ticks) := by
  induction actions generalizing session operations with
  | nil => exact ⟨by simpa using met, by simp [responses], fun _ => rfl⟩
  | cons action rest ih =>
      rcases List.forall_mem_cons.mp keeps with ⟨here, later⟩
      rcases act_lingered faulty met here with ⟨stays, silent, ticks⟩
      rcases ih stays later with ⟨stays', silent', ticks'⟩
      refine ⟨?_, List.forall_mem_cons.mpr ⟨silent, silent'⟩, ?_⟩
      · rw [after_cons, stays', List.append_assoc]
        cases operation : action.operation? <;>
          simp [operation]
      · intro keepsPacer
        rcases List.forall_mem_cons.mp keepsPacer with ⟨first, others⟩
        exact (ticks' others).trans (ticks first)

end Session

/--
A machine whose cycle failed goes on failing with the same fault, whatever
cycles, counts of the timers, key events, refused loads and ticks at any
speed follow.  Each tick fails with it, changes neither the machine nor the
pacer and asks for nothing, so that no further tick is counted; apart from
the keypad only the timers move, once for each direct count.  A wait for a
register that does not exist is left out, since it ends with the keys.
-/
theorem faults_last
    {machine : Machine} {fault : Fault} {actions : List Action}
    (failed : machine.cycle.result = .error fault)
    (present : ∀ register, fault ≠ .registerMissing register)
    (pacer : Option Pacer)
    (keeps : ∀ action ∈ actions, action.KeepsProgram) :
    let start : Session := ⟨machine.cycle.machine, pacer⟩
    let late := start.after actions
    let direct := actions.filterMap Action.operation?
    let counts := direct.count .countDown
    late.machine =
        { machine with
          state :=
            { machine.state with
              delay := UInt8.ofNat (machine.state.delay.toNat - counts)
              sound := UInt8.ofNat (machine.state.sound.toNat - counts) }
          keypad := direct.foldl Operation.onKeypad machine.keypad } ∧
      late.machine.cycle =
        ⟨.error fault, late.machine, late.machine.cycle.events⟩ ∧
      (∀ other : Pacer,
        other.tick late.machine =
          ⟨.error fault, other, late.machine, [],
            late.machine.cycle.events⟩) ∧
      (∀ (other : Pacer) (now : Instant),
        other.poll late.machine now =
          if other.isDue now then
            ⟨.error fault, { other with lastAttempt := some now },
              late.machine, [], late.machine.cycle.events⟩
          else ⟨.ok false, other, late.machine, [], []⟩) ∧
      (∀ response ∈ start.responses actions, response.requests = []) ∧
      ((∀ action ∈ actions, action.KeepsPacer) →
        late.pacer.map Pacer.ticks = pacer.map Pacer.ticks) := by
  intro start late direct counts
  have faulty := Machine.fault?_of_cycle_error failed present
  have met : start.machine = machine.lingered [] := by
    rw [Machine.lingered_nil]
    exact Machine.cycle_machine_of_error failed
  rcases start.after_lingered faulty met keeps with ⟨stays, silent, ticks⟩
  have again : late.machine.cycle.result = .error fault := by
    rw [stays]
    exact Machine.cycle_lingered_of_fault? faulty _
  refine ⟨stays, ?_, ?_, ?_, silent, ticks⟩
  · have unchanged := Machine.cycle_machine_of_error again
    calc
      late.machine.cycle =
          ⟨late.machine.cycle.result, late.machine.cycle.machine,
            late.machine.cycle.events⟩ := rfl
      _ = _ := by rw [again, unchanged]
  · intro other
    exact other.tick_of_fault again
  · intro other now
    exact other.poll_of_fault again now

/-- A machine that sets both timers to nine and returns from no call. -/
def returning : Machine :=
  (((Machine.create .standard (.cycling #[])).load
    #[0x60, 0x09, 0xF0, 0x15, 0xF0, 0x18, 0x00, 0xEE]).machine).after
      [.cycle, .cycle, .cycle]

/-- What a host may try against a fault. -/
def remedies : List Action :=
  [.tick, .operate (.press 0x3), .operate .cycle, .poll 0,
    .operate .countDown, .operate (.load (Array.replicate 3585 0)), .pace 7,
    .tick, .operate .countDown, .poll 20000000]

/-- A return without a call stays one, whatever the host tries. -/
theorem faults_last_for_return :
    let start : Session := ⟨returning.cycle.machine, none⟩
    let late := start.after ([.pace 3] ++ remedies)
    returning.cycle.result = .error (.stackUnderflow 0x206) ∧
      (∀ action ∈ [.pace 3] ++ remedies, action.KeepsProgram) ∧
      late.machine.cycle.result = .error (.stackUnderflow 0x206) ∧
      late.machine.state.delay = 7 ∧ late.machine.state.sound = 7 ∧
      late.machine.keypad.pressed = [0x3] ∧
      ∀ response ∈ start.responses ([.pace 3] ++ remedies),
        response.requests = [] := by
  intro start late
  have failed : returning.cycle.result = .error (.stackUnderflow 0x206) := by
    decide +kernel
  have keeps : ∀ action ∈ [.pace 3] ++ remedies, action.KeepsProgram := by
    simp [remedies, Action.KeepsProgram, Action.operation?,
      Operation.KeepsProgram, Memory.programLimit, Memory.programStart]
  rcases faults_last failed nofun none keeps with
    ⟨machine, again, _, _, silent, _⟩
  refine ⟨failed, keeps, congrArg Outcome.result again, ?_, ?_, ?_, silent⟩
  · rw [machine]
    decide +kernel
  · rw [machine]
    decide +kernel
  · rw [machine]
    decide +kernel

end ChipEight
