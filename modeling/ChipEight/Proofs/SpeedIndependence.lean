import ChipEight.Proofs.Lockstep

/-!
# Ticks at different speeds

A timer shows in the rest of a machine only where `Fx07` reads it, and it is
only between bursts that timers are counted down.  As long as no cycle reads
the delay timer, ticks at two speeds therefore perform the same cycles if
they perform equally many: they execute the same instructions and leave
machines that differ in nothing but the timers
(`speed_changes_only_pacing`).
-/

namespace ChipEight

/-! ## Machines without timers -/

namespace State

/-- The same state with both timers at zero. -/
def untimed (state : State) : State :=
  { state with delay := 0, sound := 0 }

theorem registers_setResult_untimed
    (state : State) (target : Register) (result : UInt8 × Option UInt8) :
    (state.untimed.setResult target result).registers =
      (state.setResult target result).registers := by
  rcases result with ⟨value, _ | flag⟩ <;> rfl

end State

namespace Instruction

variable {instruction : Instruction}

theorem fault?_untimed (state : State) :
    instruction.fault? state.untimed = instruction.fault? state := by
  cases instruction <;> rfl

theorem waitingAfter_untimed (state : State) :
    instruction.waitingAfter state.untimed =
      instruction.waitingAfter state := by
  cases instruction <;> rfl

/-- Only `Fx07` lets a timer into the rest of the state. -/
theorem untimed_stateAfter_untimed
    (unread : ∀ target, instruction ≠ .readDelay target)
    (surroundings : Surroundings) (state : State) :
    (instruction.stateAfter surroundings state.untimed).untimed =
      (instruction.stateAfter surroundings state).untimed := by
  cases instruction with
  | readDelay target => exact (unread target rfl).elim
  | combine operator first second =>
      have registers :=
        state.registers_setResult_untimed first
          (operator.apply (state.register first) (state.register second))
      exact congrArg
        (fun registers =>
          { (stateAfter surroundings state
              (combine operator first second)).untimed with
            registers := registers })
        registers
  | _ => rfl

end Instruction

/-- The counter and the opcode of the instruction that a step executes. -/
def Step.execution? (step : Step) : Option (UInt16 × UInt16) :=
  step.instruction?.map fun _ =>
    (step.before.state.counter, step.before.state.fetch)

namespace Machine

variable {machine first second : Machine}

/-- The same machine with both timers at zero. -/
def untimed (machine : Machine) : Machine :=
  { machine with state := machine.state.untimed }

theorem upcoming?_untimed (machine : Machine) :
    machine.untimed.upcoming? = machine.upcoming? :=
  rfl

theorem execution?_untimed (machine : Machine) :
    Step.execution? ⟨machine.untimed, .cycle⟩ =
      Step.execution? ⟨machine, .cycle⟩ :=
  rfl

/-- The same machine with other values of its timers. -/
def withTimers (machine : Machine) (delay sound : UInt8) : Machine :=
  { machine with
    state := { machine.state with delay := delay, sound := sound } }

/-- Whether two machines differ at most in their timers. -/
def SameButTimers (first second : Machine) : Prop :=
  first.untimed = second.untimed

/-- Whether the next cycle executes `Fx07`. -/
def ReadsDelay (machine : Machine) : Prop :=
  ∃ target, machine.upcoming? = some (.readDelay target)

theorem eq_of_sameButTimers (same : first.SameButTimers second) :
    second = first.withTimers second.state.delay second.state.sound := by
  rcases first with ⟨⟨⟩, _, _, _⟩
  rcases second with ⟨⟨⟩, _, _, _⟩
  simp only [SameButTimers, untimed, State.untimed, withTimers, mk.injEq,
    State.mk.injEq] at same ⊢
  grind

theorem agree_execute_untimed
    {instruction : Instruction}
    (unread : ∀ target, instruction ≠ .readDelay target) :
    (machine.execute instruction).Agree SameButTimers
      (machine.untimed.execute instruction) := by
  have faults : instruction.fault? machine.untimed.state = _ :=
    Instruction.fault?_untimed machine.state
  cases faulty : instruction.fault? machine.state with
  | some fault =>
      rw [execute_of_fault faulty, execute_of_fault (faults.trans faulty)]
      exact ⟨rfl, rfl, rfl⟩
  | none =>
      have waiting : instruction.waitingAfter machine.untimed.state = _ :=
        Instruction.waitingAfter_untimed machine.state
      have states : _ = (instruction.stateAfter _ _).untimed :=
        Instruction.untimed_stateAfter_untimed unread machine.surroundings
          machine.state
      rw [execute_of_no_fault faulty,
        execute_of_no_fault (faults.trans faulty)]
      refine ⟨?_, ?_, ?_⟩
      · simp only [status, commit, Instruction.stateAfter, waiting]
      · simp only [parkingEvents, commit, Instruction.stateAfter, waiting]
        rfl
      · exact congrArg
          (fun state =>
            { machine.commit instruction machine.state with state := state })
          states.symm

/-- A cycle that does not read the delay timer does not depend on the timers. -/
theorem agree_cycle_untimed (unread : ¬ machine.ReadsDelay) :
    machine.cycle.Agree SameButTimers machine.untimed.cycle := by
  refine agree_cycle rfl rfl rfl (fun _ => rfl) rfl (fun _ _ => rfl) ?_
  intro instruction upcoming
  apply agree_execute_untimed
  rintro target rfl
  exact unread ⟨target, upcoming⟩

theorem upcoming?_eq_of_sameButTimers (same : first.SameButTimers second) :
    first.upcoming? = second.upcoming? := by
  rw [SameButTimers] at same
  rw [← first.upcoming?_untimed, same, upcoming?_untimed]

theorem readsDelay_iff_of_sameButTimers (same : first.SameButTimers second) :
    first.ReadsDelay ↔ second.ReadsDelay := by
  rw [ReadsDelay, ReadsDelay, upcoming?_eq_of_sameButTimers same]

theorem execution?_eq_of_sameButTimers (same : first.SameButTimers second) :
    Step.execution? ⟨first, .cycle⟩ = Step.execution? ⟨second, .cycle⟩ := by
  rw [SameButTimers] at same
  rw [← first.execution?_untimed, same, execution?_untimed]

/--
Machines that differ in their timers alone agree in a cycle that does not read
them: both cycles are that of the one machine without timers.
-/
theorem agree_cycle_of_sameButTimers
    (same : first.SameButTimers second)
    (unread : ¬ first.ReadsDelay) :
    first.cycle.Agree SameButTimers second.cycle := by
  have unread' : ¬ second.ReadsDelay :=
    mt (readsDelay_iff_of_sameButTimers same).mpr unread
  have onFirst := agree_cycle_untimed unread
  have onSecond := agree_cycle_untimed unread'
  rw [← same] at onSecond
  exact
    ⟨onFirst.result.trans onSecond.result.symm,
      onFirst.events.trans onSecond.events.symm,
      onFirst.machine.trans onSecond.machine.symm⟩

end Machine

/-! ## Cycles in a row -/

namespace Machine

variable {machine first second : Machine} {count : Nat}

/-- The counters and opcodes of the instructions that a run executes. -/
def executions
    (machine : Machine) (operations : List Operation) :
    List (UInt16 × UInt16) :=
  (machine.trace operations).filterMap Step.execution?

theorem executions_append
    (machine : Machine) (earlier later : List Operation) :
    machine.executions (earlier ++ later) =
      machine.executions earlier ++
        (machine.after earlier).executions later := by
  rw [executions, trace_append, List.filterMap_append]
  rfl

theorem executions_countDown (machine : Machine) :
    machine.executions [.countDown] = [] :=
  rfl

theorem cycled_add (machine : Machine) (earlier later : Nat) :
    machine.cycled (earlier + later) =
      (machine.cycled earlier).cycled later := by
  rw [cycled, List.replicate_add, after_append]
  rfl

/-- Whether so many cycles in a row run on and do not read the delay timer. -/
def Steady (machine : Machine) (count : Nat) : Prop :=
  ∀ index < count,
    (machine.nthCycle index).result = .ok .running ∧
      ¬ (machine.cycled index).ReadsDelay

theorem steady_succ_iff :
    machine.Steady (count + 1) ↔
      (machine.cycle.result = .ok .running ∧ ¬ machine.ReadsDelay) ∧
        machine.cycle.machine.Steady count :=
  Nat.forall_lt_succ_left

theorem steady_add_iff {earlier later : Nat} :
    machine.Steady (earlier + later) ↔
      machine.Steady earlier ∧ (machine.cycled earlier).Steady later := by
  induction earlier generalizing machine with
  | zero => simp [Steady, cycled]
  | succ earlier ih =>
      rw [Nat.succ_add, steady_succ_iff, steady_succ_iff, ih, ← and_assoc]
      rfl

/-- Machines that differ in their timers go the same way through steady cycles. -/
theorem steady_of_sameButTimers
    (same : first.SameButTimers second)
    (steady : first.Steady count) :
    second.Steady count ∧
      (first.cycled count).SameButTimers (second.cycled count) ∧
      first.executions (List.replicate count .cycle) =
        second.executions (List.replicate count .cycle) := by
  induction count generalizing first second with
  | zero => exact ⟨nofun, same, rfl⟩
  | succ count ih =>
      rcases steady_succ_iff.mp steady with ⟨⟨runs, unread⟩, later⟩
      have agree := agree_cycle_of_sameButTimers same unread
      rcases ih agree.machine later with ⟨laterToo, ends, executed⟩
      have runs' : second.cycle.result = .ok .running :=
        agree.result.symm.trans runs
      have unread' : ¬ second.ReadsDelay :=
        mt (readsDelay_iff_of_sameButTimers same).mpr unread
      refine
        ⟨steady_succ_iff.mpr ⟨⟨runs', unread'⟩, laterToo⟩, ends, ?_⟩
      simp only [executions, List.replicate_succ, trace, List.filterMap_cons,
        perform_cycle_machine, execution?_eq_of_sameButTimers same]
        at executed ⊢
      rw [executed]

/-! ## Bursts -/

/-- A burst of steady cycles performs them all. -/
theorem burst_of_steady (steady : machine.Steady count) :
    (machine.burst count).result = .ok () ∧
      machine.burstLength count = count := by
  induction count generalizing machine with
  | zero => exact ⟨rfl, rfl⟩
  | succ count ih =>
      rcases steady_succ_iff.mp steady with ⟨⟨runs, _⟩, later⟩
      rcases ih later with ⟨completes, length⟩
      rw [burst_succ, burstLength, runs]
      exact ⟨completes, congrArg Nat.succ length⟩

end Machine

/--
Whether a step hides the pace of ticks: it executes neither `Fx07`, which
reads a timer, nor `Fx0A`, which ends a burst.
-/
def Step.HidesPace (step : Step) : Prop :=
  ∀ target : Register,
    step.instruction? ≠ some (.readDelay target) ∧
      step.instruction? ≠ some (.awaitKey target)

instance (step : Step) : Decidable step.HidesPace := by
  unfold Step.HidesPace
  infer_instance

namespace Machine

variable {machine : Machine} {count : Nat}

/-- A cycle that succeeds and hides the pace runs on. -/
theorem result_cycle_of_hidesPace
    {status : Status}
    (running : machine.state.waiting = none)
    (hides : Step.HidesPace ⟨machine, .cycle⟩)
    (succeeded : machine.cycle.result = .ok status) :
    machine.cycle.result = .ok .running := by
  cases decoded : Instruction.decode? machine.state.fetch with
  | none =>
      rw [cycle_of_undecodable running decoded] at succeeded
      cases succeeded
  | some instruction =>
      have upcoming := upcoming?_eq_some_iff.mpr ⟨running, decoded⟩
      cases faulty : instruction.fault? machine.state with
      | some fault =>
          rw [cycle_of_upcoming upcoming, execute_of_fault faulty]
            at succeeded
          cases succeeded
      | none =>
          apply result_cycle_of_no_fault upcoming faulty
          rintro target rfl
          exact (hides target).2 upcoming

theorem waiting_of_cycle_running
    (runs : machine.cycle.result = .ok .running) :
    machine.cycle.machine.state.waiting = none := by
  have status := status_of_cycle runs
  rw [Machine.status] at status
  cases waiting : machine.cycle.machine.state.waiting with
  | none => rfl
  | some register =>
      rw [waiting] at status
      cases status

/-- The cycles of a burst that completes are steady if they hide the pace. -/
theorem steady_of_burst
    (running : machine.state.waiting = none)
    (completes : (machine.burst count).result = .ok ())
    (hides :
      ∀ step ∈
          machine.trace (List.replicate (machine.burstLength count) .cycle),
        step.HidesPace) :
    machine.Steady count ∧ (machine.cycled count).state.waiting = none := by
  induction count generalizing machine with
  | zero => exact ⟨nofun, running⟩
  | succ count ih =>
      rw [burst_succ] at completes
      rw [burstLength] at hides
      rcases result : machine.cycle.result with fault | _ | register
      · rw [result] at completes
        cases completes
      · rw [result] at completes hides
        rcases List.forall_mem_cons.mp hides with ⟨here, later⟩
        have unread : ¬ machine.ReadsDelay := by
          rintro ⟨target, reads⟩
          exact (here target).1 reads
        rcases ih (waiting_of_cycle_running result) completes later with
          ⟨steady, ends⟩
        exact ⟨steady_succ_iff.mpr ⟨⟨result, unread⟩, steady⟩, ends⟩
      · rw [result] at hides
        have here := (List.forall_mem_cons.mp hides).1
        rw [result_cycle_of_hidesPace running here result] at result
        cases result

end Machine

/-! ## Ticks -/

namespace Pacer

variable {pacer : Pacer} {machine : Machine}

/-- A tick of steady cycles performs them and one count of the timers. -/
theorem tick_of_steady (steady : machine.Steady pacer.speed.toNat) :
    (pacer.tick machine).result = .ok () ∧
      (pacer.tick machine).pacer.speed = pacer.speed ∧
      pacer.operations machine =
        List.replicate pacer.speed.toNat .cycle ++ [.countDown] := by
  rcases Machine.burst_of_steady steady with ⟨completes, length⟩
  rw [tick_of_burst_ok completes, operations, completes, length]
  exact ⟨rfl, rfl, rfl⟩

theorem machine_tick_of_steady (steady : machine.Steady pacer.speed.toNat) :
    (pacer.tick machine).machine =
      (machine.cycled pacer.speed.toNat).countDown := by
  rw [tick_machine, (tick_of_steady steady).2.2, Machine.after_append]
  rfl

/-- The count at the end of a tick changes nothing but the timers. -/
theorem sameButTimers_tick_of_steady
    (steady : machine.Steady pacer.speed.toNat) :
    (pacer.tick machine).machine.SameButTimers
      (machine.cycled pacer.speed.toNat) := by
  rw [machine_tick_of_steady steady]
  rfl

/-- The cycles of a tick that completes are steady if they hide the pace. -/
theorem steady_of_tick
    (running : machine.state.waiting = none)
    (completes : (pacer.tick machine).result = .ok ())
    (hides :
      ∀ step ∈ machine.trace (pacer.operations machine), step.HidesPace) :
    machine.Steady pacer.speed.toNat ∧
      (machine.cycled pacer.speed.toNat).state.waiting = none := by
  have burst : (machine.burst pacer.speed.toNat).result = .ok () := by
    cases result : (machine.burst pacer.speed.toNat).result with
    | error fault =>
        rw [tick_of_burst_error result] at completes
        cases completes
    | ok answer => rfl
  apply Machine.steady_of_burst running burst
  intro step member
  apply hides
  rw [operations, Machine.trace_append]
  exact List.mem_append_left _ member

end Pacer

namespace Session

variable {machine : Machine} {pacer : Pacer} {ticks : Nat}

/-- Whether every action succeeds and has nothing to answer. -/
def Succeeds (session : Session) (actions : List Action) : Prop :=
  ∀ response ∈ session.responses actions,
    response.result = .ok (.answer .done)

instance (session : Session) (actions : List Action) :
    Decidable (session.Succeeds actions) := by
  unfold Succeeds
  infer_instance

/--
Ticks over steady cycles succeed, and perform them and no others; the timers
that a tick leaves do not change the cycles after it.
-/
theorem ticks_of_steady
    (steady : machine.Steady (pacer.speed.toNat * ticks)) :
    let start : Session := ⟨machine, some pacer⟩
    let actions := List.replicate ticks Action.tick
    start.Succeeds actions ∧
      machine.executions (start.history actions) =
        machine.executions
          (List.replicate (pacer.speed.toNat * ticks) .cycle) ∧
      (start.after actions).machine.SameButTimers
        (machine.cycled (pacer.speed.toNat * ticks)) := by
  induction ticks generalizing machine pacer with
  | zero => exact ⟨by simp [Succeeds, responses], rfl, rfl⟩
  | succ ticks ih =>
      intro start actions
      rw [Nat.mul_succ, Nat.add_comm] at steady ⊢
      rcases Machine.steady_add_iff.mp steady with ⟨here, later⟩
      rcases Pacer.tick_of_steady here with ⟨completes, speed, performed⟩
      have counted := Pacer.sameButTimers_tick_of_steady here
      rcases Machine.steady_of_sameButTimers counted.symm later with
        ⟨next, ends, executed⟩
      rw [← speed] at next
      rcases ih next with ⟨succeeds, history, final⟩
      rw [speed] at history final
      refine ⟨?_, ?_, ?_⟩
      · refine List.forall_mem_cons.mpr ⟨?_, succeeds⟩
        simp only [start, act, ofTick, completes]
        rfl
      · change machine.executions (pacer.operations machine ++ _) = _
        rw [Machine.executions_append, ← pacer.tick_machine, performed,
          Machine.executions_append, Machine.executions_countDown,
          List.append_nil, List.replicate_add, Machine.executions_append]
        exact congrArg _ (history.trans executed.symm)
      · rw [Machine.cycled_add]
        exact final.trans ends.symm

/-- Ticks that succeed run over steady cycles if they hide the pace. -/
theorem steady_of_ticks
    (running : machine.state.waiting = none)
    (succeeds :
      (⟨machine, some pacer⟩ : Session).Succeeds
        (List.replicate ticks .tick))
    (hides :
      ∀ step ∈
          machine.trace
            ((⟨machine, some pacer⟩ : Session).history
              (List.replicate ticks .tick)),
        step.HidesPace) :
    machine.Steady (pacer.speed.toNat * ticks) := by
  induction ticks generalizing machine pacer with
  | zero => nofun
  | succ ticks ih =>
      rcases List.forall_mem_cons.mp succeeds with ⟨first, others⟩
      rw [List.replicate_succ, history, Machine.trace_append,
        List.forall_mem_append] at hides
      rcases hides with ⟨hidden, laterHidden⟩
      have completes : (pacer.tick machine).result = .ok () := by
        simp only [act, ofTick] at first
        cases result : (pacer.tick machine).result with
        | error fault =>
            rw [result] at first
            cases first
        | ok answer => rfl
      rcases Pacer.steady_of_tick running completes hidden with
        ⟨steady, still⟩
      have counted := Pacer.sameButTimers_tick_of_steady steady
      have running' : (pacer.tick machine).machine.state.waiting = none := by
        rw [Pacer.machine_tick_of_steady steady]
        exact still
      have ticked :
          machine.after ((⟨machine, some pacer⟩ : Session).operations .tick) =
            (pacer.tick machine).machine :=
        (pacer.tick_machine machine).symm
      rw [ticked] at laterHidden
      have later := ih running' others laterHidden
      rw [(Pacer.tick_of_steady steady).2.1] at later
      rw [Nat.mul_succ, Nat.add_comm]
      exact Machine.steady_add_iff.mpr
        ⟨steady, (Machine.steady_of_sameButTimers counted later).1⟩

end Session

/--
If a machine that waits for no key gets through some ticks without executing
`Fx07` or `Fx0A`, then ticks at any other speed that allow it equally many
cycles succeed as well, execute the same instructions at the same addresses
and leave the same machine, except for its timers.
-/
theorem speed_changes_only_pacing
    {machine : Machine} {pacer other : Pacer} {ticks otherTicks : Nat}
    (running : machine.state.waiting = none)
    (sameCycles :
      pacer.speed.toNat * ticks = other.speed.toNat * otherTicks) :
    let start : Session := ⟨machine, some pacer⟩
    let otherStart : Session := ⟨machine, some other⟩
    let actions := List.replicate ticks Action.tick
    let otherActions := List.replicate otherTicks Action.tick
    let early := (start.after actions).machine
    let late := (otherStart.after otherActions).machine
    start.Succeeds actions →
      (∀ step ∈ machine.trace (start.history actions), step.HidesPace) →
        otherStart.Succeeds otherActions ∧
          machine.executions (otherStart.history otherActions) =
            machine.executions (start.history actions) ∧
          late = early.withTimers late.state.delay late.state.sound := by
  intro start otherStart actions otherActions early late succeeds hides
  have steady := Session.steady_of_ticks running succeeds hides
  have otherSteady : machine.Steady (other.speed.toNat * otherTicks) :=
    sameCycles ▸ steady
  rcases Session.ticks_of_steady steady with ⟨_, executed, ends⟩
  rcases Session.ticks_of_steady otherSteady with
    ⟨succeeds', executed', ends'⟩
  rw [sameCycles] at executed ends
  exact
    ⟨succeeds', executed'.trans executed.symm,
      Machine.eq_of_sameButTimers (ends.trans ends'.symm)⟩

/-- A machine that sets the delay timer in its second cycle. -/
def timerSetter : Machine :=
  ((Machine.create .standard (.cycling #[])).load
    #[0x60, 0x05, 0xF0, 0x15, 0x71, 0x01]).machine

/-- Three ticks of one cycle and one tick of three leave different delays. -/
theorem speed_changes_only_pacing_of_three_cycles :
    let pacer : Pacer := ⟨1, by decide, none, 0⟩
    let other : Pacer := ⟨3, by decide, none, 0⟩
    let start : Session := ⟨timerSetter, some pacer⟩
    let otherStart : Session := ⟨timerSetter, some other⟩
    let actions := List.replicate 3 Action.tick
    let otherActions := List.replicate 1 Action.tick
    let early := (start.after actions).machine
    let late := (otherStart.after otherActions).machine
    timerSetter.state.waiting = none ∧
      pacer.speed.toNat * 3 = other.speed.toNat * 1 ∧
      start.Succeeds actions ∧
      (∀ step ∈ timerSetter.trace (start.history actions), step.HidesPace) ∧
      otherStart.Succeeds otherActions ∧
      timerSetter.executions (otherStart.history otherActions) =
        [(0x200, 0x6005), (0x202, 0xF015), (0x204, 0x7101)] ∧
      early.state.delay = 3 ∧ late.state.delay = 4 ∧
      late = early.withTimers late.state.delay late.state.sound := by
  intro pacer other start otherStart actions otherActions early late
  have running : timerSetter.state.waiting = none := rfl
  have sameCycles : pacer.speed.toNat * 3 = other.speed.toNat * 1 := rfl
  have succeeds : start.Succeeds actions := by decide +kernel
  have hides :
      ∀ step ∈ timerSetter.trace (start.history actions), step.HidesPace := by
    decide +kernel
  rcases speed_changes_only_pacing running sameCycles succeeds hides with
    ⟨succeeds', executed, ends⟩
  have three :
      timerSetter.executions (start.history actions) =
        [(0x200, 0x6005), (0x202, 0xF015), (0x204, 0x7101)] := by
    decide +kernel
  have earlyDelay : early.state.delay = 3 := by decide +kernel
  have lateDelay : late.state.delay = 4 := by decide +kernel
  exact
    ⟨running, sameCycles, succeeds, hides, succeeds', executed.trans three,
      earlyDelay, lateDelay, ends⟩

end ChipEight
