import ChipEight.Proofs.JournalText
import ChipEight.Proofs.KeyWait

/-!
# The journal of a run

A cycle reports the instruction that it is about to execute, whether or not
that fails, and after it the wait that the instruction begins; a cycle that
takes a key reports the end of the wait and nothing else.  What a session
reports is what the steps of its run report, so the waits of a journal can be
followed against the awaited register of the machine.  Between resets they
begin and end in turn.  `Session.journal_records_run` states all of this.
-/

namespace ChipEight

/-! ## Events -/

namespace Event

/-- The events of one level among some, in order. -/
def ofLevel (level : Level) (events : List Event) : List Event :=
  events.filter fun event => decide (event.level = level)

theorem mem_ofLevel {level : Level} {events : List Event} {event : Event} :
    event ∈ ofLevel level events ↔ event ∈ events ∧ event.level = level := by
  rw [ofLevel, List.mem_filter, decide_eq_true_iff]

/-- Whether an event reports that a wait for a key begins or ends. -/
def isKeyWait : Event → Bool
  | waiting _ | resuming .. => true
  | _ => false

/-- The register that waits for a key after an event, given the one before. -/
def pendingAfter (pending : Option UInt8) : Event → Option UInt8
  | waiting register => some register
  | resuming .. | resetting => none
  | _ => pending

/--
Whether an event is in turn while a register waits for a key or none does: a
wait begins only if there is none, and it ends with its own register.
-/
def InTurn (pending : Option UInt8) : Event → Prop
  | waiting _ => pending = none
  | resuming _ register => pending = some register
  | _ => True

/-- Waits that begin and end in turn, the last one possibly not ended yet. -/
inductive Alternating : List Event → Prop
  | nil : Alternating []
  | waiting (register : UInt8) : Alternating [.waiting register]
  | resumed (register : UInt8) (key : Key) {later : List Event}
      (alternating : Alternating later) :
      Alternating (.waiting register :: .resuming key register :: later)

/-- Whether every one of some events is in turn. -/
def AllInTurn : Option UInt8 → List Event → Prop
  | _, [] => True
  | pending, event :: later =>
      event.InTurn pending ∧ AllInTurn (event.pendingAfter pending) later

/--
Events are in turn if the later ones are so from the wait that the earlier
ones leave.
-/
theorem allInTurn_append {pending : Option UInt8} {earlier later : List Event} :
    AllInTurn pending (earlier ++ later) ↔
      AllInTurn pending earlier ∧
        AllInTurn (earlier.foldl pendingAfter pending) later := by
  induction earlier generalizing pending with
  | nil => exact (and_iff_right trivial).symm
  | cons event earlier ih =>
      rw [List.cons_append, AllInTurn, AllInTurn, ih, List.foldl_cons,
        and_assoc]

/-- The beginning of the wait that is still pending. -/
def pendingWait (pending : Option UInt8) : List Event :=
  (pending.map waiting).toList

theorem alternating_pendingWait (pending : Option UInt8) :
    Alternating (pendingWait pending) := by
  cases pending with
  | none => exact .nil
  | some register => exact .waiting register

/--
If all events are in turn, the waits alternate between resets; before the
first reset the pending wait comes in front of them.
-/
theorem AllInTurn.alternating_stretches
    {pending : Option UInt8} {log first : List Event}
    {others : List (List Event)}
    (inTurn : AllInTurn pending log)
    (stretches : log.splitOn .resetting = first :: others) :
    Alternating (pendingWait pending ++ first.filter isKeyWait) ∧
      ∀ stretch ∈ others, Alternating (stretch.filter isKeyWait) := by
  induction log generalizing pending first others with
  | nil =>
      rw [List.splitOn_nil] at stretches
      cases stretches
      rw [List.filter_nil, List.append_nil]
      exact ⟨alternating_pendingWait pending, by simp⟩
  | cons event later ih =>
      rcases inTurn with ⟨now, inTurn⟩
      rcases rest : later.splitOn .resetting with _ | ⟨next, more⟩
      · exact (List.splitOn_ne_nil _ _ rest).elim
      rcases ih inTurn rest with ⟨begun, afterwards⟩
      rw [List.splitOn_cons_eq_if_modifyHead, rest] at stretches
      cases event with
      | resetting =>
          cases stretches
          rw [List.filter_nil, List.append_nil]
          exact
            ⟨alternating_pendingWait pending,
              List.forall_mem_cons.mpr ⟨begun, afterwards⟩⟩
      | waiting register =>
          cases stretches
          cases now
          exact ⟨begun, afterwards⟩
      | resuming key register =>
          cases stretches
          cases now
          exact ⟨.resumed register key begun, afterwards⟩
      | loaded size | executing snapshot | launched path | silent =>
          cases stretches
          exact ⟨begun, afterwards⟩

/-- Events that are in turn from the pending wait on are so after it. -/
theorem AllInTurn.pendingWait_append
    {pending : Option UInt8} {log : List Event}
    (inTurn : AllInTurn pending log) :
    AllInTurn none (pendingWait pending ++ log) := by
  cases pending with
  | none => exact inTurn
  | some register => exact ⟨rfl, inTurn⟩

end Event

/-! ## What a cycle reports -/

/-- The register that an instruction makes wait for a key, if it does. -/
def Instruction.awaited? : Instruction → Option Register
  | awaitKey target => some target
  | _ => none

theorem Instruction.awaited?_eq_some_iff
    {instruction : Instruction} {target : Register} :
    instruction.awaited? = some target ↔ instruction = .awaitKey target := by
  cases instruction <;> simp [awaited?]

namespace Machine

variable {machine : Machine} {instruction : Instruction}

/-- What a cycle reports, with what becomes of the wait for a key. -/
inductive Report (machine : Machine) : Prop where
  | nothing
      (quiet : machine.upcoming? = none)
      (events : machine.cycle.events = [])
      (still : machine.cycle.machine.state.waiting = machine.state.waiting)
  | resuming
      (key : Key)
      (target : Register)
      (waiting : machine.state.waiting = some (UInt8.ofNat target.val))
      (least : IsLeast machine.keypad.heldKeys key)
      (events :
        machine.cycle.events = [.resuming key (UInt8.ofNat target.val)])
      (after : machine.cycle.machine = machine.resumed target key)
  | executing
      (instruction : Instruction)
      (upcoming : machine.upcoming? = some instruction)
      (noWait : instruction.awaited? = none)
      (events :
        machine.cycle.events = [.executing (machine.snapshot instruction)])
      (running : machine.cycle.machine.state.waiting = none)
  | waiting
      (target : Register)
      (upcoming : machine.upcoming? = some (.awaitKey target))
      (events :
        machine.cycle.events =
          [.executing (machine.snapshot (.awaitKey target)),
            .waiting (UInt8.ofNat target.val)])
      (waits :
        machine.cycle.machine.state.waiting =
          some (UInt8.ofNat target.val))

theorem upcoming?_of_waiting
    {register : UInt8}
    (waiting : machine.state.waiting = some register) :
    machine.upcoming? = none := by
  rw [upcoming?, waiting]

/-- An instruction that does not fail leaves a wait exactly if it is `Fx0A`. -/
theorem waiting_commit
    {state : State}
    (upcoming : machine.upcoming? = some instruction)
    (success :
      instruction.execute machine.surroundings machine.state = .ok state) :
    (machine.commit instruction state).state.waiting =
      instruction.awaited?.map fun target => UInt8.ofNat target.val := by
  have running := (upcoming?_eq_some_iff.mp upcoming).1
  have after :
      (machine.commit instruction state).state.waiting =
        instruction.waitingAfter machine.state :=
    congrArg State.waiting (Instruction.execute_eq_ok success)
  rw [after]
  cases instruction with
  | awaitKey target => rfl
  | _ => exact running

/-- Every cycle reports in one of the four ways. -/
theorem report (machine : Machine) : machine.Report := by
  cases machine.course with
  | parked register waiting idle equation =>
      refine .nothing (upcoming?_of_waiting waiting) ?_ ?_ <;> rw [equation]
  | stranded register key outOfRange waiting held equation =>
      refine .nothing (upcoming?_of_waiting waiting) ?_ ?_ <;> rw [equation]
  | unknown running undecodable equation =>
      have quiet : machine.upcoming? = none := by
        rw [upcoming?, running]
        exact undecodable
      refine .nothing quiet ?_ ?_ <;> rw [equation]
  | resumed register key inRange waiting held equation =>
      have number : UInt8.ofNat register.toNat = register :=
        UInt8.ofNat_toNat
      have least := Keypad.lowest?_eq_some_iff.mp held
      refine .resuming key ⟨register.toNat, inRange⟩ ?_ least ?_ ?_
      · rw [number, waiting]
      · rw [number, equation]
      · rw [equation]
  | failed instruction fault upcoming failure equation =>
      have running := (upcoming?_eq_some_iff.mp upcoming).1
      refine .executing instruction upcoming ?_ ?_ ?_
      · cases instruction with
        | awaitKey target => cases failure
        | _ => rfl
      · rw [equation]
      · rw [equation, running]
  | executed instruction state upcoming success equation =>
      have after := waiting_commit upcoming success
      cases awaited : instruction.awaited? with
      | none =>
          rw [awaited] at after
          refine .executing instruction upcoming awaited ?_ ?_
          · rw [equation, parkingEvents, after]
            rfl
          · rw [equation, after]
            rfl
      | some target =>
          cases Instruction.awaited?_eq_some_iff.mp awaited
          refine .waiting target upcoming ?_ ?_
          · rw [equation, parkingEvents, after]
            rfl
          · rw [equation, after]
            rfl

/-- A cycle reports one instruction if it executes one, and none otherwise. -/
theorem traces_cycle (machine : Machine) :
    Event.ofLevel .trace machine.cycle.events =
      (machine.upcoming?.map fun instruction =>
        .executing (machine.snapshot instruction)).toList := by
  cases machine.report with
  | nothing quiet events still =>
      rw [events, quiet]
      rfl
  | resuming key target waiting least events after =>
      rw [events, upcoming?_of_waiting waiting]
      rfl
  | executing instruction upcoming noWait events running =>
      rw [events, upcoming]
      rfl
  | waiting target upcoming events waits =>
      rw [events, upcoming]
      rfl

/-- Only key waits are reported besides instructions, and after them. -/
theorem events_cycle (machine : Machine) :
    machine.cycle.events =
        Event.ofLevel .trace machine.cycle.events ++
          Event.ofLevel .debug machine.cycle.events ∧
      (Event.ofLevel .debug machine.cycle.events).length ≤ 1 ∧
      ∀ event ∈ Event.ofLevel .debug machine.cycle.events,
        event.isKeyWait = true := by
  cases machine.report with
  | nothing quiet events still =>
      rw [events]
      exact ⟨rfl, Nat.zero_le 1, by simp [Event.ofLevel]⟩
  | resuming key target waiting least events after =>
      rw [events]
      exact ⟨rfl, Nat.le_refl 1, List.forall_mem_singleton.mpr rfl⟩
  | executing instruction upcoming noWait events running =>
      rw [events]
      exact ⟨rfl, Nat.zero_le 1, by simp [Event.ofLevel, Event.level]⟩
  | waiting target upcoming events waits =>
      rw [events]
      exact ⟨rfl, Nat.le_refl 1, List.forall_mem_singleton.mpr rfl⟩

theorem resetting_notMem_cycle : .resetting ∉ machine.cycle.events := by
  intro member
  rw [machine.events_cycle.1] at member
  rcases List.mem_append.mp member with trace | debug
  · cases (Event.mem_ofLevel.mp trace).2
  · cases machine.events_cycle.2.2 _ debug

/--
The beginning of a wait is reported by exactly the cycles that execute
`Fx0A`.
-/
theorem waiting_mem_cycle_iff {register : UInt8} :
    .waiting register ∈ Event.ofLevel .debug machine.cycle.events ↔
      ∃ target : Register,
        register = UInt8.ofNat target.val ∧
          machine.upcoming? = some (.awaitKey target) := by
  simp only [Event.mem_ofLevel, Event.level, and_true]
  cases machine.report with
  | nothing quiet events still => simp [events, quiet]
  | resuming key target waiting least events after =>
      simp [events, upcoming?_of_waiting waiting]
  | executing instruction upcoming noWait events running =>
      rw [events, upcoming]
      constructor
      · intro member
        cases List.mem_singleton.mp member
      · rintro ⟨target, _, same⟩
        cases same
        cases noWait
  | waiting target upcoming events waits =>
      rw [events, upcoming]
      simp

/-- A wait is reported to end by exactly the cycles that end one. -/
theorem exists_resuming_mem_cycle_iff {register : UInt8} :
    (∃ key,
        .resuming key register ∈
          Event.ofLevel .debug machine.cycle.events) ↔
      machine.state.waiting = some register ∧
        machine.cycle.machine.state.waiting = none := by
  simp only [Event.mem_ofLevel, Event.level, and_true]
  cases machine.report with
  | nothing quiet events still =>
      rw [events, still]
      constructor
      · rintro ⟨key, member⟩
        cases member
      · rintro ⟨waits, running⟩
        rw [running] at waits
        cases waits
  | resuming key target waiting least events after =>
      rw [events, after, waiting]
      constructor
      · rintro ⟨other, member⟩
        cases List.mem_singleton.mp member
        exact ⟨rfl, rfl⟩
      · rintro ⟨same, _⟩
        cases same
        exact ⟨key, List.mem_singleton_self _⟩
  | executing instruction upcoming noWait events running =>
      rw [events, (upcoming?_eq_some_iff.mp upcoming).1]
      simp
  | waiting target upcoming events waits =>
      rw [events, (upcoming?_eq_some_iff.mp upcoming).1]
      simp

/-- What is reported to end a wait is what the cycle stores. -/
theorem stored_of_resuming_mem_cycle
    {key : Key} {register : UInt8}
    (member : .resuming key register ∈ machine.cycle.events) :
    IsLeast machine.keypad.heldKeys key ∧
      ∃ target : Register,
        register = UInt8.ofNat target.val ∧
          machine.state.waiting = some register ∧
            machine.cycle.machine = machine.resumed target key := by
  cases machine.report with
  | nothing quiet events still =>
      rw [events] at member
      cases member
  | resuming other target waiting least events after =>
      rw [events] at member
      cases List.mem_singleton.mp member
      exact ⟨least, target, rfl, waiting, after⟩
  | executing instruction upcoming noWait events running =>
      rw [events] at member
      cases List.mem_singleton.mp member
  | waiting target upcoming events waits =>
      rw [events] at member
      simp at member

theorem register_resumed (target : Register) (key : Key) :
    (machine.resumed target key).state.register target =
      UInt8.ofNat key.val :=
  (State.register_setRegister machine.state target target _).trans (if_pos rfl)

/-- The reports of a cycle are in turn and lead to the wait that it leaves. -/
theorem allInTurn_cycle (machine : Machine) :
    Event.AllInTurn machine.state.waiting machine.cycle.events ∧
      machine.cycle.events.foldl Event.pendingAfter machine.state.waiting =
        machine.cycle.machine.state.waiting := by
  cases machine.report with
  | nothing quiet events still =>
      rw [events, still]
      exact ⟨trivial, rfl⟩
  | resuming key target waiting least events after =>
      rw [events, after, waiting]
      exact ⟨⟨rfl, trivial⟩, rfl⟩
  | executing instruction upcoming noWait events running =>
      rw [events, running]
      exact ⟨⟨trivial, trivial⟩, (upcoming?_eq_some_iff.mp upcoming).1⟩
  | waiting target upcoming events waits =>
      rw [events, waits]
      exact
        ⟨⟨trivial, (upcoming?_eq_some_iff.mp upcoming).1, trivial⟩, rfl⟩

/-- A cycle reports instructions by their words. -/
theorem genuine_of_mem_cycle
    {event : Event}
    (member : event ∈ machine.cycle.events) :
    event.Genuine := by
  have decoded
      {instruction : Instruction}
      (upcoming : machine.upcoming? = some instruction) :
      Event.Genuine (.executing (machine.snapshot instruction)) :=
    (upcoming?_eq_some_iff.mp upcoming).2
  cases machine.report with
  | nothing quiet events still =>
      rw [events] at member
      cases member
  | resuming key target waiting least events after =>
      rw [events] at member
      cases List.mem_singleton.mp member
      trivial
  | executing instruction upcoming noWait events running =>
      rw [events] at member
      cases List.mem_singleton.mp member
      exact decoded upcoming
  | waiting target upcoming events waits =>
      rw [events] at member
      rcases List.mem_pair.mp member with rfl | rfl
      · exact decoded upcoming
      · trivial

end Machine

/-! ## The journal of a run -/

namespace Step

/-- What a step reports. -/
def events (step : Step) : List Event :=
  (step.before.perform step.operation).events

/-- The report of the instruction that a step executes, if it executes one. -/
def reported? (step : Step) : Option Event :=
  step.instruction?.map fun instruction =>
    .executing (step.before.snapshot instruction)

/-- What a step reports, with what becomes of the wait for a key. -/
inductive Report (step : Step) : Prop where
  | cycle
      (isCycle : step.operation = .cycle)
      (events : step.events = step.before.cycle.events)
      (after : step.after = step.before.cycle.machine)
  | reset
      (isReset : step.operation = .reset)
      (events : step.events = [.resetting])
      (running : step.after.state.waiting = none)
  | other
      (noCycle : step.operation ≠ .cycle)
      (noReset : step.operation ≠ .reset)
      (events : step.events = [] ∨ ∃ size, step.events = [.loaded size])
      (still : step.after.state.waiting = step.before.state.waiting)

theorem events_load (machine : Machine) (program : Array UInt8) :
    (machine.load program).events = [] ∨
      ∃ size, (machine.load program).events = [.loaded size] := by
  rcases Nat.lt_or_ge Memory.programLimit program.size with large | fits
  · rw [Machine.load_of_too_large large]
    exact Or.inl rfl
  · rw [Machine.load_of_fits fits]
    exact Or.inr ⟨_, rfl⟩

theorem report (step : Step) : step.Report := by
  rcases step with ⟨machine, operation⟩
  cases operation with
  | cycle => exact .cycle rfl rfl rfl
  | reset => exact .reset rfl rfl rfl
  | load program =>
      refine .other nofun nofun (events_load machine program) ?_
      rcases machine.load_machine program with ⟨memory, loaded⟩
      rw [after, Machine.perform_load_machine, loaded]
  | loadFile path contents =>
      refine .other nofun nofun ?_ ?_
      · cases contents with
        | none => exact Or.inl rfl
        | some program => exact events_load machine program
      · rcases machine.loadFile_machine path contents with ⟨memory, loaded⟩
        rw [after, Machine.perform_loadFile_machine, loaded]
  | countDown | press code | release code | releaseAll =>
      exact .other nofun nofun (Or.inl rfl) rfl

variable {step : Step}

theorem instruction?_of_noCycle (noCycle : step.operation ≠ .cycle) :
    step.instruction? = none := by
  rcases step with ⟨machine, operation⟩
  cases operation with
  | cycle => exact (noCycle rfl).elim
  | _ => rfl

/-- A step reports one instruction if it executes one, and none otherwise. -/
theorem traces_events (step : Step) :
    Event.ofLevel .trace step.events = step.reported?.toList := by
  cases step.report with
  | cycle isCycle events after =>
      rw [events, Machine.traces_cycle, reported?, instruction?, isCycle]
  | reset isReset events running =>
      rw [events, reported?, instruction?_of_noCycle (by rw [isReset]; nofun)]
      rfl
  | other noCycle noReset events still =>
      rw [reported?, instruction?_of_noCycle noCycle]
      rcases events with events | ⟨size, events⟩ <;> rw [events] <;> rfl

theorem resetting_mem_events_iff :
    .resetting ∈ step.events ↔ step.operation = .reset := by
  cases step.report with
  | cycle isCycle events after =>
      rw [events, isCycle]
      exact iff_of_false Machine.resetting_notMem_cycle nofun
  | reset isReset events running => simp [events, isReset]
  | other noCycle noReset events still =>
      refine iff_of_false ?_ noReset
      rcases events with events | ⟨size, events⟩ <;> simp [events]

/-- A step that reports the end of a wait stores the key that it reports. -/
theorem stored_of_resuming_mem_events
    {key : Key} {register : UInt8}
    (member : .resuming key register ∈ step.events) :
    step.operation = .cycle ∧
      IsLeast step.before.keypad.heldKeys key ∧
        ∃ target : Register,
          register = UInt8.ofNat target.val ∧
            step.before.state.waiting = some register ∧
              step.after = step.before.resumed target key := by
  cases step.report with
  | cycle isCycle events after =>
      rw [events] at member
      rw [after]
      exact ⟨isCycle, Machine.stored_of_resuming_mem_cycle member⟩
  | reset isReset events running => simp [events] at member
  | other noCycle noReset events still =>
      rcases events with events | ⟨size, events⟩ <;> simp [events] at member

/-- The reports of a step are in turn and lead to the wait that it leaves. -/
theorem allInTurn_events (step : Step) :
    Event.AllInTurn step.before.state.waiting step.events ∧
      step.events.foldl Event.pendingAfter step.before.state.waiting =
        step.after.state.waiting := by
  cases step.report with
  | cycle isCycle events after =>
      rw [events, after]
      exact step.before.allInTurn_cycle
  | reset isReset events running =>
      rw [events, running]
      exact ⟨⟨trivial, trivial⟩, rfl⟩
  | other noCycle noReset events still =>
      rw [still]
      rcases events with events | ⟨size, events⟩
      · rw [events]
        exact ⟨trivial, rfl⟩
      · rw [events]
        exact ⟨⟨trivial, trivial⟩, rfl⟩

theorem genuine_of_mem_events
    {event : Event}
    (member : event ∈ step.events) :
    event.Genuine := by
  cases step.report with
  | cycle isCycle events after =>
      rw [events] at member
      exact Machine.genuine_of_mem_cycle member
  | reset isReset events running =>
      rw [events] at member
      cases List.mem_singleton.mp member
      trivial
  | other noCycle noReset events still =>
      rcases events with events | ⟨size, events⟩
      · rw [events] at member
        cases member
      · rw [events] at member
        cases List.mem_singleton.mp member
        trivial

end Step

namespace Machine

variable {machine : Machine}

/-- What a run reports. -/
def log (machine : Machine) (operations : List Operation) : List Event :=
  (machine.trace operations).flatMap Step.events

theorem log_cons
    (machine : Machine) (operation : Operation)
    (operations : List Operation) :
    machine.log (operation :: operations) =
      (machine.perform operation).events ++
        (machine.perform operation).machine.log operations :=
  rfl

/--
The second part of a run is reported from the machine that the first leaves.
-/
theorem log_append (machine : Machine) (first second : List Operation) :
    machine.log (first ++ second) =
      machine.log first ++ (machine.after first).log second := by
  rw [log, trace_append, List.flatMap_append]
  rfl

/-- A run reports one instruction for each that it executes. -/
theorem traces_log (machine : Machine) (operations : List Operation) :
    Event.ofLevel .trace (machine.log operations) =
      (machine.trace operations).filterMap Step.reported? := by
  rw [log, Event.ofLevel, List.filter_flatMap,
    List.filterMap_eq_flatMap_toList]
  exact congrArg (List.flatMap · _) (funext Step.traces_events)

/--
The journal of a run is in turn from the wait of the machine on, and it leads
to the wait that the run leaves.
-/
theorem allInTurn_log (machine : Machine) (operations : List Operation) :
    Event.AllInTurn machine.state.waiting (machine.log operations) ∧
      (machine.log operations).foldl Event.pendingAfter
          machine.state.waiting =
        (machine.after operations).state.waiting := by
  induction operations generalizing machine with
  | nil => exact ⟨trivial, rfl⟩
  | cons operation operations ih =>
      let step : Step := ⟨machine, operation⟩
      rcases step.allInTurn_events with ⟨now, wait⟩
      rcases ih step.after with ⟨later, waits⟩
      rw [← wait] at later waits
      refine ⟨Event.allInTurn_append.mpr ⟨now, later⟩, ?_⟩
      rw [log_cons, List.foldl_append, after_cons]
      exact waits

/-- Between resets the waits alternate, the one pending at first included. -/
theorem alternating_stretches_log
    {operations : List Operation} {stretch : List Event}
    (member :
      stretch ∈
        (Event.pendingWait machine.state.waiting ++
            machine.log operations).splitOn .resetting) :
    Event.Alternating (stretch.filter Event.isKeyWait) := by
  have inTurn := (machine.allInTurn_log operations).1.pendingWait_append
  generalize
    Event.pendingWait machine.state.waiting ++ machine.log operations = log
    at inTurn member
  rcases stretches : log.splitOn .resetting with _ | ⟨first, others⟩
  · exact (List.splitOn_ne_nil _ _ stretches).elim
  · rcases inTurn.alternating_stretches stretches with ⟨begun, afterwards⟩
    rw [stretches] at member
    rcases List.mem_cons.mp member with rfl | later
    · exact begun
    · exact afterwards stretch later

theorem genuine_of_mem_log
    {operations : List Operation} {event : Event}
    (member : event ∈ machine.log operations) :
    event.Genuine := by
  rcases List.mem_flatMap.mp member with ⟨step, _, reported⟩
  exact Step.genuine_of_mem_events reported

/-- A burst reports what its cycles report. -/
theorem burst_events (cycles : Nat) (machine : Machine) :
    (machine.burst cycles).events =
      machine.log (List.replicate (machine.burstLength cycles) .cycle) := by
  induction cycles generalizing machine with
  | zero => rfl
  | succ cycles ih =>
      rw [burst_succ, burstLength]
      rcases result : machine.cycle.result with fault | _ | register
      · exact (List.append_nil _).symm
      · exact congrArg (machine.cycle.events ++ ·) (ih machine.cycle.machine)
      · exact (List.append_nil _).symm

end Machine

/-- A tick reports what the run of its operations reports. -/
theorem Pacer.tick_events (pacer : Pacer) (machine : Machine) :
    (pacer.tick machine).events =
      machine.log (pacer.operations machine) := by
  rw [operations, Machine.log_append, ← Machine.burst_events, tick]
  cases (machine.burst pacer.speed.toNat).result with
  | error fault => exact (List.append_nil _).symm
  | ok answer => exact (List.append_nil _).symm

theorem Pacer.poll_events
    (pacer : Pacer) (machine : Machine) (now : Instant) :
    (pacer.poll machine now).events =
      machine.log
        (if pacer.isDue now then pacer.operations machine else []) := by
  rw [poll]
  by_cases due : pacer.isDue now
  · rw [if_pos due, if_pos due]
    exact tick_events { pacer with lastAttempt := some now } machine
  · rw [if_neg due, if_neg due]
    rfl

namespace Session

theorem act_events (session : Session) (action : Action) :
    (session.act action).events =
      session.machine.log (session.operations action) := by
  cases action with
  | operate operation => exact (List.append_nil _).symm
  | pace speed =>
      simp only [act]
      cases Pacer.ofSpeed speed <;> rfl
  | tick =>
      simp only [act, operations]
      cases session.pacer with
      | none => rfl
      | some pacer => exact pacer.tick_events session.machine
  | poll now =>
      simp only [act, operations]
      cases session.pacer with
      | none => rfl
      | some pacer => exact pacer.poll_events session.machine now

/-- What a session reports. -/
def log (session : Session) (actions : List Action) : List Event :=
  (session.responses actions).flatMap Response.events

/-- A session reports what its run reports. -/
theorem log_eq (session : Session) (actions : List Action) :
    session.log actions = session.machine.log (session.history actions) := by
  induction actions generalizing session with
  | nil => rfl
  | cons action rest ih =>
      rw [history, Machine.log_append, ← act_machine, ← act_events, ← ih]
      rfl

theorem genuine_of_mem_log
    {session : Session} {actions : List Action} {event : Event}
    (member : event ∈ session.log actions) :
    event.Genuine := by
  rw [log_eq] at member
  exact Machine.genuine_of_mem_log member

/--
A cycle reports the instruction that it fetches, with the state before it and
even if it then fails, and it reports none if it is parked, takes a key or
fetches no instruction.  After that it reports a wait exactly if it executes
`Fx0A`, and it reports the end of one exactly if it ends one.  What a session
reports is what the steps of its run report, in order, so the waits between
resets begin and end in turn, each with its own register and with the key that
went into it, and the journal tells at each moment what the machine waits for;
a wait that was pending at first counts as reported.  The lines show all of
this, an instruction by the name of the row that its word matches.
-/
theorem journal_records_run :
    (∀ machine : Machine,
      let events := machine.cycle.events
      let traces := Event.ofLevel .trace events
      let debugs := Event.ofLevel .debug events
      (events = traces ++ debugs ∧ debugs.length ≤ 1 ∧
          ∀ event ∈ debugs, event.isKeyWait = true) ∧
        (∀ instruction,
          machine.state.waiting = none →
          Instruction.decode? machine.state.fetch = some instruction →
            traces =
              [.executing
                { counter := machine.state.counter
                  opcode := machine.state.fetch
                  instruction := instruction
                  registers := machine.state.registers
                  index := machine.state.index
                  depth := machine.state.depth }]) ∧
        (machine.state.waiting ≠ none ∨
            Instruction.decode? machine.state.fetch = none →
          traces = []) ∧
        (∀ register,
          .waiting register ∈ debugs ↔
            ∃ target : Register,
              register = UInt8.ofNat target.val ∧
                machine.state.waiting = none ∧
                machine.state.fetch.toNat = 0xF00A + 256 * target.val) ∧
        ∀ register,
          (∃ key, .resuming key register ∈ debugs) ↔
            machine.state.waiting = some register ∧
              machine.cycle.machine.state.waiting = none) ∧
      (∀ (session : Session) actions,
        let pending := session.machine.state.waiting
        let log := (session.responses actions).flatMap Response.events
        let steps := session.machine.trace (session.history actions)
        log = steps.flatMap Step.events ∧
          Event.ofLevel .trace log = steps.filterMap Step.reported? ∧
          (∀ stretch ∈ (Event.pendingWait pending ++ log).splitOn .resetting,
            Event.Alternating (stretch.filter Event.isKeyWait)) ∧
          (∀ step ∈ steps,
            (.resetting ∈ step.events ↔ step.operation = .reset) ∧
              ∀ key register,
                .resuming key register ∈ step.events →
                  step.operation = .cycle ∧
                    IsLeast step.before.keypad.heldKeys key ∧
                    ∃ target : Register,
                      register = UInt8.ofNat target.val ∧
                        step.after.state.register target =
                          UInt8.ofNat key.val) ∧
          log.foldl Event.pendingAfter pending =
            (session.after actions).machine.state.waiting) ∧
      (∀ snapshot : Snapshot,
        (Event.executing snapshot).text =
          Hex.upper 3 snapshot.counter.toNat ++ ": "
            ++ Hex.upper 4 snapshot.opcode.toNat
            ++ " " ++ padded 4 snapshot.instruction.mnemonic
            ++ " v["
            ++ ", ".intercalate
              (snapshot.registers.toList.map fun value =>
                Hex.upper 2 value.toNat)
            ++ "] i" ++ Hex.upper 3 snapshot.index.toNat
            ++ " sp" ++ toString snapshot.depth.toNat) ∧
      (∀ word instruction name,
        Instruction.decode? word = some instruction →
          (instruction.mnemonic = name ↔
            ∃ pattern, (pattern, name) ∈ namedRows ∧ pattern.Matches word)) ∧
      (∀ register,
        (Event.waiting register).text =
          "waiting for a key press into V" ++ Hex.upper 1 register.toNat) ∧
      (∀ key register,
        (Event.resuming key register).text =
          "key " ++ Hex.upper 1 key.val ++ " pressed, resuming into V"
            ++ Hex.upper 1 register.toNat) ∧
      ∀ (session other : Session) actions others,
        (session.log actions).map Event.line =
          (other.log others).map Event.line →
        session.log actions = other.log others := by
  refine
    ⟨?_, ?_, fun _ => rfl, fun _ _ name decoded =>
      Instruction.mnemonic_eq_iff decoded name, Event.text_waiting,
      Event.text_resuming, ?_⟩
  · intro machine events traces debugs
    have trace := machine.traces_cycle
    refine ⟨machine.events_cycle, ?_, ?_, ?_, ?_⟩
    · intro instruction running decoded
      rw [Machine.upcoming?_eq_some_iff.mpr ⟨running, decoded⟩] at trace
      exact trace
    · intro quiet
      have none : machine.upcoming? = none := by
        rw [Option.eq_none_iff_forall_ne_some]
        intro instruction upcoming
        rcases Machine.upcoming?_eq_some_iff.mp upcoming with
          ⟨running, decoded⟩
        rcases quiet with parked | undecodable
        · exact parked running
        · rw [undecodable] at decoded
          cases decoded
      rw [none] at trace
      exact trace
    · intro register
      simp only [debugs, events, Machine.waiting_mem_cycle_iff,
        Machine.upcoming?_eq_some_iff, Instruction.decode?_eq_awaitKey_iff]
    · intro register
      exact Machine.exists_resuming_mem_cycle_iff
  · intro session actions pending log steps
    have run : log = session.machine.log (session.history actions) :=
      session.log_eq actions
    have traces :
        Event.ofLevel .trace log = steps.filterMap Step.reported? := by
      rw [run]
      exact session.machine.traces_log (session.history actions)
    refine ⟨run, traces, ?_, ?_, ?_⟩
    · intro stretch member
      rw [run] at member
      exact Machine.alternating_stretches_log member
    · intro step _
      refine ⟨Step.resetting_mem_events_iff, ?_⟩
      intro key register member
      rcases Step.stored_of_resuming_mem_events member with
        ⟨isCycle, least, target, same, _, after⟩
      refine ⟨isCycle, least, target, same, ?_⟩
      rw [after]
      exact Machine.register_resumed target key
    · rw [run, after_machine]
      exact (session.machine.allInTurn_log (session.history actions)).2
  · intro session other actions others same
    exact Event.eq_of_map_line_eq (fun _ => genuine_of_mem_log)
      (fun _ => genuine_of_mem_log) same

/--
A program that waits for a key and then returns without a call, run on a new
machine until the return is next.
-/
def beforeFailingReturn : List Action :=
  [.operate (.load #[0xF3, 0x0A, 0x00, 0xEE]), .operate .cycle,
    .operate .cycle, .operate (.load #[0xF3]), .operate (.press 0xB),
    .operate (.press 0x9), .operate .cycle]

/--
The failing return is reported by its name, and the undecodable word after
the reset is not; one of the two waits ends, with the lower key.
-/
theorem journal_records_failing_return :
    let start := Session.create .standard (.cycling #[])
    let failing := (start.after beforeFailingReturn).machine
    let actions :=
      beforeFailingReturn ++
        [.operate .cycle, .operate .reset, .operate .cycle,
          .operate (.load #[0xF3, 0x0A]), .operate .cycle]
    let snapshot : Snapshot :=
      { counter := 0x202
        opcode := 0x00EE
        instruction := .ret
        registers := failing.state.registers
        index := 0
        depth := 0 }
    let waits := fun stretch : List Event => stretch.filter Event.isKeyWait
    failing.cycle.result = .error (.stackUnderflow 0x202) ∧
      Event.ofLevel .trace failing.cycle.events = [.executing snapshot] ∧
      snapshot.instruction.mnemonic = "RET" ∧
      (Event.executing snapshot).line =
        "TRACE 202: 00EE RET  v[00, 00, 00, 09, 00, 00, 00, 00, "
          ++ "00, 00, 00, 00, 00, 00, 00, 00] i000 sp0" ∧
      failing.reset.cycle.result = .error (.unknownInstruction 0x0000 0x200) ∧
      Event.ofLevel .trace failing.reset.cycle.events = [] ∧
      ((start.log actions).splitOn .resetting).map waits =
        [[.waiting 3, .resuming 9 3], [.waiting 3]] ∧
      (∀ stretch ∈ (start.log actions).splitOn .resetting,
        Event.Alternating (waits stretch)) ∧
      (start.log actions).foldl Event.pendingAfter none = some 3 ∧
      start.log [.operate .reset] =
        start.log [.operate (.press 0x5), .operate .reset] := by
  intro start failing actions snapshot waits
  rcases journal_records_run with ⟨cycles, runs, _, names, _, _, lines⟩
  rcases cycles failing with ⟨_, executing, _⟩
  rcases cycles failing.reset with ⟨_, _, quiet, _⟩
  rcases runs start actions with ⟨_, _, alternating, _, pending⟩
  refine ⟨by decide +kernel, ?_, ?_, by decide +kernel, by decide +kernel, ?_,
    by decide +kernel, alternating, ?_, ?_⟩
  · refine (executing .ret (by decide +kernel) (by decide +kernel)).trans ?_
    decide +kernel
  · refine (names 0x00EE .ret "RET" rfl).mpr ⟨?row, ?named, ?matched⟩
    case row => exact ⟨some 0x0, some 0x0, some 0xE, some 0xE⟩
    case named => decide
    case matched => simp [WordPattern.Matches]
  · exact quiet (Or.inr (by decide +kernel))
  · exact pending.trans (by decide +kernel)
  · exact lines start start _ _ rfl

end Session

end ChipEight
