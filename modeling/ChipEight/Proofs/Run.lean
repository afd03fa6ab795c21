import ChipEight.Proofs.Cycle
import ChipEight.Session

/-!
# Runs

A run is a sequence of operations on a machine.  Its trace lists every
operation with the machine that it met, so statements about the past of a
run quantify over the trace.  The actions of a session reduce to operations:
a tick is the cycles of its burst and, unless the burst failed, one count of
the timers.  `Session.after_machine` says that a session leaves the machine
of the run of its operations, and `after_invariant` and
`Session.after_invariant` carry a property that every operation preserves
through runs and sessions.
-/

namespace ChipEight

/-! ## Steps -/

/-- One operation of a run, with the machine that it met. -/
structure Step where
  before : Machine
  operation : Operation

namespace Step

/-- The machine after a step. -/
def after (step : Step) : Machine :=
  (step.before.perform step.operation).machine

/-- The instruction that a step executes, if it is a cycle that executes one. -/
def instruction? (step : Step) : Option Instruction :=
  match step.operation with
  | .cycle => step.before.upcoming?
  | _ => none

/-- The word that a step fetches, if it is a cycle that fetches one. -/
def word? (step : Step) : Option UInt16 :=
  match step.operation with
  | .cycle => step.before.word?
  | _ => none

/-- A step executes an instruction exactly if it fetches its word. -/
theorem instruction?_eq_some_iff
    {step : Step} {instruction : Instruction} :
    step.instruction? = some instruction ↔
      ∃ word ∈ step.word?, word.toNat = instruction.number := by
  have decoded : step.instruction? = step.word?.bind Instruction.decode? := by
    rcases step with ⟨machine, operation⟩
    cases operation with
    | cycle => exact machine.upcoming?_eq_bind_word?
    | _ => rfl
  rw [decoded, Option.bind_eq_some_iff]
  simp only [Instruction.decode?_eq_some_iff_number, Option.mem_def]

end Step

/-! ## Runs of a machine -/

namespace Machine

/-- The steps of a sequence of operations. -/
def trace (machine : Machine) : List Operation → List Step
  | [] => []
  | operation :: rest =>
      ⟨machine, operation⟩ :: (machine.perform operation).machine.trace rest

@[simp]
theorem after_nil (machine : Machine) : machine.after [] = machine :=
  rfl

@[simp]
theorem after_cons
    (machine : Machine) (operation : Operation) (rest : List Operation) :
    machine.after (operation :: rest) =
      (machine.perform operation).machine.after rest :=
  rfl

@[simp]
theorem after_append
    (machine : Machine) (first second : List Operation) :
    machine.after (first ++ second) = (machine.after first).after second := by
  simp [after]

@[simp]
theorem trace_nil (machine : Machine) : machine.trace [] = [] :=
  rfl

/--
The second part of a run is traced from the machine that the first leaves.
-/
@[simp]
theorem trace_append
    (machine : Machine) (first second : List Operation) :
    machine.trace (first ++ second) =
      machine.trace first ++ (machine.after first).trace second := by
  induction first generalizing machine with
  | nil => rfl
  | cons operation rest ih => simp [trace, ih]

/-- The last step of a run meets the machine that the others leave. -/
theorem trace_concat
    (machine : Machine) (operations : List Operation)
    (operation : Operation) :
    machine.trace (operations ++ [operation]) =
      machine.trace operations ++ [⟨machine.after operations, operation⟩] := by
  simp [trace]

/-- The steps before a step of a run are a run up to the machine it met. -/
theorem trace_eq_append_cons
    {machine : Machine} {operations : List Operation}
    {earlier later : List Step} {step : Step}
    (steps : machine.trace operations = earlier ++ step :: later) :
    ∃ before,
      earlier = machine.trace before ∧ step.before = machine.after before := by
  induction earlier generalizing machine operations with
  | nil =>
      cases operations with
      | nil => cases steps
      | cons operation rest =>
          cases steps
          exact ⟨[], rfl, rfl⟩
  | cons first others ih =>
      cases operations with
      | nil => cases steps
      | cons operation rest =>
          rcases List.cons.inj steps with ⟨rfl, tail⟩
          rcases ih tail with ⟨before, traced, met⟩
          exact ⟨operation :: before, by rw [traced]; rfl, met⟩

/-- What every operation preserves holds after every run. -/
theorem after_invariant
    (property : Machine → Prop)
    (preserved :
      ∀ machine operation,
        property machine → property (machine.perform operation).machine)
    {machine : Machine}
    (start : property machine)
    (operations : List Operation) :
    property (machine.after operations) := by
  induction operations generalizing machine with
  | nil => exact start
  | cons operation rest ih => exact ih (preserved machine operation start)

/-! ## Bursts and ticks as runs -/

/-- The number of cycles that a burst performs. -/
def burstLength : Nat → Machine → Nat
  | 0, _ => 0
  | cycles + 1, machine =>
      match machine.cycle.result with
      | .ok .running => burstLength cycles machine.cycle.machine + 1
      | _ => 1

/-- A burst leaves the machine of as many cycles as it performs. -/
theorem burst_machine (cycles : Nat) (machine : Machine) :
    (machine.burst cycles).machine =
      machine.after
        (List.replicate (machine.burstLength cycles) .cycle) := by
  induction cycles generalizing machine with
  | zero => rfl
  | succ cycles ih =>
      rw [burst_succ, burstLength]
      rcases result : machine.cycle.result with fault | _ | register
      · rfl
      · exact ih machine.cycle.machine
      · rfl

end Machine

namespace Pacer

/-- The operations that a tick performs on a machine. -/
def operations (pacer : Pacer) (machine : Machine) : List Operation :=
  List.replicate (machine.burstLength pacer.speed.toNat) .cycle ++
    match (machine.burst pacer.speed.toNat).result with
    | .ok () => [.countDown]
    | .error _ => []

theorem eq_cycle_or_eq_countDown_of_mem_operations
    {pacer : Pacer} {machine : Machine} {operation : Operation}
    (member : operation ∈ pacer.operations machine) :
    operation = .cycle ∨ operation = .countDown := by
  rcases List.mem_append.mp member with inBurst | atEnd
  · exact Or.inl (List.eq_of_mem_replicate inBurst)
  · split at atEnd
    · exact Or.inr (List.mem_singleton.mp atEnd)
    · cases atEnd

/-- A tick leaves the machine of the run of its operations. -/
theorem tick_machine (pacer : Pacer) (machine : Machine) :
    (pacer.tick machine).machine =
      machine.after (pacer.operations machine) := by
  rw [operations, Machine.after_append, ← Machine.burst_machine, tick]
  cases (machine.burst pacer.speed.toNat).result with
  | error fault => rfl
  | ok answer => rfl

theorem poll_machine
    (pacer : Pacer) (machine : Machine) (now : Instant) :
    (pacer.poll machine now).machine =
      machine.after
        (if pacer.isDue now then pacer.operations machine else []) := by
  rw [poll]
  by_cases due : pacer.isDue now
  · simp only [due, if_true]
    exact tick_machine { pacer with lastAttempt := some now } machine
  · simp [due]

end Pacer

/-! ## Sessions as runs -/

namespace Session

/-- The operations that an action performs on the session's machine. -/
def operations (session : Session) : Action → List Operation
  | .operate operation => [operation]
  | .pace _ => []
  | .tick =>
      match session.pacer with
      | some pacer => pacer.operations session.machine
      | none => []
  | .poll now =>
      match session.pacer with
      | some pacer =>
          if pacer.isDue now then pacer.operations session.machine else []
      | none => []

/-- The operations that a sequence of actions performs. -/
def history (session : Session) : List Action → List Operation
  | [] => []
  | action :: rest =>
      session.operations action ++ (session.act action).session.history rest

theorem eq_operate_or_eq_cycle_or_eq_countDown_of_mem_operations
    {session : Session} {action : Action} {operation : Operation}
    (member : operation ∈ session.operations action) :
    action = .operate operation ∨ operation = .cycle ∨
      operation = .countDown := by
  cases action with
  | operate direct => exact Or.inl (by rw [List.mem_singleton.mp member])
  | pace speed => cases member
  | tick =>
      simp only [operations] at member
      split at member
      · exact Or.inr
          (Pacer.eq_cycle_or_eq_countDown_of_mem_operations member)
      · cases member
  | poll now =>
      simp only [operations] at member
      split at member
      · split at member
        · exact Or.inr
            (Pacer.eq_cycle_or_eq_countDown_of_mem_operations member)
        · cases member
      · cases member

theorem act_machine (session : Session) (action : Action) :
    (session.act action).session.machine =
      session.machine.after (session.operations action) := by
  cases action with
  | operate operation => rfl
  | pace speed =>
      simp only [act]
      cases Pacer.ofSpeed speed <;> rfl
  | tick =>
      simp only [act, operations]
      cases session.pacer with
      | none => rfl
      | some pacer => exact pacer.tick_machine session.machine
  | poll now =>
      simp only [act, operations]
      cases session.pacer with
      | none => rfl
      | some pacer => exact pacer.poll_machine session.machine now

/-- An action performs its operations, and ticks only cycle and count. -/
theorem act_operations (session : Session) (action : Action) :
    (session.act action).session.machine =
        session.machine.after (session.operations action) ∧
      ∀ operation ∈ session.operations action,
        action = .operate operation ∨ operation = .cycle ∨
          operation = .countDown := by
  refine ⟨session.act_machine action, ?_⟩
  intro operation member
  exact eq_operate_or_eq_cycle_or_eq_countDown_of_mem_operations member

/-- A session leaves the machine of the run of its operations. -/
theorem after_machine (session : Session) (actions : List Action) :
    (session.after actions).machine =
      session.machine.after (session.history actions) := by
  induction actions generalizing session with
  | nil => rfl
  | cons action rest ih =>
      rw [history, Machine.after_append, ← act_machine]
      exact ih (session.act action).session

@[simp]
theorem after_nil (session : Session) : session.after [] = session :=
  rfl

@[simp]
theorem after_cons
    (session : Session) (action : Action) (rest : List Action) :
    session.after (action :: rest) =
      (session.act action).session.after rest :=
  rfl

theorem after_concat
    (session : Session) (actions : List Action) (action : Action) :
    session.after (actions ++ [action]) =
      ((session.after actions).act action).session := by
  simp [after]

/-- The responses to a sequence of actions. -/
def responses (session : Session) : List Action → List Response
  | [] => []
  | action :: rest =>
      session.act action :: (session.act action).session.responses rest

/-- What every operation preserves holds in every session. -/
theorem after_invariant
    (property : Machine → Prop)
    (preserved :
      ∀ machine operation,
        property machine → property (machine.perform operation).machine)
    {session : Session}
    (start : property session.machine)
    (actions : List Action) :
    property (session.after actions).machine := by
  rw [after_machine]
  exact Machine.after_invariant property preserved start
    (session.history actions)

end Session

end ChipEight
