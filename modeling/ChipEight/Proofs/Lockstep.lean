import ChipEight.Proofs.Effect
import ChipEight.Proofs.Tick
import Mathlib.Data.List.Forall2

/-!
# Machines in lockstep

Two machines agree on an operation if they answer and report the same and
what they become is related again.  `Machine.agree_cycle` and
`Machine.agree_perform_of_noCycle` reduce this to what the relation says
about the instruction to be executed, the key to be taken and the state.  A
coupling relates machines that agree on everything the host does to both,
until they meet a cycle that parts them.  What it says about single
operations carries over to bursts, ticks and polls, and by `Coupling.run` to
everything that two sessions do up to the first cycle that parts their
machines.
-/

namespace ChipEight

/-! ## Agreement -/

/-- Whether two outcomes answer and report the same and leave related machines. -/
structure Outcome.Agree {failure answer : Type}
    (related : Machine → Machine → Prop)
    (first second : Outcome failure answer) : Prop where
  result : first.result = second.result
  events : first.events = second.events
  machine : related first.machine second.machine

/-- Whether two ticks do the same but leave machines that are only related. -/
structure Tick.Agree {answer : Type}
    (related : Machine → Machine → Prop)
    (first second : Tick answer) : Prop where
  result : first.result = second.result
  pacer : first.pacer = second.pacer
  machine : related first.machine second.machine
  requests : first.requests = second.requests
  events : first.events = second.events

/-- Whether two responses are the same but for machines that are only related. -/
structure Response.Agree
    (related : Machine → Machine → Prop)
    (first second : Response) : Prop where
  result : first.result = second.result
  pacer : first.session.pacer = second.session.pacer
  machine : related first.session.machine second.session.machine
  requests : first.requests = second.requests
  events : first.events = second.events

theorem Outcome.Agree.map
    {failure answer failure' answer' : Type}
    {related : Machine → Machine → Prop}
    {first second : Outcome failure answer}
    (agree : first.Agree related second)
    (onFailure : failure → failure') (onAnswer : answer → answer') :
    (first.map onFailure onAnswer).Agree related
      (second.map onFailure onAnswer) where
  result := by simp only [Outcome.map, agree.result]
  events := agree.events
  machine := agree.machine

/-! ## Machines in the same state -/

/-- Executing depends on the surroundings only where an instruction reads them. -/
theorem Instruction.execute_congr
    {surroundings other : Surroundings} {state : State}
    {instruction : Instruction}
    (bytes :
      ∀ target mask, instruction = .random target mask →
        surroundings.random.byte = other.random.byte)
    (keys :
      ∀ register,
        instruction = .skip (.keyDown register) ∨
            instruction = .skip (.keyUp register) →
          surroundings.keypad.isHeld (state.register register) =
            other.keypad.isHeld (state.register register))
    (rows :
      ∀ column row height, instruction = .draw column row height →
        state.drawing surroundings.wrapRows column row height =
          state.drawing other.wrapRows column row height) :
    instruction.execute surroundings state =
      instruction.execute other state := by
  cases instruction with
  | skip condition =>
      have holds :
          condition.holds surroundings.keypad state =
            condition.holds other.keypad state := by
        cases condition with
        | keyDown register => exact keys register (Or.inl rfl)
        | keyUp register => exact congrArg not (keys register (Or.inr rfl))
        | _ => rfl
      rw [execute, execute, holds]
  | random target mask => rw [execute, execute, bytes target mask rfl]
  | draw column row height =>
      have drawings := rows column row height rfl
      simp only [execute_eq, fault?, stateAfter, registersAfter, frameAfter,
        drawings]
      rfl
  | _ => rfl

namespace Machine

variable {first second : Machine}

theorem upcoming?_congr (states : first.state = second.state) :
    first.upcoming? = second.upcoming? := by
  rw [upcoming?, upcoming?, states]

/-- Whatever an instruction cannot observe does not change what it does. -/
theorem execute_congr
    {instruction : Instruction}
    (states : first.state = second.state)
    (executions :
      instruction.execute first.surroundings first.state =
        instruction.execute second.surroundings first.state) :
    (first.execute instruction).Agree
      (fun first second => first.state = second.state)
      (second.execute instruction) := by
  have snapshots :
      first.snapshot instruction = second.snapshot instruction := by
    rw [snapshot, snapshot, states]
  rw [states] at executions
  simp only [execute, states, executions, snapshots]
  cases instruction.execute second.surroundings second.state with
  | error fault => exact ⟨rfl, rfl, states⟩
  | ok state => exact ⟨rfl, rfl, rfl⟩

/--
Related machines that are at the same instruction stay related through a
cycle if both take the same key and what they resume and execute is related.
-/
theorem agree_cycle
    {related : Machine → Machine → Prop}
    (waitings : first.state.waiting = second.state.waiting)
    (counters : first.state.counter = second.state.counter)
    (opcodes : first.state.fetch = second.state.fetch)
    (keys :
      first.state.waiting ≠ none →
        first.keypad.lowest? = second.keypad.lowest?)
    (start : related first second)
    (resumptions :
      ∀ target key,
        related (first.resumed target key) (second.resumed target key))
    (executions :
      ∀ instruction, first.upcoming? = some instruction →
        (first.execute instruction).Agree related
          (second.execute instruction)) :
    first.cycle.Agree related second.cycle := by
  cases waiting : first.state.waiting with
  | some register =>
      have taken : first.keypad.lowest? = second.keypad.lowest? :=
        keys (by simp [waiting])
      rw [cycle_of_waiting waiting,
        cycle_of_waiting (waitings.symm.trans waiting), taken]
      cases second.keypad.lowest? with
      | none => exact ⟨rfl, rfl, start⟩
      | some key =>
          by_cases inRange : register.toNat < 16
          · simp only [resume, inRange, dif_pos]
            exact ⟨rfl, rfl, resumptions ⟨register.toNat, inRange⟩ key⟩
          · simp only [resume, inRange, dif_neg, not_false_eq_true]
            exact ⟨rfl, rfl, start⟩
  | none =>
      have running : second.state.waiting = none :=
        waitings.symm.trans waiting
      cases decoded : Instruction.decode? first.state.fetch with
      | none =>
          have undecodable : Instruction.decode? second.state.fetch = none :=
            opcodes ▸ decoded
          rw [cycle_of_undecodable waiting decoded,
            cycle_of_undecodable running undecodable, opcodes, counters]
          exact ⟨rfl, rfl, start⟩
      | some instruction =>
          have upcoming := upcoming?_eq_some_iff.mpr ⟨waiting, decoded⟩
          have upcoming' : second.upcoming? = some instruction :=
            upcoming?_eq_some_iff.mpr ⟨running, opcodes ▸ decoded⟩
          rw [cycle_of_upcoming upcoming, cycle_of_upcoming upcoming']
          exact executions instruction upcoming

/--
Machines in the same state do the same in a cycle if both take the same key
and execute the same, whatever else differs.
-/
theorem cycle_congr
    (states : first.state = second.state)
    (keys :
      first.state.waiting ≠ none →
        first.keypad.lowest? = second.keypad.lowest?)
    (executions :
      ∀ instruction, first.upcoming? = some instruction →
        instruction.execute first.surroundings first.state =
          instruction.execute second.surroundings first.state) :
    first.cycle.Agree (fun first second => first.state = second.state)
      second.cycle := by
  apply agree_cycle
  · rw [states]
  · rw [states]
  · rw [states]
  · exact keys
  · exact states
  · intro target key
    simp only [resumed, states]
  · intro instruction upcoming
    exact execute_congr states (executions instruction upcoming)

/-- Operations other than cycles treat machines in the same state alike. -/
theorem perform_congr
    {operation : Operation}
    (states : first.state = second.state)
    (noCycle : operation ≠ .cycle) :
    (first.perform operation).Agree
      (fun first second => first.state = second.state)
      (second.perform operation) := by
  cases operation with
  | cycle => exact (noCycle rfl).elim
  | countDown => exact ⟨rfl, rfl, congrArg State.countDown states⟩
  | load program =>
      simp only [perform, load, states]
      cases second.state.load program with
      | error refusal => exact ⟨rfl, rfl, states⟩
      | ok state => exact ⟨rfl, rfl, rfl⟩
  | loadFile path contents =>
      cases contents with
      | none => exact ⟨rfl, rfl, states⟩
      | some program =>
          simp only [perform, loadFile, load, states]
          cases second.state.load program with
          | error refusal => exact ⟨rfl, rfl, states⟩
          | ok state => exact ⟨rfl, rfl, rfl⟩
  | reset => exact ⟨rfl, rfl, rfl⟩
  | _ => exact ⟨rfl, rfl, states⟩

/-- Only cycles touch more than the state and the keypad. -/
theorem perform_of_noCycle
    {operation : Operation}
    (noCycle : operation ≠ .cycle)
    (machine : Machine) :
    ∃ state,
      (machine.perform operation).machine =
        { machine with
          state := state
          keypad := operation.onKeypad machine.keypad } := by
  cases operation with
  | cycle => exact (noCycle rfl).elim
  | load program =>
      rcases machine.load_machine program with ⟨memory, loaded⟩
      exact ⟨_, loaded⟩
  | loadFile path contents =>
      rcases machine.loadFile_machine path contents with ⟨memory, loaded⟩
      exact ⟨_, loaded⟩
  | _ => exact ⟨_, rfl⟩

/--
Machines in the same state stay related through any operation but a cycle if
the relation allows every state that they may share afterwards.
-/
theorem agree_perform_of_noCycle
    {related : Machine → Machine → Prop} {operation : Operation}
    (states : first.state = second.state)
    (noCycle : operation ≠ .cycle)
    (closed :
      ∀ state,
        related
          { first with
            state := state
            keypad := operation.onKeypad first.keypad }
          { second with
            state := state
            keypad := operation.onKeypad second.keypad }) :
    (first.perform operation).Agree related (second.perform operation) := by
  have agree := perform_congr states noCycle
  have statesAfter := agree.machine
  rcases first.perform_of_noCycle noCycle with ⟨state, after⟩
  rcases second.perform_of_noCycle noCycle with ⟨state', after'⟩
  rw [after, after'] at statesAfter
  cases statesAfter
  refine ⟨agree.result, agree.events, ?_⟩
  rw [after, after']
  exact closed state

end Machine

/-! ## Couplings -/

/--
A relation of machines that every operation keeps, with the same answers and
reports, unless it is a cycle that parts the two.
-/
structure Coupling where
  Related : Machine → Machine → Prop
  /-- Whether the next cycle may tell two related machines apart. -/
  Parts : Machine → Machine → Prop
  cycle {first second : Machine} :
    Related first second → ¬ Parts first second →
      first.cycle.Agree Related second.cycle
  perform {first second : Machine} (operation : Operation) :
    Related first second → operation ≠ .cycle →
      (first.perform operation).Agree Related (second.perform operation)
  picture {first second : Machine} :
    Related first second → first.picture = second.picture

namespace Coupling

variable {coupling : Coupling} {first second : Machine}

/-! ## Runs of machines -/

/-- Whether no cycle of a run parts the two machines that perform it. -/
def Together
    (coupling : Coupling) (first second : Machine)
    (operations : List Operation) : Prop :=
  ∀ steps ∈ (first.trace operations).zip (second.trace operations),
    steps.1.operation = .cycle →
      ¬ coupling.Parts steps.1.before steps.2.before

theorem together_cons {operation : Operation} {rest : List Operation} :
    coupling.Together first second (operation :: rest) ↔
      (operation = .cycle → ¬ coupling.Parts first second) ∧
        coupling.Together (first.perform operation).machine
          (second.perform operation).machine rest :=
  List.forall_mem_cons

/-- Machines stay together through two runs in a row if they do through each. -/
theorem together_append {earlier later : List Operation} :
    coupling.Together first second (earlier ++ later) ↔
      coupling.Together first second earlier ∧
        coupling.Together (first.after earlier) (second.after earlier)
          later := by
  induction earlier generalizing first second with
  | nil => simp [Together]
  | cons operation rest ih =>
      rw [List.cons_append, together_cons, together_cons, ih, and_assoc]
      rfl

/-- Machines that stay together through an operation do the same in it. -/
theorem agree_perform
    {operation : Operation}
    (related : coupling.Related first second)
    (together : operation = .cycle → ¬ coupling.Parts first second) :
    (first.perform operation).Agree coupling.Related
      (second.perform operation) := by
  by_cases isCycle : operation = .cycle
  · subst isCycle
    exact (coupling.cycle related (together rfl)).map Failure.fault Answer.status
  · exact coupling.perform operation related isCycle

/-- A run that parts nowhere leaves related machines. -/
theorem after
    (coupling : Coupling) {operations : List Operation}
    (related : coupling.Related first second)
    (together : coupling.Together first second operations) :
    coupling.Related (first.after operations) (second.after operations) := by
  induction operations generalizing first second with
  | nil => exact related
  | cons operation rest ih =>
      rcases together_cons.mp together with ⟨here, later⟩
      exact ih (agree_perform related here).machine later

/-! ## Ticks -/

/--
A burst whose cycles part nowhere is the same burst on both machines.  Only
after a cycle that runs on there is more of the burst to compare.
-/
theorem burst
    {cycles : Nat}
    (related : coupling.Related first second)
    (together :
      coupling.Together first second
        (List.replicate (first.burstLength cycles) .cycle)) :
    (first.burst cycles).result = (second.burst cycles).result ∧
      (first.burst cycles).events = (second.burst cycles).events ∧
      coupling.Related (first.burst cycles).machine
        (second.burst cycles).machine ∧
      second.burstLength cycles = first.burstLength cycles := by
  induction cycles generalizing first second with
  | zero => exact ⟨rfl, rfl, related, rfl⟩
  | succ cycles ih =>
      simp only [Machine.burst_succ, Machine.burstLength] at together ⊢
      rcases result : first.cycle.result with fault | _ | register
      · simp only [result] at together
        have agree := coupling.cycle related ((together_cons.mp together).1 rfl)
        rw [← agree.result, result]
        exact ⟨rfl, agree.events, agree.machine, rfl⟩
      · simp only [result, List.replicate_succ] at together
        rcases together_cons.mp together with ⟨here, later⟩
        have agree := coupling.cycle related (here rfl)
        rcases ih agree.machine later with ⟨results, events, machines, length⟩
        rw [← agree.result, result]
        refine ⟨results, ?_, machines, by rw [length]⟩
        simp only [Burst.preceded, agree.events, events]
      · simp only [result] at together
        have agree := coupling.cycle related ((together_cons.mp together).1 rfl)
        rw [← agree.result, result]
        exact ⟨rfl, agree.events, agree.machine, rfl⟩

/-- A tick whose cycles part nowhere is the same tick on both machines. -/
theorem tick
    {pacer : Pacer}
    (related : coupling.Related first second)
    (together : coupling.Together first second (pacer.operations first)) :
    (pacer.tick first).Agree coupling.Related (pacer.tick second) ∧
      pacer.operations second = pacer.operations first := by
  rcases burst related (together_append.mp together).1 with
    ⟨results, events, machines, length⟩
  constructor
  · cases result : (first.burst pacer.speed.toNat).result with
    | error fault =>
        rw [Pacer.tick_of_burst_error result,
          Pacer.tick_of_burst_error (results.symm.trans result)]
        exact ⟨rfl, rfl, machines, rfl, events⟩
    | ok answer =>
        have counted :
            coupling.Related (first.burst pacer.speed.toNat).machine.countDown
              (second.burst pacer.speed.toNat).machine.countDown :=
          (coupling.perform .countDown machines nofun).machine
        rw [Pacer.tick_of_burst_ok result,
          Pacer.tick_of_burst_ok (results.symm.trans result)]
        exact ⟨rfl, rfl, counted, coupling.picture counted, events⟩
  · rw [Pacer.operations, Pacer.operations, length, results]

/-- A poll whose cycles part nowhere is the same poll on both machines. -/
theorem poll
    {pacer : Pacer} {now : Instant}
    (related : coupling.Related first second)
    (together :
      pacer.isDue now = true →
        coupling.Together first second (pacer.operations first)) :
    (pacer.poll first now).Agree coupling.Related (pacer.poll second now) := by
  cases due : pacer.isDue now with
  | false =>
      rw [Pacer.poll_of_not_isDue due, Pacer.poll_of_not_isDue due]
      exact ⟨rfl, rfl, related, rfl, rfl⟩
  | true =>
      have agree := (tick related (together due)).1
      rw [Pacer.poll_of_isDue due, Pacer.poll_of_isDue due]
      exact
        ⟨by rw [agree.result], by rw [agree.pacer], agree.machine,
          agree.requests, agree.events⟩

/-! ## Sessions -/

theorem ofTick
    {answer : Type} {tick other : Tick answer} {reply : answer → Reply}
    (agree : tick.Agree coupling.Related other) :
    (Session.ofTick reply tick).Agree coupling.Related
      (Session.ofTick reply other) where
  result := by simp only [Session.ofTick, agree.result]
  pacer := congrArg some agree.pacer
  machine := agree.machine
  requests := agree.requests
  events := agree.events

variable {session other : Session}

/-- An action whose cycles part nowhere does the same to both sessions. -/
theorem act
    {action : Action}
    (pacers : session.pacer = other.pacer)
    (related : coupling.Related session.machine other.machine)
    (together :
      coupling.Together session.machine other.machine
        (session.operations action)) :
    (session.act action).Agree coupling.Related (other.act action) ∧
      other.operations action = session.operations action := by
  rcases session with ⟨machine, pacer⟩
  rcases other with ⟨otherMachine, _⟩
  cases pacers
  cases action with
  | operate operation =>
      have agree := agree_perform related (together_cons.mp together).1
      refine ⟨⟨?_, rfl, agree.machine, rfl, agree.events⟩, rfl⟩
      simp only [Session.act, Session.ofOutcome, agree.result]
  | pace speed =>
      simp only [Session.act]
      cases Pacer.ofSpeed speed with
      | ok started => exact ⟨⟨rfl, rfl, related, rfl, rfl⟩, rfl⟩
      | error refusal => exact ⟨⟨rfl, rfl, related, rfl, rfl⟩, rfl⟩
  | tick =>
      cases pacer with
      | none => exact ⟨⟨rfl, rfl, related, rfl, rfl⟩, rfl⟩
      | some pacer =>
          rcases tick related together with ⟨agree, same⟩
          exact ⟨ofTick agree, same⟩
  | poll now =>
      cases pacer with
      | none => exact ⟨⟨rfl, rfl, related, rfl, rfl⟩, rfl⟩
      | some pacer =>
          cases due : pacer.isDue now with
          | false =>
              refine ⟨ofTick (poll related (by simp [due])), ?_⟩
              simp only [Session.operations, due, Bool.false_eq_true, if_false]
          | true =>
              simp only [Session.operations, due, if_true] at together ⊢
              exact
                ⟨ofTick (poll related fun _ => together),
                  (tick related together).2⟩

/--
Two sessions with the same pacer and related machines perform the same
operations and respond the same to all actions whose cycles part their
machines nowhere.
-/
theorem run
    (coupling : Coupling) {actions : List Action}
    (pacers : session.pacer = other.pacer)
    (related : coupling.Related session.machine other.machine)
    (together :
      coupling.Together session.machine other.machine
        (session.history actions)) :
    other.history actions = session.history actions ∧
      List.Forall₂ (Response.Agree coupling.Related)
        (session.responses actions) (other.responses actions) := by
  induction actions generalizing session other with
  | nil => exact ⟨rfl, .nil⟩
  | cons action rest ih =>
      rw [Session.history] at together
      rcases together_append.mp together with ⟨here, later⟩
      rcases act pacers related here with ⟨agree, same⟩
      rw [← session.act_machine, ← same, ← other.act_machine] at later
      rcases ih agree.pacer agree.machine later with ⟨histories, responses⟩
      refine ⟨?_, .cons agree responses⟩
      rw [Session.history, Session.history, same, histories]

end Coupling

end ChipEight
