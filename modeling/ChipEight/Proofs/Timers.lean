import ChipEight.Proofs.Tick
import Mathlib.Data.List.DropRight

/-!
# Timers between writes

A timer is set by the one instruction that writes it and by a reset, and it
moves only when it is counted down, once for each direct count and once at
the end of each tick that succeeds.  Its value is therefore the value last
written less the counts since then.  A tick that sets the sound timer counts
it down already, so a value of `w` sounds for `w - 1` ticks.  Both are
`timers_count_down_from_last_write`.
-/

namespace ChipEight

/-! ## What a step does to a timer -/

/-- One of the two timers. -/
inductive Timer
  | delay
  | sound
  deriving DecidableEq

/-- The value of a timer. -/
def State.timer (state : State) : Timer → UInt8
  | .delay => state.delay
  | .sound => state.sound

/-- The low byte of the words that write a timer: `Fx15` and `Fx18`. -/
def Timer.lowByte : Timer → Nat
  | .delay => 0x15
  | .sound => 0x18

/-- The register whose value a word writes to a timer, if it does. -/
def Timer.source? (timer : Timer) (word : UInt16) : Option Register :=
  if word.toNat / 4096 = 0xF ∧ word.toNat % 256 = timer.lowByte then
    some (Opcode.x word)
  else none

namespace Step

/-- The value that a step writes to a timer by its word, if it does. -/
def written? (step : Step) (timer : Timer) : Option UInt8 :=
  (step.word?.bind timer.source?).map step.before.state.register

/-- Whether a step counts the timers down. -/
def counts (step : Step) : Bool :=
  decide (step.operation = .countDown)

theorem counts_of_written
    {step : Step} {timer : Timer} {value : UInt8}
    (written : step.written? timer = some value) :
    step.counts = false := by
  rcases step with ⟨machine, operation⟩
  cases operation with
  | countDown => cases written
  | _ => rfl

end Step

namespace Timer

/-- The instruction that writes a register to a timer. -/
def writer : Timer → Register → Instruction
  | .delay => .setDelay
  | .sound => .setSound

theorem number_writer (timer : Timer) (source : Register) :
    (timer.writer source).number =
      Instruction.xkWord 0xF source timer.lowByte := by
  cases timer <;> rfl

/-- Words decode to a timer's instruction exactly if they write the timer. -/
theorem decode?_eq_writer_iff
    {timer : Timer} {word : UInt16} {source : Register} :
    Instruction.decode? word = some (timer.writer source) ↔
      timer.source? word = some source := by
  have bound := source.isLt
  have low : timer.lowByte < 256 := by cases timer <;> decide
  rw [Instruction.decode?_eq_some_iff_number, number_writer, source?]
  simp only [Instruction.xkWord, Option.ite_none_right_eq_some,
    Option.some.injEq, Opcode.x, Fin.ext_iff]
  omega

/-- The other instructions leave a timer alone. -/
theorem timer_stateAfter_of_ne
    {timer : Timer} {instruction : Instruction}
    (other : ∀ source, instruction ≠ timer.writer source)
    (surroundings : Surroundings) (state : State) :
    (instruction.stateAfter surroundings state).timer timer =
      state.timer timer := by
  cases timer with
  | delay =>
      show instruction.delayAfter state = state.delay
      cases instruction with
      | setDelay source => exact (other source rfl).elim
      | _ => rfl
  | sound =>
      show instruction.soundAfter state = state.sound
      cases instruction with
      | setSound source => exact (other source rfl).elim
      | _ => rfl

theorem timer_stateAfter
    {word : UInt16} {instruction : Instruction}
    (decoded : Instruction.decode? word = some instruction)
    (timer : Timer) (surroundings : Surroundings) (state : State) :
    (instruction.stateAfter surroundings state).timer timer =
      ((timer.source? word).map state.register).getD (state.timer timer) := by
  cases read : timer.source? word with
  | none =>
      refine timer_stateAfter_of_ne (fun source same => ?_) surroundings state
      rw [same, decode?_eq_writer_iff, read] at decoded
      cases decoded
  | some source =>
      rw [decode?_eq_writer_iff.mpr read] at decoded
      cases decoded
      cases timer <;> rfl

theorem source?_of_decode?_eq_none
    {word : UInt16}
    (undecodable : Instruction.decode? word = none) (timer : Timer) :
    timer.source? word = none := by
  rw [Option.eq_none_iff_forall_ne_some]
  intro source read
  rw [decode?_eq_writer_iff.mpr read] at undecodable
  cases undecodable

end Timer

/-- A cycle changes a timer exactly if it fetches a word that writes it. -/
theorem Machine.timer_cycle (machine : Machine) (timer : Timer) :
    machine.cycle.machine.state.timer timer =
      (Step.written? ⟨machine, .cycle⟩ timer).getD
        (machine.state.timer timer) := by
  have observed :=
    observe_cycle (fun state => state.timer timer) machine
      (fun _ _ => by cases timer <;> rfl) (by cases timer <;> rfl)
      fun _ => by cases timer <;> rfl
  rw [observed, upcoming?_eq_bind_word?, Step.written?, Step.word?]
  cases machine.word? with
  | none => rfl
  | some word =>
      simp only [Option.bind_some]
      cases decoded : Instruction.decode? word with
      | none =>
          rw [Timer.source?_of_decode?_eq_none decoded timer]
          rfl
      | some instruction =>
          exact Timer.timer_stateAfter decoded timer _ _

namespace Step

variable {step : Step}

theorem timer_after_of_reset
    (reset : step.operation = .reset) (timer : Timer) :
    step.after.state.timer timer = 0 := by
  rw [after, reset]
  cases timer <;> rfl

/-- Short of a reset a step writes a timer, counts it down or leaves it. -/
theorem toNat_timer_after
    (noReset : step.operation ≠ .reset) (timer : Timer) :
    (step.after.state.timer timer).toNat =
      match step.written? timer with
      | some value => value.toNat
      | none =>
          (step.before.state.timer timer).toNat -
            if step.counts then 1 else 0 := by
  rcases step with ⟨machine, operation⟩
  cases operation with
  | cycle =>
      refine (congrArg UInt8.toNat (machine.timer_cycle timer)).trans ?_
      cases written? ⟨machine, .cycle⟩ timer <;> rfl
  | countDown => cases timer <;> exact State.toNat_countedDown _
  | load program =>
      rcases machine.load_machine program with ⟨memory, loaded⟩
      rw [after, Machine.perform_load_machine, loaded]
      cases timer <;> rfl
  | loadFile path contents =>
      rcases machine.loadFile_machine path contents with ⟨memory, loaded⟩
      rw [after, Machine.perform_loadFile_machine, loaded]
      cases timer <;> rfl
  | reset => exact (noReset rfl).elim
  | _ => cases timer <;> rfl

end Step

/-! ## Runs -/

/-- The steps since the last reset. -/
def stepsSinceReset (steps : List Step) : List Step :=
  steps.rtakeWhile fun step => decide (step.operation ≠ .reset)

theorem stepsSinceReset_concat (steps : List Step) (step : Step) :
    stepsSinceReset (steps ++ [step]) =
      if step.operation = .reset then []
      else stepsSinceReset steps ++ [step] := by
  rw [stepsSinceReset, List.rtakeWhile_concat]
  by_cases reset : step.operation = .reset
  · rw [if_pos reset, if_neg (by simp [reset])]
  · rw [if_neg reset, if_pos (by simp [reset])]
    rfl

namespace Timer

/-- The value last written to a timer among some steps, if one was. -/
def lastWritten? (timer : Timer) (steps : List Step) : Option UInt8 :=
  (steps.filterMap fun step => step.written? timer).getLast?

/-- The number of counts among some steps, after the last write if any. -/
def countsSinceWrite (timer : Timer) (steps : List Step) : Nat :=
  (steps.rtakeWhile fun step => (step.written? timer).isNone).countP
    Step.counts

/-- What steps leave of a timer that starts with a value. -/
def remaining (timer : Timer) (start : UInt8) (steps : List Step) : Nat :=
  ((timer.lastWritten? steps).getD start).toNat -
    timer.countsSinceWrite steps

variable {timer : Timer} {start : UInt8} {steps : List Step}

@[simp]
theorem remaining_nil : timer.remaining start [] = start.toNat :=
  rfl

/-- The last step sets what remains, counts it down or leaves it. -/
theorem remaining_concat (steps : List Step) (step : Step) :
    timer.remaining start (steps ++ [step]) =
      match step.written? timer with
      | some value => value.toNat
      | none =>
          timer.remaining start steps - if step.counts then 1 else 0 := by
  unfold remaining lastWritten? countsSinceWrite
  rw [List.rtakeWhile_concat]
  cases written : step.written? timer with
  | some value => simp [written]
  | none =>
      have kept :
          (steps ++ [step]).filterMap (fun step => step.written? timer) =
            steps.filterMap fun step => step.written? timer := by
        simp [written]
      rw [kept, Option.isNone_none, if_pos rfl, List.countP_append,
        List.countP_singleton, Nat.sub_add_eq]

/-- Without a write all counts are taken from the value at the start. -/
theorem remaining_of_unwritten
    (unwritten : ∀ step ∈ steps, step.written? timer = none) :
    timer.remaining start steps =
      start.toNat - steps.countP Step.counts := by
  have none : steps.filterMap (fun step => step.written? timer) = [] :=
    List.filterMap_eq_nil_iff.mpr unwritten
  have all :
      steps.rtakeWhile (fun step => (step.written? timer).isNone) =
        steps := by
    rw [List.rtakeWhile_eq_self_iff]
    intro step member
    rw [unwritten step member]
    rfl
  rw [remaining, lastWritten?, countsSinceWrite, none, all]
  rfl

/-- After a write only the counts that follow it matter. -/
theorem remaining_append_cons
    {step : Step} {value : UInt8} {later : List Step}
    (written : step.written? timer = some value)
    (unwritten : ∀ other ∈ later, other.written? timer = none)
    (earlier : List Step) :
    timer.remaining start (earlier ++ step :: later) =
      value.toNat - later.countP Step.counts := by
  induction later using List.reverseRecOn with
  | nil => rw [remaining_concat, written]; rfl
  | append_singleton later last ih =>
      rcases List.forall_mem_append.mp unwritten with ⟨others, atEnd⟩
      rw [← List.cons_append, ← List.append_assoc, remaining_concat,
        atEnd last (List.mem_singleton_self last), ih others,
        List.countP_append, List.countP_singleton, Nat.sub_add_eq]

end Timer

namespace Machine

variable {machine : Machine} {operations : List Operation}

theorem map_operation_trace
    (machine : Machine) (operations : List Operation) :
    (machine.trace operations).map Step.operation = operations := by
  induction operations generalizing machine with
  | nil => rfl
  | cons operation rest ih => exact congrArg (operation :: ·) (ih _)

theorem countP_counts_trace
    (machine : Machine) (operations : List Operation) :
    (machine.trace operations).countP Step.counts =
      operations.count .countDown := by
  conv_rhs => rw [← machine.map_operation_trace operations]
  rw [List.count, List.countP_map]
  rfl

/-- A timer shows what the steps since the last reset leave of it. -/
theorem toNat_timer_after_run
    (machine : Machine) (operations : List Operation) (timer : Timer) :
    ((machine.after operations).state.timer timer).toNat =
      timer.remaining
        (if .reset ∈ operations then 0 else machine.state.timer timer)
        (stepsSinceReset (machine.trace operations)) := by
  induction operations using List.reverseRecOn with
  | nil => rfl
  | append_singleton operations operation ih =>
      let step : Step := ⟨machine.after operations, operation⟩
      rw [after_append, trace_concat, stepsSinceReset_concat]
      by_cases reset : step.operation = .reset
      · have member : .reset ∈ operations ++ [operation] :=
          List.mem_append_right _ (List.mem_singleton.mpr reset.symm)
        rw [if_pos member, if_pos reset, Timer.remaining_nil]
        exact congrArg UInt8.toNat (Step.timer_after_of_reset reset timer)
      · have same :
            .reset ∈ operations ++ [operation] ↔ .reset ∈ operations := by
          simp [Ne.symm (show operation ≠ .reset from reset)]
        rw [if_neg reset, Timer.remaining_concat]
        simp only [same]
        rw [← ih]
        exact Step.toNat_timer_after reset timer

/-- Without a reset all steps of a run matter, and the value before it. -/
theorem toNat_timer_after_of_noReset
    (noReset : .reset ∉ operations) (machine : Machine) (timer : Timer) :
    ((machine.after operations).state.timer timer).toNat =
      timer.remaining (machine.state.timer timer)
        (machine.trace operations) := by
  have all :
      stepsSinceReset (machine.trace operations) =
        machine.trace operations := by
    rw [stepsSinceReset, List.rtakeWhile_eq_self_iff]
    intro step member
    have performed := operation_mem_of_mem_trace member
    rw [decide_eq_true_eq]
    intro reset
    exact noReset (reset ▸ performed)
  rw [toNat_timer_after_run, if_neg noReset, all]

end Machine

/-! ## Counts and tones -/

namespace Request

/-- The tone that a request asks for, if it is one for a tone. -/
def tone? : Request → Option Bool
  | .tone on => some on
  | .show _ => none

/-- The tones among some requests. -/
def tones (requests : List Request) : List Bool :=
  requests.filterMap tone?

@[simp]
theorem tones_nil : tones [] = [] :=
  rfl

@[simp]
theorem tones_picture (machine : Machine) :
    tones machine.picture = [decide (0 < machine.state.sound.toNat)] :=
  rfl

@[simp]
theorem tones_append (first second : List Request) :
    tones (first ++ second) = tones first ++ tones second :=
  List.filterMap_append

/-- A tone before a row that is on for one count less extends the row. -/
theorem cons_eq_map_range {value : Nat} {tones : List Bool}
    (row :
      tones =
        (List.range tones.length).map fun index =>
          decide (index < value - 1)) :
    decide (0 < value) :: tones =
      (List.range (tones.length + 1)).map fun index =>
        decide (index < value) := by
  rw [List.range_succ_eq_map, List.map_cons, List.map_map]
  refine congrArg (_ :: ·) (row.trans (List.map_congr_left ?_))
  intro index _
  apply decide_eq_decide.mpr
  rw [Nat.succ_eq_add_one, Nat.lt_sub_iff_add_lt]

end Request

namespace Pacer

/-- A tick that succeeds performs the cycles of its burst and one count. -/
theorem operations_of_ok
    {pacer : Pacer} {machine : Machine}
    (succeeded : (pacer.tick machine).result = .ok ()) :
    ∃ cycles,
      pacer.operations machine =
          List.replicate cycles .cycle ++ [.countDown] ∧
        (pacer.tick machine).requests =
          (pacer.tick machine).machine.picture := by
  refine ⟨machine.burstLength pacer.speed.toNat, ?_⟩
  cases burst : (machine.burst pacer.speed.toNat).result with
  | error fault =>
      rw [tick_of_burst_error burst] at succeeded
      cases succeeded
  | ok answer =>
      rw [operations, burst, tick_of_burst_ok burst]
      exact ⟨rfl, rfl⟩

/-- A tick counts the timers down once if it shows its picture, else never. -/
theorem tick_counts (pacer : Pacer) (machine : Machine) :
    ((pacer.tick machine).requests = [] ∧
        (pacer.operations machine).count .countDown = 0) ∨
      ((pacer.tick machine).requests =
          (pacer.tick machine).machine.picture ∧
        (pacer.operations machine).count .countDown = 1) := by
  cases result : (pacer.tick machine).result with
  | error fault =>
      left
      cases burst : (machine.burst pacer.speed.toNat).result with
      | error fault =>
          rw [tick_of_burst_error burst, operations, burst]
          simp [List.count_replicate]
      | ok answer =>
          rw [tick_of_burst_ok burst] at result
          cases result
  | ok answer =>
      right
      rcases operations_of_ok result with ⟨cycles, performed, shown⟩
      rw [performed]
      exact ⟨shown, by simp [List.count_replicate]⟩

end Pacer

namespace Session

/-- Apart from direct counts, timers are counted down once for each picture. -/
theorem act_counts
    {action : Action}
    (indirect : action ≠ .operate .countDown) (session : Session) :
    ((session.act action).requests = [] ∧
        (session.operations action).count .countDown = 0) ∨
      ((session.act action).requests =
          (session.act action).session.machine.picture ∧
        (session.operations action).count .countDown = 1) := by
  cases action with
  | operate operation =>
      left
      refine ⟨rfl, List.count_eq_zero.mpr ?_⟩
      intro member
      exact indirect (by rw [List.mem_singleton.mp member])
  | pace speed =>
      left
      refine ⟨?_, rfl⟩
      rw [act]
      cases Pacer.ofSpeed speed <;> rfl
  | tick =>
      simp only [act, operations]
      cases session.pacer with
      | none => exact Or.inl ⟨rfl, rfl⟩
      | some pacer => exact pacer.tick_counts session.machine
  | poll now =>
      simp only [act, operations]
      cases session.pacer with
      | none => exact Or.inl ⟨rfl, rfl⟩
      | some pacer =>
          cases due : pacer.isDue now with
          | false =>
              simp only [Pacer.poll_of_not_isDue due, due]
              exact Or.inl ⟨rfl, rfl⟩
          | true =>
              simp only [Pacer.poll_of_isDue due, due, if_true]
              exact pacer.tick_counts session.machine

theorem no_reset_mem_operations
    {action : Action}
    (noReset : action ≠ .operate .reset) (session : Session) :
    .reset ∉ session.operations action := by
  intro member
  rcases eq_operate_or_eq_cycle_or_eq_countDown_of_mem_operations member with
    direct | isCycle | isCount
  · exact noReset direct
  · cases isCycle
  · cases isCount

/-- An action that does not write a timer takes its counts from it. -/
theorem toNat_timer_act_of_unwritten
    {session : Session} {action : Action} {timer : Timer}
    (noReset : action ≠ .operate .reset)
    (unwritten :
      ∀ step ∈ session.machine.trace (session.operations action),
        step.written? timer = none) :
    ((session.act action).session.machine.state.timer timer).toNat =
      (session.machine.state.timer timer).toNat -
        (session.operations action).count .countDown := by
  rw [act_machine,
    Machine.toNat_timer_after_of_noReset
      (session.no_reset_mem_operations noReset),
    Timer.remaining_of_unwritten unwritten, Machine.countP_counts_trace]

/-- The tones that some actions ask for. -/
def tones (session : Session) (actions : List Action) : List Bool :=
  Request.tones ((session.responses actions).flatMap Response.requests)

theorem tones_cons
    (session : Session) (action : Action) (rest : List Action) :
    session.tones (action :: rest) =
      Request.tones (session.act action).requests ++
        (session.act action).session.tones rest := by
  simp [tones, responses]

/--
While nothing sets the sound timer, each tone takes one count from it, so
that the tones stay on as long as the timer lasts.
-/
theorem tones_of_unwritten
    {session : Session} {actions : List Action}
    (unwritten :
      ∀ step ∈ session.machine.trace (session.history actions),
        step.written? .sound = none)
    (indirect :
      ∀ action ∈ actions,
        action ≠ .operate .reset ∧ action ≠ .operate .countDown) :
    session.tones actions =
      (List.range (session.tones actions).length).map fun index =>
        decide (index < session.machine.state.sound.toNat - 1) := by
  induction actions generalizing session with
  | nil => rfl
  | cons action rest ih =>
      rcases List.forall_mem_cons.mp indirect with
        ⟨⟨noReset, noCount⟩, others⟩
      rw [history, Machine.trace_append, ← act_machine] at unwritten
      rcases List.forall_mem_append.mp unwritten with ⟨here, later⟩
      have following := ih later others
      have sound :
          (session.act action).session.machine.state.sound.toNat =
            session.machine.state.sound.toNat -
              (session.operations action).count .countDown :=
        toNat_timer_act_of_unwritten noReset here
      rw [tones_cons]
      rcases act_counts noCount session with ⟨silent, still⟩ | ⟨shown, once⟩
      · rw [still, Nat.sub_zero] at sound
        rw [silent, Request.tones_nil, List.nil_append, ← sound]
        exact following
      · rw [once] at sound
        rw [sound] at following
        rw [shown, Request.tones_picture, sound, List.singleton_append,
          List.length_cons]
        exact Request.cons_eq_map_range following

end Session

/-! ## Ticks that set the sound timer -/

/-- After cycles and one count, the count comes later than any other step. -/
theorem Machine.countP_counts_of_cycles
    {machine : Machine} {cycles : Nat} {earlier later : List Step}
    {step : Step}
    (steps :
      machine.trace (List.replicate cycles .cycle ++ [.countDown]) =
        earlier ++ step :: later)
    (noCount : step.counts = false) :
    later.countP Step.counts = 1 := by
  have total : (earlier ++ step :: later).countP Step.counts = 1 := by
    rw [← steps, countP_counts_trace]
    simp [List.count_replicate]
  have positive : 0 < later.countP Step.counts := by
    have atEnd := congrArg List.getLast? steps
    rw [trace_concat, List.getLast?_concat,
      List.getLast?_append_of_ne_nil _ (List.cons_ne_nil step later)]
      at atEnd
    rcases List.mem_cons.mp (List.mem_of_getLast? atEnd.symm) with
      same | among
    · rw [← same] at noCount
      cases noCount
    · exact List.countP_pos_iff.mpr ⟨_, among, rfl⟩
  rw [List.countP_append, List.countP_cons_of_neg (by simp [noCount])] at total
  omega

/-- A tick that writes the sound timer already takes its own count from it. -/
theorem Pacer.sound_tick_of_written
    {pacer : Pacer} {machine : Machine} {earlier later : List Step}
    {step : Step} {value : UInt8}
    (succeeded : (pacer.tick machine).result = .ok ())
    (steps :
      machine.trace (pacer.operations machine) = earlier ++ step :: later)
    (written : step.written? .sound = some value)
    (unwritten : ∀ other ∈ later, other.written? .sound = none) :
    (pacer.tick machine).machine.state.sound.toNat = value.toNat - 1 := by
  rcases operations_of_ok succeeded with ⟨cycles, performed, _⟩
  have noReset : .reset ∉ pacer.operations machine := by
    rw [performed]
    simp
  have single : later.countP Step.counts = 1 := by
    rw [performed] at steps
    exact Machine.countP_counts_of_cycles steps
      (Step.counts_of_written written)
  rw [tick_machine, ← single,
    ← Timer.remaining_append_cons written unwritten earlier, ← steps]
  exact Machine.toNat_timer_after_of_noReset noReset machine .sound

/--
In every session each timer shows the value that its instruction last wrote
since construction or the last reset, zero if there was none, less the
counts since then; an action counts once if it is a direct count, and once
for each tone that it asks for.  A tick that last writes `w` to the sound
timer and succeeds therefore starts a row of `w - 1` tones that are on,
followed by tones that are off, as long as the timer is neither reset nor
written again nor counted down directly.
-/
theorem timers_count_down_from_last_write :
    (∀ config random actions timer,
      let start := Session.create config random
      let machine := (start.after actions).machine
      let trace := start.machine.trace (start.history actions)
      let steps := stepsSinceReset trace
      machine = start.machine.after (start.history actions) ∧
        (machine.state.timer timer).toNat =
          ((timer.lastWritten? steps).getD 0).toNat -
            timer.countsSinceWrite steps) ∧
      (∀ (session : Session) action,
        (session.operations action).count .countDown =
          (if action = .operate .countDown then 1 else 0) +
            (Request.tones (session.act action).requests).length) ∧
      ∀ (machine : Machine) (pacer : Pacer) (next : Option Pacer) actions
          earlier step later value,
        (pacer.tick machine).result = .ok () →
        machine.trace (pacer.operations machine) =
          earlier ++ step :: later →
        step.written? .sound = some value →
        (∀ other ∈ later, other.written? .sound = none) →
        let session : Session := ⟨(pacer.tick machine).machine, next⟩
        (∀ other ∈ session.machine.trace (session.history actions),
          other.written? .sound = none) →
        (∀ action ∈ actions,
          action ≠ .operate .reset ∧ action ≠ .operate .countDown) →
        let tones :=
          Request.tones (pacer.tick machine).requests ++
            session.tones actions
        tones =
          (List.range tones.length).map fun index =>
            decide (index < value.toNat - 1) := by
  refine ⟨?_, ?_, ?_⟩
  · intro config random actions timer start machine trace steps
    have run : machine = start.machine.after (start.history actions) :=
      start.after_machine actions
    have zero : start.machine.state.timer timer = 0 := by
      cases timer <;> rfl
    refine ⟨run, ?_⟩
    rw [run, Machine.toNat_timer_after_run, zero, ite_self]
    rfl
  · intro session action
    by_cases direct : action = .operate .countDown
    · rw [direct]
      rfl
    · rw [if_neg direct, Nat.zero_add]
      rcases session.act_counts direct with ⟨silent, still⟩ | ⟨shown, once⟩
      · rw [silent, still]
        rfl
      · rw [shown, once]
        rfl
  · intro machine pacer next actions earlier step later value succeeded
      steps written unwritten session quiet indirect tones
    have sound := Pacer.sound_tick_of_written succeeded steps written unwritten
    rcases Pacer.operations_of_ok succeeded with ⟨_, _, shown⟩
    have following := Session.tones_of_unwritten quiet indirect
    rw [sound] at following
    simp only [tones]
    rw [shown, Request.tones_picture, sound, List.singleton_append,
      List.length_cons]
    exact Request.cons_eq_map_range following

/-- A machine that sets the sound timer to three and then waits for a key. -/
def ringing : Machine :=
  ((Machine.create .standard (.cycling #[])).load
    #[0x60, 0x03, 0xF0, 0x18, 0xF1, 0x0A, 0x12, 0x06]).machine

/-- Actions that set both timers to three and count them down twice. -/
def threeTwiceCounted : List Action :=
  [.operate
      (.load
        #[0x60, 0x03, 0xF0, 0x15, 0xF0, 0x18, 0xF1, 0x0A, 0x12, 0x08]),
    .pace 5, .tick, .operate .countDown]

/--
Two of four ticks sound, the first of them the one that sets the timer.  A
delay timer set to three shows one after a tick and a direct count.
-/
theorem timers_count_down_from_three :
    let pacer : Pacer := ⟨5, by decide, none, 0⟩
    let session : Session :=
      ⟨(pacer.tick ringing).machine, some ⟨2, by decide, none, 7⟩⟩
    let actions : List Action :=
      [.poll 0, .operate (.press 0x5), .tick, .poll 20000000]
    let start := Session.create .standard (.cycling #[])
    let counted := (start.after threeTwiceCounted).machine
    let steps :=
      stepsSinceReset (start.machine.trace (start.history threeTwiceCounted))
    (pacer.tick ringing).result = .ok () ∧
      Step.written? ⟨ringing.cycled 1, .cycle⟩ .sound = some 3 ∧
      session.machine.status = .awaitingKey 1 ∧
      Request.tones (pacer.tick ringing).requests ++ session.tones actions =
        [true, true, false, false] ∧
      Timer.lastWritten? .delay steps = some 3 ∧
      Timer.countsSinceWrite .delay steps = 2 ∧
      (counted.state.timer .delay).toNat = 1 := by
  intro pacer session actions start counted steps
  have succeeded : (pacer.tick ringing).result = .ok () := by decide +kernel
  have performed :
      pacer.operations ringing = [.cycle, .cycle, .cycle, .countDown] := by
    decide +kernel
  have written :
      Step.written? ⟨ringing.cycled 1, .cycle⟩ .sound = some 3 := by
    decide +kernel
  have sounding :
      Request.tones (pacer.tick ringing).requests ++ session.tones actions =
        [true, true, false, false] := by
    have four :
        (Request.tones (pacer.tick ringing).requests ++
          session.tones actions).length = 4 := by
      decide +kernel
    have split :
        ringing.trace (pacer.operations ringing) =
          [⟨ringing, .cycle⟩] ++ ⟨ringing.cycled 1, .cycle⟩ ::
            [⟨ringing.cycled 2, .cycle⟩, ⟨ringing.cycled 3, .countDown⟩] := by
      rw [performed]
      rfl
    have tones :=
      timers_count_down_from_last_write.2.2 ringing pacer session.pacer actions
        _ _ _ 3 succeeded split written (by decide +kernel) (by decide +kernel)
        (by decide)
    refine tones.trans ?_
    show List.map _ (List.range (List.length (_ ++ session.tones actions))) = _
    rw [four]
    rfl
  have set :
      Timer.lastWritten? .delay steps = some 3 ∧
        Timer.countsSinceWrite .delay steps = 2 := by
    decide +kernel
  have left :=
    timers_count_down_from_last_write.1 .standard (.cycling #[])
      threeTwiceCounted .delay
  have isCounted : (start.after threeTwiceCounted).machine = counted := rfl
  have isSteps :
      stepsSinceReset
          (start.machine.trace (start.history threeTwiceCounted)) =
        steps :=
    rfl
  simp only [start] at isCounted isSteps
  simp only [isCounted, isSteps] at left
  have waits : session.machine.status = .awaitingKey 1 := by decide +kernel
  clear_value counted steps
  rw [set.1, set.2] at left
  exact ⟨succeeded, written, waits, sounding, set.1, set.2, left.2⟩

end ChipEight
