import ChipEight.Proofs.Tick
import Mathlib.Data.List.Chain
import Mathlib.Data.List.Induction

/-!
# When polls attempt ticks

A poll attempts a tick unless it answers that none was due.  The instants of
the attempts so far, failed ones included, decide about the next poll: it
attempts a tick exactly if the last of them is at least a tick duration
back.  `Session.polls_are_paced` draws the consequences for every session on
one pacer, whatever the clock reads.
-/

namespace ChipEight

theorem tickDuration_pos : 0 < tickDuration := by
  decide

/-- Whether an instant is a tick duration or more after an earlier one. -/
def Spaced (earlier later : Int) : Prop :=
  earlier < later ∧ earlier + tickDuration ≤ later

theorem spaced_of_le
    {earlier later : Int}
    (distance : earlier + tickDuration ≤ later) :
    Spaced earlier later := by
  have positive := tickDuration_pos
  exact ⟨by omega, distance⟩

theorem Spaced.trans
    {first second third : Int}
    (earlier : Spaced first second)
    (later : Spaced second third) :
    Spaced first third := by
  apply spaced_of_le
  exact earlier.2.trans later.1.le

instance : Trans Spaced Spaced Spaced where
  trans := Spaced.trans

namespace Pacer

variable {pacer : Pacer} {now : Instant}

/-- The time since a later instant counts as zero, which is never enough. -/
theorem tickDuration_le_elapsed_iff (last now : Int) :
    tickDuration ≤ elapsed last now ↔ last + tickDuration ≤ now := by
  have positive := tickDuration_pos
  have difference : elapsed last now = (now - last).toNat := rfl
  rw [difference]
  omega

/-- A pacer is due if it has attempted nothing yet, or long enough ago. -/
theorem isDue_eq_true_iff :
    pacer.isDue now = true ↔
      ∀ last ∈ pacer.lastAttempt, last + tickDuration ≤ now := by
  cases attempt : pacer.lastAttempt with
  | none => simp [isDue, attempt]
  | some last =>
      simp only [isDue, attempt, decide_eq_true_eq, Option.mem_some_iff,
        forall_eq']
      exact tickDuration_le_elapsed_iff last now

/-- A tick alone is no attempt: only polls remember their instants. -/
theorem lastAttempt_tick (pacer : Pacer) (machine : Machine) :
    (pacer.tick machine).pacer.lastAttempt = pacer.lastAttempt :=
  congrArg (fun tick => tick.pacer.lastAttempt)
    (pacer.tick_of_lastAttempt machine pacer.lastAttempt)

end Pacer

namespace Session

variable {session : Session} {pacer : Pacer} {now : Instant}

/-! ## Attempts -/

/-- The instant of a poll that does anything but answer that no tick was due. -/
def attempt? (session : Session) : Action → Option Instant
  | .poll now =>
      match (session.act (.poll now)).result with
      | .ok (.fired false) | .error .unpaced => none
      | _ => some now
  | _ => none

/-- The instants of the polls among some actions that attempt a tick, in order. -/
def attempts (session : Session) : List Action → List Instant
  | [] => []
  | action :: rest =>
      (session.attempt? action).toList ++
        (session.act action).session.attempts rest

theorem attempts_concat
    (session : Session) (actions : List Action) (action : Action) :
    session.attempts (actions ++ [action]) =
      session.attempts actions ++
        ((session.after actions).attempt? action).toList := by
  induction actions generalizing session with
  | nil => simp [attempts]
  | cons first rest ih =>
      rw [List.cons_append, attempts, ih, attempts, after_cons,
        List.append_assoc]

theorem eq_of_attempt?_eq_some
    {action : Action} {instant : Instant}
    (attempted : session.attempt? action = some instant) :
    action = .poll instant := by
  cases action with
  | poll now =>
      rw [attempt?] at attempted
      split at attempted <;> simp_all
  | _ => cases attempted

theorem act_tick (paced : session.pacer = some pacer) :
    session.act .tick =
      ofTick (fun () => .answer .done) (pacer.tick session.machine) := by
  rw [act, paced]

theorem act_poll_of_not_isDue
    (paced : session.pacer = some pacer)
    (early : pacer.isDue now = false) :
    session.act (.poll now) = ⟨.ok (.fired false), session, [], []⟩ := by
  rcases session with ⟨machine, _⟩
  cases paced
  simp only [act, Pacer.poll_of_not_isDue early]
  rfl

/-- A poll that is due does what a direct tick does and moves the deadline. -/
theorem act_poll_of_isDue
    (paced : session.pacer = some pacer)
    (due : pacer.isDue now = true) :
    session.act (.poll now) =
      { result := (session.act .tick).result.map fun _ => .fired true
        session :=
          ⟨(session.act .tick).session.machine,
            some
              { (pacer.tick session.machine).pacer with
                lastAttempt := some now }⟩
        requests := (session.act .tick).requests
        events := (session.act .tick).events } := by
  simp only [act, paced, Pacer.poll_of_isDue due, ofTick]
  cases (pacer.tick session.machine).result <;> rfl

/-- A poll makes an attempt at its instant exactly if it is due. -/
theorem attempt?_poll
    (paced : session.pacer = some pacer) (now : Instant) :
    session.attempt? (.poll now) =
      if pacer.isDue now then some now else none := by
  rw [attempt?]
  cases due : pacer.isDue now with
  | false =>
      rw [act_poll_of_not_isDue paced due]
      rfl
  | true =>
      rw [act_poll_of_isDue paced due]
      simp only [act, paced, ofTick]
      cases (pacer.tick session.machine).result <;> rfl

theorem attempt?_poll_eq_some_iff (paced : session.pacer = some pacer) :
    session.attempt? (.poll now) = some now ↔ pacer.isDue now = true := by
  rw [attempt?_poll paced]
  cases pacer.isDue now <;> simp

theorem attempt?_poll_eq_none_iff (paced : session.pacer = some pacer) :
    session.attempt? (.poll now) = none ↔ pacer.isDue now = false := by
  rw [attempt?_poll paced]
  cases pacer.isDue now <;> simp

/-- Only an attempt moves the deadline, and it moves it to its instant. -/
theorem lastAttempt_act
    {action : Action}
    (paced : session.pacer = some pacer)
    (keeps : action.KeepsPacer) :
    ∃ later,
      (session.act action).session.pacer = some later ∧
        later.lastAttempt =
          (session.attempt? action).or pacer.lastAttempt := by
  cases action with
  | operate operation => exact ⟨pacer, paced, rfl⟩
  | pace speed => exact keeps.elim
  | tick =>
      simp only [act, paced]
      exact ⟨_, rfl, pacer.lastAttempt_tick session.machine⟩
  | poll now =>
      rw [attempt?_poll paced]
      cases due : pacer.isDue now with
      | false =>
          rw [act_poll_of_not_isDue paced due]
          exact ⟨pacer, paced, rfl⟩
      | true =>
          rw [act_poll_of_isDue paced due]
          exact ⟨_, rfl, rfl⟩

/-- The deadline of a session counts from the last of its attempts. -/
theorem lastAttempt_after
    {actions : List Action}
    (paced : session.pacer = some pacer)
    (keeps : ∀ action ∈ actions, action.KeepsPacer) :
    ∃ late,
      (session.after actions).pacer = some late ∧
        late.lastAttempt =
          (session.attempts actions).getLast?.or pacer.lastAttempt := by
  induction actions using List.reverseRecOn with
  | nil => exact ⟨pacer, paced, rfl⟩
  | append_singleton actions action ih =>
      rcases List.forall_mem_append.mp keeps with ⟨before, last⟩
      rcases ih before with ⟨middle, stays, deadline⟩
      rcases lastAttempt_act stays (List.forall_mem_singleton.mp last) with
        ⟨late, ends, moved⟩
      refine ⟨late, by rw [after_concat]; exact ends, ?_⟩
      rw [moved, deadline, attempts_concat, List.getLast?_append,
        ← Option.or_assoc]
      cases (session.after actions).attempt? action <;> rfl

/--
Attempts follow each other at a distance of a tick duration or more, since
only a poll that is due makes one.
-/
theorem pairwise_attempts
    {actions : List Action}
    (paced : session.pacer = some pacer)
    (fresh : pacer.lastAttempt = none)
    (keeps : ∀ action ∈ actions, action.KeepsPacer) :
    (session.attempts actions).Pairwise Spaced := by
  apply List.IsChain.pairwise
  induction actions using List.reverseRecOn with
  | nil => exact List.isChain_nil
  | append_singleton actions action ih =>
      rcases List.forall_mem_append.mp keeps with ⟨before, _⟩
      rcases lastAttempt_after paced before with ⟨late, stays, deadline⟩
      rw [fresh, Option.or_none] at deadline
      rw [attempts_concat]
      cases attempted : (session.after actions).attempt? action with
      | none =>
          rw [Option.toList_none, List.append_nil]
          exact ih before
      | some instant =>
          have poll := eq_of_attempt?_eq_some attempted
          rw [poll] at attempted
          have due := (attempt?_poll_eq_some_iff stays).mp attempted
          apply (ih before).append (List.isChain_singleton instant)
          intro last isLast next isNext
          cases isNext
          rw [← deadline] at isLast
          exact spaced_of_le (Pacer.isDue_eq_true_iff.mp due last isLast)

/--
In a session on one new pacer, a poll attempts a tick exactly if there was
no attempt yet or the last one is at least a tick duration back, failed
attempts included and direct ticks not.  A poll that attempts none changes
nothing; one that does is a single direct tick, after which nothing is due
for a tick duration.  The attempts therefore keep their distance, even if
the clock goes back.
-/
theorem polls_are_paced
    {speed : UInt32} {pacer : Pacer} {actions : List Action}
    (created : Pacer.ofSpeed speed = .ok pacer)
    (keeps : ∀ action ∈ actions, action.KeepsPacer)
    (machine : Machine) :
    let start : Session := ⟨machine, some pacer⟩
    let session := start.after actions
    let attempts := start.attempts actions
    (∀ now,
        session.attempt? (.poll now) = some now ↔
          ∀ last ∈ attempts.getLast?, last + tickDuration ≤ now) ∧
      (∀ now,
        session.attempt? (.poll now) = none →
          session.act (.poll now) = ⟨.ok (.fired false), session, [], []⟩) ∧
      (∀ now,
        session.attempt? (.poll now) = some now →
          let direct := session.act .tick
          ∃ ticked,
            direct.session.pacer = some ticked ∧
              session.act (.poll now) =
                { result := direct.result.map fun _ => .fired true
                  session :=
                    ⟨direct.session.machine,
                      some { ticked with lastAttempt := some now }⟩
                  requests := direct.requests
                  events := direct.events } ∧
              ∀ later < now + tickDuration,
                (session.act (.poll now)).session.attempt? (.poll later) =
                  none) ∧
      attempts.Pairwise fun earlier later : Instant =>
        earlier < later ∧ earlier + tickDuration ≤ later := by
  intro start session attempts
  have fresh := (Pacer.ofSpeed_eq_ok created).2.2
  have new : start.pacer = some pacer := rfl
  rcases lastAttempt_after new keeps with ⟨late, paced, deadline⟩
  rw [fresh, Option.or_none] at deadline
  refine ⟨?_, ?_, ?_, ?_⟩
  · intro now
    rw [attempt?_poll_eq_some_iff paced, ← deadline]
    exact Pacer.isDue_eq_true_iff
  · intro now none
    exact act_poll_of_not_isDue paced
      ((attempt?_poll_eq_none_iff paced).mp none)
  · intro now attempted direct
    have due := (attempt?_poll_eq_some_iff paced).mp attempted
    have ticked : direct.session.pacer =
        some (late.tick session.machine).pacer := by
      have tick := act_tick paced
      exact congrArg (fun response => response.session.pacer) tick
    have polled := act_poll_of_isDue paced due
    refine ⟨_, ticked, polled, ?_⟩
    intro later early
    have next : (session.act (.poll now)).session.pacer =
        some { (late.tick session.machine).pacer with
          lastAttempt := some now } :=
      congrArg (fun response => response.session.pacer) polled
    rw [attempt?_poll_eq_none_iff next, Bool.eq_false_iff, Ne,
      Pacer.isDue_eq_true_iff]
    intro distance
    exact Int.not_le.mpr early (distance now rfl)
  · exact pairwise_attempts new fresh keeps

/-- A pacer of the lowest speed that has not been used. -/
def slowestPacer : Pacer :=
  ⟨1, by decide, none, 0⟩

/-- Polls on a clock that also goes back, with a direct tick and a reset. -/
def unsteadyActions : List Action :=
  [.poll 0, .tick, .poll 5, .poll (-40), .poll 16666665, .poll 16666666,
    .operate .reset, .poll 16666667]

/--
On a machine without a program every tick fails; the failed attempt at
16666666 still keeps off the next one for a tick duration.
-/
theorem polls_are_paced_on_unsteady_clock :
    let start : Session :=
      ⟨.create .standard (.cycling #[]), some slowestPacer⟩
    Pacer.ofSpeed 1 = .ok slowestPacer ∧
      (∀ action ∈ unsteadyActions, action.KeepsPacer) ∧
      start.attempts unsteadyActions = [0, 16666666] ∧
      (start.after unsteadyActions).attempt? (.poll 33333332) =
        some 33333332 ∧
      (start.after unsteadyActions).attempt? (.poll 33333331) ≠
        some 33333331 := by
  intro start
  have created : Pacer.ofSpeed 1 = .ok slowestPacer := rfl
  have keeps : ∀ action ∈ unsteadyActions, action.KeepsPacer := by
    simp [unsteadyActions, Action.KeepsPacer]
  have attempts : start.attempts unsteadyActions = [0, 16666666] := by
    decide +kernel
  have paced := (polls_are_paced created keeps start.machine).1
  rw [show (⟨start.machine, some slowestPacer⟩ : Session) = start from rfl,
    attempts] at paced
  refine ⟨created, keeps, attempts, ?_, ?_⟩
  · apply (paced 33333332).mpr
    rintro last ⟨⟩
    decide
  · intro attempted
    have distance := (paced 33333331).mp attempted 16666666 rfl
    revert distance
    decide

end Session

end ChipEight
