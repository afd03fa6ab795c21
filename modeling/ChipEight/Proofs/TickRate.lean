import ChipEight.Proofs.Pacing

/-!
# How many ticks fit into a second

Attempts of ticks keep a distance of `tickDuration`, which is a sixtieth of
a second rounded down to whole nanoseconds.  Sixty such distances are forty
nanoseconds short of a second, so that sixty-one attempts fit into one, but
never more (`Session.ticks_per_second_are_capped`).  A program that idles
under a host that polls at the full rate gets all of them
(`Session.sixty_one_ticks_in_one_second`).
-/

namespace ChipEight

/-! ## Counting instants that keep a distance -/

/-- The instants among some that fall within so many nanoseconds from a start on. -/
def during
    (instants : List Instant) (start : Int) (width : Nat) : List Instant :=
  instants.filter fun now : Int => decide (start ≤ now ∧ now < start + width)

/--
Between two bounds there is no room for many points that are far apart: each
point moves the lower bound for the others up by a distance.
-/
theorem length_mul_lt_of_apart
    {points : List Int} {distance lower upper : Int}
    (apart :
      points.Pairwise fun earlier later => earlier + distance ≤ later)
    (within : ∀ point ∈ points, lower ≤ point ∧ point < upper)
    (room : lower < upper + distance) :
    points.length * distance < upper - lower + distance := by
  induction points generalizing lower with
  | nil =>
      rw [List.length_nil, Int.natCast_zero, Int.zero_mul]
      omega
  | cons first rest ih =>
      rcases List.pairwise_cons.mp apart with ⟨distant, restApart⟩
      rcases List.forall_mem_cons.mp within with ⟨⟨above, below⟩, inside⟩
      have beyond :
          ∀ point ∈ rest, first + distance ≤ point ∧ point < upper :=
        fun point member => ⟨distant point member, (inside point member).2⟩
      have bound := ih restApart beyond (by omega)
      rw [List.length_cons, Int.natCast_succ, Int.add_mul, Int.one_mul]
      omega

/-- In a stretch of time there are few instants that are a distance apart. -/
theorem length_during_mul_lt
    {instants : List Instant} {distance : Nat}
    (positive : 0 < distance)
    (apart :
      instants.Pairwise fun earlier later : Int =>
        earlier + distance ≤ later)
    (start : Int) (width : Nat) :
    (during instants start width).length * distance < width + distance := by
  have within :
      ∀ now : Int,
        now ∈ during instants start width →
          start ≤ now ∧ now < start + width := by
    intro now member
    exact of_decide_eq_true (List.mem_filter.mp member).2
  have room : start < start + (width : Int) + distance := by omega
  have bound := length_mul_lt_of_apart (apart.filter _) within room
  rw [← Int.natCast_mul] at bound
  rw [during]
  omega

/-! ## Programs that idle -/

namespace Machine

variable {machine : Machine}

/-- Whether the next instruction is a jump to itself. -/
def Idles (machine : Machine) : Prop :=
  ∃ target,
    machine.upcoming? = some (.jump target) ∧
      machine.state.counter = UInt16.ofNat target.val

theorem cycle_of_idles (idles : machine.Idles) :
    machine.cycle.result = .ok .running ∧
      machine.cycle.machine = machine := by
  rcases idles with ⟨target, upcoming, here⟩
  have running := (upcoming?_eq_some_iff.mp upcoming).1
  rw [cycle_of_upcoming upcoming]
  constructor
  · simp only [execute, Instruction.execute, status, commit, State.jumpTo,
      running]
  · simp only [execute, Instruction.execute, commit, State.jumpTo, ← here]
    rfl

theorem burst_of_idles (idles : machine.Idles) (cycles : Nat) :
    (machine.burst cycles).result = .ok () ∧
      (machine.burst cycles).machine = machine := by
  induction cycles with
  | zero => exact ⟨rfl, rfl⟩
  | succ cycles ih =>
      rw [burst_succ, (cycle_of_idles idles).1, (cycle_of_idles idles).2]
      exact ih

end Machine

/-- Polls at a distance of exactly a tick duration. -/
def steadyPolls (first : Int) : Nat → List Action
  | 0 => []
  | count + 1 => .poll first :: steadyPolls (first + tickDuration) count

theorem mem_steadyPolls
    {first : Int} {count : Nat} {action : Action}
    (member : action ∈ steadyPolls first count) :
    ∃ now : Int,
      action = .poll now ∧ first ≤ now ∧
        now + tickDuration ≤ first + count * tickDuration := by
  induction count generalizing first with
  | zero => cases member
  | succ count ih =>
      rw [Int.natCast_succ, Int.add_mul, Int.one_mul]
      rcases List.mem_cons.mp member with rfl | later
      · have others : 0 ≤ (count * tickDuration : Int) :=
          Int.mul_nonneg (Int.natCast_nonneg _) (Int.natCast_nonneg _)
        exact ⟨first, rfl, by omega, by omega⟩
      · rcases ih later with ⟨now, poll, after, before⟩
        exact ⟨now, poll, by omega, by omega⟩

namespace Session

/--
In a session on one new pacer the attempts within any stretch of time are at
most as many as the tick durations that have begun in it.  That is sixty-one
for a second, because the distance of two attempts may be a sixtieth of a
second less two thirds of a nanosecond.  Attempts that keep a full sixtieth
are at most sixty.
-/
theorem ticks_per_second_are_capped
    {speed : UInt32} {pacer : Pacer} {actions : List Action}
    (created : Pacer.ofSpeed speed = .ok pacer)
    (keeps : ∀ action ∈ actions, action.KeepsPacer)
    (machine : Machine) :
    let attempts := (⟨machine, some pacer⟩ : Session).attempts actions
    (attempts.Pairwise fun earlier later : Int =>
        1000000000 - 40 ≤ 60 * (later - earlier)) ∧
      (∀ start width,
        (during attempts start width).length * tickDuration <
          width + tickDuration) ∧
      (∀ start, (during attempts start 1000000000).length ≤ 61) ∧
      ((attempts.Pairwise fun earlier later : Int =>
          1000000000 ≤ 60 * (later - earlier)) →
        ∀ start, (during attempts start 1000000000).length ≤ 60) := by
  intro attempts
  have fresh := (Pacer.ofSpeed_eq_ok created).2.2
  have spaced : attempts.Pairwise Spaced :=
    pairwise_attempts rfl fresh keeps
  have apart :
      attempts.Pairwise fun earlier later : Int =>
        earlier + tickDuration ≤ later :=
    spaced.imp And.right
  have duration : tickDuration = 16666666 := by decide
  have capped (start : Int) (width : Nat) :
      (during attempts start width).length * tickDuration <
        width + tickDuration :=
    length_during_mul_lt tickDuration_pos apart start width
  refine ⟨?_, capped, ?_, ?_⟩
  · apply apart.imp
    intro earlier later distance
    omega
  · intro start
    have bound := capped start 1000000000
    rw [duration] at bound
    omega
  · intro sixtieths start
    have wider :
        attempts.Pairwise fun earlier later : Int =>
          earlier + (tickDuration + 1 : Nat) ≤ later := by
      apply sixtieths.imp
      intro earlier later distance
      omega
    have bound :=
      length_during_mul_lt (Nat.succ_pos tickDuration) wider start 1000000000
    rw [duration] at bound
    omega

/-- A machine with a program that idles. -/
def idleMachine : Machine :=
  ((Machine.create .standard (.cycling #[])).load #[0x12, 0x00]).machine

/-- Two polls at the full rate have the least possible distance. -/
theorem ticks_per_second_are_capped_at_two_polls :
    let attempts :=
      (⟨idleMachine, some slowestPacer⟩ : Session).attempts (steadyPolls 0 2)
    Pacer.ofSpeed 1 = .ok slowestPacer ∧
      (∀ action ∈ steadyPolls 0 2, action.KeepsPacer) ∧
      attempts = [0, 16666666] ∧
      (during attempts 0 16666667).length * tickDuration <
        16666667 + tickDuration ∧
      (during attempts 0 16666667).length = 2 := by
  intro attempts
  have created : Pacer.ofSpeed 1 = .ok slowestPacer := rfl
  have keeps : ∀ action ∈ steadyPolls 0 2, action.KeepsPacer := by
    simp [steadyPolls, Action.KeepsPacer]
  have instants : attempts = [0, 16666666] := by decide +kernel
  have capped :=
    (ticks_per_second_are_capped created keeps idleMachine).2.1 0 16666667
  refine ⟨created, keeps, instants, capped, ?_⟩
  rw [instants]
  decide

/-- A program that idles gets a tick from every poll at the full rate. -/
theorem fired_steadyPolls
    {machine : Machine} {pacer : Pacer} {first : Int}
    (idles : machine.Idles)
    (due : ∀ last ∈ pacer.lastAttempt, last + tickDuration ≤ first)
    (count : Nat) :
    ∀ response ∈
        (⟨machine, some pacer⟩ : Session).responses (steadyPolls first count),
      response.result = .ok (.fired true) := by
  induction count generalizing machine pacer first with
  | zero => exact fun response member => nomatch member
  | succ count ih =>
      have completes := (Machine.burst_of_idles idles pacer.speed.toNat).1
      have remains := (Machine.burst_of_idles idles pacer.speed.toNat).2
      have tick := Pacer.tick_of_burst_ok completes
      rw [remains] at tick
      have paced : (⟨machine, some pacer⟩ : Session).pacer = some pacer := rfl
      have polled :=
        act_poll_of_isDue paced (Pacer.isDue_eq_true_iff.mpr due)
      rw [act_tick rfl, tick] at polled
      rw [steadyPolls, responses, polled, List.forall_mem_cons]
      refine ⟨rfl, ?_⟩
      apply ih
      · exact idles
      · rintro last ⟨⟩
        exact Int.le_refl _

theorem idles_idleMachine : idleMachine.Idles :=
  ⟨0x200, by decide +kernel, rfl⟩

/-- Sixty-one polls within a second all run a tick. -/
theorem sixty_one_ticks_in_one_second :
    let start : Session := ⟨idleMachine, some slowestPacer⟩
    let polls := steadyPolls 0 61
    polls.length = 61 ∧
      (∀ action ∈ polls,
        ∃ now : Int, action = .poll now ∧ 0 ≤ now ∧ now < 1000000000) ∧
      ∀ response ∈ start.responses polls,
        response.result = .ok (.fired true) := by
  intro start polls
  refine ⟨rfl, ?_, ?_⟩
  · intro action member
    rcases mem_steadyPolls member with ⟨now, poll, after, before⟩
    have duration : tickDuration = 16666666 := by decide
    rw [duration] at before
    exact ⟨now, poll, after, by omega⟩
  · exact fired_steadyPolls idles_idleMachine (by simp [slowestPacer]) 61

end Session

end ChipEight
