import ChipEight.Proofs.KeyWait
import Mathlib.Logic.ExistsUnique

/-!
# Ticks

A tick runs cycles up to the first that fails or waits for a key, at most as
many as the pacer's speed.  A fault ends it there and then; otherwise it
counts the timers down, sets the tone and shows the frame, and only then it
counts as a tick.  `every_tick_is_cycles_and_one_picture` says so for every
pacer and machine, and that the requests of a whole session are one pair for
each tick that was counted.
-/

namespace ChipEight

namespace Machine

variable {machine : Machine} {limit last : Nat}

/-! ## Cycles in a row -/

/-- The machine after a number of cycles in a row. -/
def cycled (machine : Machine) (count : Nat) : Machine :=
  machine.after (List.replicate count .cycle)

/-- The outcome of the cycle with this index, counted from zero, in a row. -/
def nthCycle (machine : Machine) (index : Nat) : Outcome Fault Status :=
  (machine.cycled index).cycle

/-- What a number of cycles in a row report. -/
def journal (machine : Machine) (count : Nat) : List Event :=
  (List.range count).flatMap fun index => (machine.nthCycle index).events

@[simp]
theorem nthCycle_zero (machine : Machine) :
    machine.nthCycle 0 = machine.cycle :=
  rfl

@[simp]
theorem nthCycle_succ (machine : Machine) (index : Nat) :
    machine.nthCycle (index + 1) = machine.cycle.machine.nthCycle index :=
  rfl

theorem machine_nthCycle (machine : Machine) (index : Nat) :
    (machine.nthCycle index).machine = machine.cycled (index + 1) := by
  rw [cycled, List.replicate_succ', after_append]
  rfl

theorem journal_succ (machine : Machine) (count : Nat) :
    machine.journal (count + 1) =
      machine.cycle.events ++ machine.cycle.machine.journal count := by
  simp [journal, List.range_succ_eq_map, List.flatMap_map]

/-! ## The last cycle of a burst -/

/--
Whether a burst of at most `limit` cycles ends with the cycle of index
`last`: it is the first that fails or waits, or else the last one allowed.
-/
structure StopsAt (machine : Machine) (limit last : Nat) : Prop where
  allowed : last < limit
  earlier : ∀ index < last, (machine.nthCycle index).result = .ok .running
  ends : (machine.nthCycle last).result = .ok .running → last + 1 = limit

theorem StopsAt.tail
    (stops : machine.StopsAt (limit + 1) (last + 1)) :
    machine.cycle.machine.StopsAt limit last where
  allowed := Nat.lt_of_succ_lt_succ stops.allowed
  earlier index lower := stops.earlier (index + 1) (Nat.succ_lt_succ lower)
  ends running := Nat.succ.inj (stops.ends running)

theorem StopsAt.cons
    (running : machine.cycle.result = .ok .running)
    (stops : machine.cycle.machine.StopsAt limit last) :
    machine.StopsAt (limit + 1) (last + 1) where
  allowed := Nat.succ_lt_succ stops.allowed
  earlier := by
    intro index lower
    cases index with
    | zero => exact running
    | succ index => exact stops.earlier index (Nat.lt_of_succ_lt_succ lower)
  ends := fun running => congrArg Nat.succ (stops.ends running)

/-- Every burst of at least one cycle has a last cycle. -/
theorem exists_stopsAt
    (positive : 0 < limit) (machine : Machine) :
    ∃ last, machine.StopsAt limit last := by
  induction limit generalizing machine with
  | zero => exact (Nat.lt_irrefl 0 positive).elim
  | succ limit ih =>
      by_cases running : machine.cycle.result = .ok .running
      · cases limit with
        | zero => exact ⟨0, Nat.zero_lt_one, by simp, fun _ => rfl⟩
        | succ limit =>
            rcases ih (Nat.succ_pos limit) machine.cycle.machine with
              ⟨last, stops⟩
            exact ⟨last + 1, stops.cons running⟩
      · exact
          ⟨0, Nat.succ_pos limit, by simp,
            fun running' => (running running').elim⟩

theorem StopsAt.le
    {other : Nat}
    (stops : machine.StopsAt limit last)
    (otherStops : machine.StopsAt limit other) :
    other ≤ last := by
  by_contra later
  have running := otherStops.earlier last (Nat.lt_of_not_le later)
  have atLimit := stops.ends running
  have allowed := otherStops.allowed
  omega

theorem existsUnique_stopsAt
    (positive : 0 < limit) (machine : Machine) :
    ∃! last, machine.StopsAt limit last := by
  rcases exists_stopsAt positive machine with ⟨last, stops⟩
  refine ⟨last, stops, ?_⟩
  intro other otherStops
  exact Nat.le_antisymm (stops.le otherStops) (otherStops.le stops)

/-- A burst is the cycles up to its last one. -/
theorem burst_of_stopsAt (stops : machine.StopsAt limit last) :
    machine.burst limit =
      ⟨(machine.nthCycle last).result.map fun _ => (),
        machine.cycled (last + 1), machine.journal (last + 1)⟩ := by
  induction limit generalizing machine last with
  | zero => exact (Nat.not_lt_zero last stops.allowed).elim
  | succ limit ih =>
      rw [burst_succ, journal_succ]
      cases last with
      | zero =>
          rcases result : machine.cycle.result with fault | _ | register
          · simp [result, Except.map, cycled, journal]
          · have single : limit = 0 :=
              (Nat.succ.inj (stops.ends result)).symm
            subst single
            simp [result, Except.map, cycled, journal, Burst.preceded]
          · simp [result, Except.map, cycled, journal]
      | succ last =>
          have running : machine.cycle.result = .ok .running :=
            stops.earlier 0 (Nat.succ_pos last)
          rw [running, ih stops.tail]
          rfl

/-- A burst goes no further than the first key wait that it executes. -/
theorem StopsAt.eq_of_awaitKey
    {index : Nat} {target : Register}
    (stops : machine.StopsAt limit last)
    (reached : index ≤ last)
    (upcoming :
      (machine.cycled index).upcoming? = some (.awaitKey target)) :
    index = last := by
  by_contra different
  have running := stops.earlier index (Nat.lt_of_le_of_ne reached different)
  rw [nthCycle, (cycle_of_upcoming_awaitKey upcoming).1] at running
  cases running

/-- What a completed tick asks of the host for the machine that it leaves. -/
def picture (machine : Machine) : List Request :=
  [.tone machine.soundActive, .show machine.state.frame]

/--
Whether requests are the picture of a machine and one more tick is counted,
or neither.
-/
def PicturesTick
    (machine : Machine) (requests : List Request) (before after : Nat) :
    Prop :=
  (requests = [] ∧ after = before) ∨
    (requests = machine.picture ∧ after = before + 1)

end Machine

/-! ## One tick -/

namespace Pacer

variable {machine : Machine} {last : Nat}

/-- A new pacer has neither counted a tick nor attempted one. -/
theorem ofSpeed_eq_ok
    {speed : UInt32} {pacer : Pacer}
    (created : ofSpeed speed = .ok pacer) :
    pacer.speed = speed ∧ pacer.ticks = 0 ∧ pacer.lastAttempt = none := by
  rw [ofSpeed] at created
  split at created
  · cases created
    exact ⟨rfl, rfl, rfl⟩
  · cases created

theorem toNat_speed_pos (pacer : Pacer) : 0 < pacer.speed.toNat :=
  UInt32.lt_iff_toNat_lt.mp pacer.speed_pos

/-- A tick whose burst fails neither counts nor asks for anything. -/
theorem tick_of_burst_error
    {pacer : Pacer} {fault : Fault}
    (failed : (machine.burst pacer.speed.toNat).result = .error fault) :
    pacer.tick machine =
      ⟨.error fault, pacer, (machine.burst pacer.speed.toNat).machine, [],
        (machine.burst pacer.speed.toNat).events⟩ := by
  rw [tick, failed]

/-- A tick whose burst succeeds counts the timers down and shows its picture. -/
theorem tick_of_burst_ok
    {pacer : Pacer}
    (succeeded : (machine.burst pacer.speed.toNat).result = .ok ()) :
    pacer.tick machine =
      ⟨.ok (), { pacer with ticks := pacer.ticks + 1 },
        (machine.burst pacer.speed.toNat).machine.countDown,
        (machine.burst pacer.speed.toNat).machine.countDown.picture,
        (machine.burst pacer.speed.toNat).events⟩ := by
  rw [tick, succeeded]
  rfl

/-- A tick whose last cycle fails ends with the machine of that moment. -/
theorem tick_of_failed_cycle
    {pacer : Pacer} {fault : Fault}
    (stops : machine.StopsAt pacer.speed.toNat last)
    (failed : (machine.nthCycle last).result = .error fault) :
    pacer.tick machine =
      ⟨.error fault, pacer, machine.cycled last, [],
        machine.journal (last + 1)⟩ := by
  have burst := Machine.burst_of_stopsAt stops
  have unchanged : machine.cycled (last + 1) = machine.cycled last := by
    rw [← Machine.machine_nthCycle]
    exact Machine.cycle_machine_of_error failed
  rw [failed, unchanged] at burst
  rw [tick_of_burst_error (congrArg Burst.result burst), burst]

/-- Any other tick counts down once, sets the tone and shows the frame. -/
theorem tick_of_completed_cycles
    {pacer : Pacer} {status : Status}
    (stops : machine.StopsAt pacer.speed.toNat last)
    (succeeded : (machine.nthCycle last).result = .ok status) :
    pacer.tick machine =
      ⟨.ok (), { pacer with ticks := pacer.ticks + 1 },
        (machine.cycled (last + 1)).countDown,
        (machine.cycled (last + 1)).countDown.picture,
        machine.journal (last + 1)⟩ := by
  have burst := Machine.burst_of_stopsAt stops
  rw [succeeded] at burst
  rw [tick_of_burst_ok (congrArg Burst.result burst), burst]

/-- A tick asks for its picture exactly if it counts. -/
theorem picturesTick_tick (pacer : Pacer) (machine : Machine) :
    (pacer.tick machine).machine.PicturesTick
      (pacer.tick machine).requests pacer.ticks
      (pacer.tick machine).pacer.ticks := by
  cases burst : (machine.burst pacer.speed.toNat).result with
  | error fault =>
      rw [tick_of_burst_error burst]
      exact Or.inl ⟨rfl, rfl⟩
  | ok answer =>
      rw [tick_of_burst_ok burst]
      exact Or.inr ⟨rfl, rfl⟩

/-- What a tick does has nothing to do with the instants of attempts. -/
theorem tick_of_lastAttempt
    (pacer : Pacer) (machine : Machine) (attempt : Option Instant) :
    ({ pacer with lastAttempt := attempt } : Pacer).tick machine =
      { pacer.tick machine with
        pacer :=
          { (pacer.tick machine).pacer with lastAttempt := attempt } } := by
  cases burst : (machine.burst pacer.speed.toNat).result with
  | error fault =>
      rw [tick_of_burst_error burst]
      exact tick_of_burst_error burst
  | ok answer =>
      rw [tick_of_burst_ok burst]
      exact tick_of_burst_ok burst

/-- A poll that is due runs one tick and remembers its instant. -/
theorem poll_of_isDue
    {pacer : Pacer} {now : Instant}
    (due : pacer.isDue now = true) (machine : Machine) :
    pacer.poll machine now =
      { result := (pacer.tick machine).result.map fun () => true
        pacer :=
          { (pacer.tick machine).pacer with lastAttempt := some now }
        machine := (pacer.tick machine).machine
        requests := (pacer.tick machine).requests
        events := (pacer.tick machine).events } := by
  rw [poll, if_pos due, tick_of_lastAttempt]

theorem poll_of_not_isDue
    {pacer : Pacer} {now : Instant}
    (early : pacer.isDue now = false) (machine : Machine) :
    pacer.poll machine now = ⟨.ok false, pacer, machine, [], []⟩ := by
  simp only [poll, early, Bool.false_eq_true, if_false]

theorem picturesTick_poll
    (pacer : Pacer) (machine : Machine) (now : Instant) :
    (pacer.poll machine now).machine.PicturesTick
      (pacer.poll machine now).requests pacer.ticks
      (pacer.poll machine now).pacer.ticks := by
  cases due : pacer.isDue now with
  | false =>
      rw [poll_of_not_isDue due]
      exact Or.inl ⟨rfl, rfl⟩
  | true =>
      rw [poll_of_isDue due]
      exact pacer.picturesTick_tick machine

end Pacer

/-! ## Sessions on one pacer -/

/-- Whether an action leaves the pacer in its place. -/
def Action.KeepsPacer : Action → Prop
  | .pace _ => False
  | .operate _ | .tick | .poll _ => True

namespace Session

variable {session : Session} {pacer : Pacer}

/-- The pacer stays, and an action asks for its picture exactly if it counts a tick. -/
theorem act_of_paced
    {action : Action}
    (paced : session.pacer = some pacer)
    (keeps : action.KeepsPacer) :
    ∃ later,
      (session.act action).session.pacer = some later ∧
        (session.act action).session.machine.PicturesTick
          (session.act action).requests pacer.ticks later.ticks := by
  cases action with
  | operate operation => exact ⟨pacer, paced, Or.inl ⟨rfl, rfl⟩⟩
  | pace speed => exact keeps.elim
  | tick =>
      simp only [act, paced]
      exact ⟨_, rfl, pacer.picturesTick_tick session.machine⟩
  | poll now =>
      simp only [act, paced]
      exact ⟨_, rfl, pacer.picturesTick_poll session.machine now⟩

/-- The requests of a session are one picture for each tick that it counts. -/
theorem requests_of_paced
    {actions : List Action}
    (paced : session.pacer = some pacer)
    (keeps : ∀ action ∈ actions, action.KeepsPacer) :
    ∃ (late : Pacer) (shown : List Machine),
      (session.after actions).pacer = some late ∧
        late.ticks = pacer.ticks + shown.length ∧
        shown.Sublist
          ((session.responses actions).map fun response =>
            response.session.machine) ∧
        (session.responses actions).flatMap Response.requests =
          shown.flatMap Machine.picture := by
  induction actions generalizing session pacer with
  | nil => exact ⟨pacer, [], paced, rfl, List.Sublist.refl [], rfl⟩
  | cons action rest ih =>
      rcases List.forall_mem_cons.mp keeps with ⟨first, others⟩
      rcases act_of_paced paced first with ⟨later, stays, step⟩
      rcases ih stays others with ⟨late, shown, ends, count, among, asked⟩
      rw [after_cons, responses, List.map_cons, List.flatMap_cons, asked]
      rcases step with ⟨nothing, same⟩ | ⟨picture, counted⟩
      · refine ⟨late, shown, ends, by rw [count, same], among.cons _, ?_⟩
        rw [nothing, List.nil_append]
      · refine
          ⟨late, (session.act action).session.machine :: shown, ends, ?_,
            among.cons_cons _, ?_⟩
        · rw [count, counted, List.length_cons]
          omega
        · rw [picture, List.flatMap_cons]

end Session

/--
A tick runs cycles up to the first that fails or waits for a key, or as many
as the speed allows; in particular none follows an `Fx0A`, held keys or not.
If the last cycle fails, the tick reports its fault, leaves the machine of
that moment and neither counts nor asks for anything; otherwise it lowers
both timers by one, stopping at zero, changes nothing else, sets the tone and
shows the frame.  A session that starts with a new pacer therefore asks for
exactly one tone and one frame, in this order, for each tick that the pacer
has counted.
-/
theorem every_tick_is_cycles_and_one_picture :
    (∀ (pacer : Pacer) (machine : Machine),
      (∃! last, machine.StopsAt pacer.speed.toNat last) ∧
        ∀ last,
          machine.StopsAt pacer.speed.toNat last →
          (∀ fault,
            (machine.nthCycle last).result = .error fault →
              pacer.tick machine =
                ⟨.error fault, pacer, machine.cycled last, [],
                  machine.journal (last + 1)⟩) ∧
          (∀ status,
            (machine.nthCycle last).result = .ok status →
              let late := machine.cycled (last + 1)
              let shown := late.countDown
              shown.state.delay.toNat = late.state.delay.toNat - 1 ∧
                shown.state.sound.toNat = late.state.sound.toNat - 1 ∧
                shown =
                  { late with
                    state :=
                      { late.state with
                        delay := shown.state.delay
                        sound := shown.state.sound } } ∧
                pacer.tick machine =
                  ⟨.ok (), { pacer with ticks := pacer.ticks + 1 }, shown,
                    [.tone (decide (0 < shown.state.sound)),
                      .show shown.state.frame],
                    machine.journal (last + 1)⟩) ∧
          ∀ index ≤ last, ∀ target,
            (machine.cycled index).upcoming? = some (.awaitKey target) →
              index = last) ∧
      ∀ speed pacer machine actions,
        Pacer.ofSpeed speed = .ok pacer →
        (∀ action ∈ actions, action.KeepsPacer) →
        let start : Session := ⟨machine, some pacer⟩
        ∃ (late : Pacer) (shown : List Machine),
          (start.after actions).pacer = some late ∧
            shown.length = late.ticks ∧
            shown.Sublist
              ((start.responses actions).map fun response =>
                response.session.machine) ∧
            (start.responses actions).flatMap Response.requests =
              shown.flatMap fun machine =>
                [.tone (decide (0 < machine.state.sound)),
                  .show machine.state.frame] := by
  constructor
  · intro pacer machine
    refine ⟨Machine.existsUnique_stopsAt pacer.toNat_speed_pos machine, ?_⟩
    intro last stops
    refine ⟨?_, ?_, ?_⟩
    · intro fault failed
      exact Pacer.tick_of_failed_cycle stops failed
    · intro status succeeded late shown
      exact
        ⟨State.toNat_countedDown late.state.delay,
          State.toNat_countedDown late.state.sound, rfl,
          Pacer.tick_of_completed_cycles stops succeeded⟩
    · intro index reached target upcoming
      exact stops.eq_of_awaitKey reached upcoming
  · intro speed pacer machine actions created keeps start
    rcases start.requests_of_paced rfl keeps with
      ⟨late, shown, ends, count, among, asked⟩
    have fresh : pacer.ticks = 0 := (Pacer.ofSpeed_eq_ok created).2.1
    refine ⟨late, shown, ends, ?_, among, asked⟩
    rw [count, fresh, Nat.zero_add]

/--
A machine that sets both timers to seven and then waits for the key that is
held.
-/
def heldKeyWait : Machine :=
  ((Machine.create .standard (.cycling #[])).load
    #[0x60, 0x07, 0xF0, 0x15, 0xF0, 0x18, 0xF3, 0x0A, 0x00,
      0x00]).machine.press 0x5

/--
The first tick ends with the key wait and lowers both timers; the second
takes the key and then fails, so that only the first asks for a picture and
the timers keep their values.
-/
theorem ticks_end_at_key_wait_and_fault :
    let pacer : Pacer := ⟨8, by decide, none, 0⟩
    let parked := (pacer.tick heldKeyWait).machine
    let failed := pacer.tick parked
    let start : Session := ⟨heldKeyWait, some pacer⟩
    heldKeyWait.StopsAt 8 3 ∧
      (heldKeyWait.cycled 4).state.delay = 7 ∧
      (heldKeyWait.cycled 4).state.sound = 7 ∧
      parked.state.delay.toNat = 6 ∧ parked.state.sound.toNat = 6 ∧
      (pacer.tick heldKeyWait).requests = [.tone true, .show .blank] ∧
      parked.StopsAt 8 1 ∧
      failed.result = .error (.unknownInstruction 0x0000 0x0208) ∧
      failed.requests = [] ∧
      failed.machine.state.register 3 = 0x5 ∧
      failed.machine.state.delay = 6 ∧ failed.machine.state.sound = 6 ∧
      ∃ (late : Pacer) (shown : List Machine),
        Pacer.ofSpeed 8 = .ok pacer ∧
          (start.after [.tick, .poll 0]).pacer = some late ∧
          late.ticks = 1 ∧ shown.length = 1 ∧
          (start.responses [.tick, .poll 0]).flatMap Response.requests =
            shown.flatMap Machine.picture := by
  intro pacer parked failed start
  have parks : heldKeyWait.StopsAt 8 3 :=
    ⟨by decide, by decide +kernel, by decide +kernel⟩
  have fails : parked.StopsAt 8 1 :=
    ⟨by decide, by decide +kernel, by decide +kernel⟩
  have answer :
      (heldKeyWait.nthCycle 3).result = .ok (.awaitingKey 3) := by
    decide +kernel
  have fault :
      (parked.nthCycle 1).result =
        .error (.unknownInstruction 0x0000 0x0208) := by
    decide +kernel
  have sevens :
      (heldKeyWait.cycled 4).state.delay = 7 ∧
        (heldKeyWait.cycled 4).state.sound = 7 := by
    decide +kernel
  have blank :
      (heldKeyWait.cycled 4).countDown.picture =
        [.tone true, .show .blank] := by
    decide +kernel
  have resumed :
      (parked.cycled 1).state.register 3 = 0x5 ∧
        (parked.cycled 1).state.delay = 6 ∧
        (parked.cycled 1).state.sound = 6 := by
    decide +kernel
  rcases every_tick_is_cycles_and_one_picture with ⟨ticks, sessions⟩
  rcases ((ticks pacer heldKeyWait).2 3 parks).2.1 _ answer with
    ⟨delay, sound, _, completes⟩
  have aborts := ((ticks pacer parked).2 1 fails).1 _ fault
  rcases sessions 8 pacer heldKeyWait [.tick, .poll 0] rfl
      (by simp [Action.KeepsPacer]) with
    ⟨late, shown, ends, counted, _, asked⟩
  have count : late.ticks = 1 := by
    have ticked :
        (start.after [.tick, .poll 0]).pacer.map Pacer.ticks = some 1 := by
      decide +kernel
    rw [ends] at ticked
    exact Option.some.inj ticked
  have left : failed.machine = parked.cycled 1 := by
    simp only [failed, aborts]
  have shows : parked = (heldKeyWait.cycled 4).countDown := by
    simp only [parked, completes]
  refine
    ⟨parks, sevens.1, sevens.2, ?_, ?_, ?_, fails, ?_, ?_, ?_, ?_, ?_,
      late, shown, rfl, ends, count, counted.trans count, asked⟩
  · rw [shows, delay, sevens.1]
    rfl
  · rw [shows, sound, sevens.2]
    rfl
  · rw [completes]
    exact blank
  · simp only [failed, aborts]
  · simp only [failed, aborts]
  · rw [left, resumed.1]
  · rw [left, resumed.2.1]
  · rw [left, resumed.2.2]

end ChipEight
