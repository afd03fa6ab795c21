import ChipEight.Machine.Operation

/-!
# Pacing

A pacer runs a machine in ticks.  A tick is a burst of cycles, one count of
the timers, one setting of the tone and one showing of the frame.  `poll`
runs a tick only if none was attempted within the last tick duration, so a
late tick is simply late and none is made up for.
-/

namespace ChipEight

/-- A reading of the host's clock in nanoseconds. -/
abbrev Instant := Int

/-- The number of nanoseconds between ticks. -/
def tickDuration : Nat := 1000000000 / 60

/-- Something that a tick asks of the host. -/
inductive Request
  | tone (on : Bool)
  | show (frame : Frame)
  deriving DecidableEq

/-- Why a machine cannot be paced. -/
inductive PaceError
  | zeroSpeed
  deriving DecidableEq

/-- The wording of a refusal to pace. -/
def PaceError.message : PaceError → String
  | zeroSpeed => "speed must be at least one instruction per tick"

/--
When the last tick was attempted, and how many ticks were completed.  The
count is a number without a bound here, where a host has sixty-four bits for
it; at sixty ticks a second these last for billions of years.
-/
structure Pacer where
  speed : UInt32
  speed_pos : 0 < speed
  lastAttempt : Option Instant
  ticks : Nat
  deriving DecidableEq

/-- The end of a burst: the last fault if one stopped it, and the machine then. -/
structure Burst where
  result : Except Fault Unit
  machine : Machine
  events : List Event

/-- What a tick did, with the requests it made in order. -/
structure Tick (answer : Type) where
  result : Except Fault answer
  pacer : Pacer
  machine : Machine
  requests : List Request
  events : List Event

namespace Burst

/-- A burst with earlier reports put in front of its own. -/
def preceded (burst : Burst) (earlier : List Event) : Burst :=
  { burst with events := earlier ++ burst.events }

end Burst

namespace Machine

/--
Up to `cycles` cycles, ending early after one that fails or leaves the
machine waiting for a key.  Reports are collected behind `trail`, the latest
first.
-/
def burstFrom (trail : List Event) : Nat → Machine → Burst
  | 0, machine => ⟨.ok (), machine, trail.reverse⟩
  | cycles + 1, machine =>
    let outcome := machine.cycle
    let trail := outcome.events.reverse ++ trail
    match outcome.result with
    | .error fault => ⟨.error fault, outcome.machine, trail.reverse⟩
    | .ok (.awaitingKey _) => ⟨.ok (), outcome.machine, trail.reverse⟩
    | .ok .running => burstFrom trail cycles outcome.machine

/-- Up to `cycles` cycles, ending early after one that fails or waits. -/
def burst (cycles : Nat) (machine : Machine) : Burst :=
  burstFrom [] cycles machine

theorem burstFrom_eq (trail : List Event) (cycles : Nat) (machine : Machine) :
    burstFrom trail cycles machine = (burst cycles machine).preceded trail.reverse := by
  induction cycles generalizing trail machine with
  | zero => simp [burst, burstFrom, Burst.preceded]
  | succ cycles hypothesis =>
    rw [burst, burstFrom, burstFrom]
    split
    · simp [Burst.preceded]
    · simp [Burst.preceded]
    · rw [hypothesis, hypothesis (_ ++ [])]
      simp [Burst.preceded]

@[simp]
theorem burst_zero (machine : Machine) : burst 0 machine = ⟨.ok (), machine, []⟩ :=
  rfl

/-- A burst is its first cycle and, if that left the machine running, the rest. -/
theorem burst_succ (cycles : Nat) (machine : Machine) :
    burst (cycles + 1) machine =
      match machine.cycle.result with
      | .error fault => ⟨.error fault, machine.cycle.machine, machine.cycle.events⟩
      | .ok (.awaitingKey _) => ⟨.ok (), machine.cycle.machine, machine.cycle.events⟩
      | .ok .running =>
        (burst cycles machine.cycle.machine).preceded machine.cycle.events := by
  rw [burst, burstFrom]
  split
  · simp [*]
  · simp [*]
  · simp [*, burstFrom_eq]

end Machine

namespace Pacer

/-- A pacer that has not ticked yet. -/
def ofSpeed (speed : UInt32) : Except PaceError Pacer :=
  if positive : 0 < speed then .ok ⟨speed, positive, none, 0⟩ else .error .zeroSpeed

/-- The time since an instant, and zero if the clock is behind it. -/
def elapsed (since now : Instant) : Nat :=
  (now - since).toNat

/-- Whether a poll at this instant attempts a tick. -/
def isDue (pacer : Pacer) (now : Instant) : Bool :=
  match pacer.lastAttempt with
  | none => true
  | some last => decide (tickDuration ≤ elapsed last now)

/-- How long the host can sleep before the next tick is due. -/
def untilNext (pacer : Pacer) (now : Instant) : Nat :=
  match pacer.lastAttempt with
  | none => 0
  | some last => tickDuration - elapsed last now

/-- Runs one tick, whatever the clock says. -/
def tick (pacer : Pacer) (machine : Machine) : Tick Unit :=
  let burst := machine.burst pacer.speed.toNat
  match burst.result with
  | .error fault => ⟨.error fault, pacer, burst.machine, [], burst.events⟩
  | .ok () =>
    let machine := burst.machine.countDown
    { result := .ok ()
      pacer := { pacer with ticks := pacer.ticks + 1 }
      machine := machine
      requests := [.tone machine.soundActive, .show machine.state.frame]
      events := burst.events }

/-- Runs a tick if one is due, and answers whether it did. -/
def poll (pacer : Pacer) (machine : Machine) (now : Instant) : Tick Bool :=
  if pacer.isDue now then
    let tick := { pacer with lastAttempt := some now }.tick machine
    { tick with result := tick.result.map fun () => true }
  else ⟨.ok false, pacer, machine, [], []⟩

end Pacer

end ChipEight
