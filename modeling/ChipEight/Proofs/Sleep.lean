import ChipEight.Proofs.Pacing
import Mathlib.Order.Bounds.Defs

/-!
# How long a host may sleep

The time until the next tick is the time left until the deadline, kept
between nothing and a whole tick duration (`untilNext_eq_clamp`).  It is
nothing exactly when a tick is due.  A host that sleeps for it never wakes
late, and wakes exactly at the next tick unless the clock has gone back
behind the last attempt (`sleep_agrees_with_due`).
-/

namespace ChipEight

namespace Pacer

variable {pacer : Pacer} {machine : Machine} {now later : Int}

theorem untilNext_of_fresh (fresh : pacer.lastAttempt = none) :
    pacer.untilNext now = 0 := by
  rw [untilNext, fresh]

/-- The time left until the deadline, but never less than none or more than all. -/
theorem untilNext_eq_clamp
    {last : Int} (attempted : pacer.lastAttempt = some last) (now : Int) :
    (pacer.untilNext now : Int) =
      max (0 : Int)
        (min (tickDuration : Int) (last + tickDuration - now)) := by
  have remaining :
      pacer.untilNext now = tickDuration - (now - last).toNat := by
    rw [untilNext, attempted]
    rfl
  rw [remaining]
  omega

theorem isDue_of_fresh (fresh : pacer.lastAttempt = none) :
    pacer.isDue now = true := by
  rw [isDue, fresh]

theorem isDue_iff_of_attempted
    {last : Int} (attempted : pacer.lastAttempt = some last) (now : Int) :
    pacer.isDue now = true ↔ last + tickDuration ≤ now := by
  rw [isDue_eq_true_iff, attempted]
  simp only [Option.mem_some_iff, forall_eq']

/-- There is nothing left to wait for exactly when the pacer is due. -/
theorem isDue_iff_untilNext_eq_zero :
    pacer.isDue now = true ↔ pacer.untilNext now = 0 := by
  cases attempted : pacer.lastAttempt with
  | none => simp [isDue_of_fresh attempted, untilNext_of_fresh attempted]
  | some last =>
      have clamp := untilNext_eq_clamp attempted now
      have positive := tickDuration_pos
      rw [isDue_iff_of_attempted attempted]
      omega

/-- A pacer that is due stays so until it attempts a tick. -/
theorem isDue_mono
    (onward : now ≤ later) (due : pacer.isDue now = true) :
    pacer.isDue later = true := by
  rw [isDue_eq_true_iff] at due ⊢
  exact fun last attempted => (due last attempted).trans onward

/-- Whatever the clock did, nothing is due before a host wakes. -/
theorem add_untilNext_le_of_isDue
    (onward : now ≤ later) (due : pacer.isDue later = true) :
    now + pacer.untilNext now ≤ later := by
  cases attempted : pacer.lastAttempt with
  | none =>
      rw [untilNext_of_fresh attempted]
      omega
  | some last =>
      have clamp := untilNext_eq_clamp attempted now
      rw [isDue_iff_of_attempted attempted] at due
      omega

/-- On a clock that is not behind the last attempt a tick is due on waking. -/
theorem isDue_add_untilNext
    (ahead : ∀ last : Int, last ∈ pacer.lastAttempt → last ≤ now) :
    pacer.isDue (now + pacer.untilNext now) = true := by
  cases attempted : pacer.lastAttempt with
  | none => exact isDue_of_fresh attempted
  | some last =>
      have clamp := untilNext_eq_clamp attempted now
      have past := ahead last attempted
      rw [isDue_iff_of_attempted attempted]
      omega

/-- A poll answers that no tick was due exactly if none is due. -/
theorem result_poll_ne_iff :
    (pacer.poll machine now).result ≠ .ok false ↔
      pacer.isDue now = true := by
  cases due : pacer.isDue now with
  | false => simp [poll_of_not_isDue due]
  | true =>
      rw [poll_of_isDue due]
      cases (pacer.tick machine).result <;> simp [Except.map]

theorem untilNext_poll_of_isDue (due : pacer.isDue now = true) :
    (pacer.poll machine now).pacer.untilNext now = tickDuration := by
  have attempted :
      (pacer.poll machine now).pacer.lastAttempt = some now := by
    rw [poll_of_isDue due]
  have clamp := untilNext_eq_clamp attempted now
  omega

/--
A tick is due exactly when there is nothing left to sleep, and stays due.
Within the time to sleep nothing is due, whatever the clock did.  On a clock
that is not behind the last attempt, a host that sleeps for that time wakes
at the first instant from now on at which a poll attempts a tick.  On one
that is behind it, nothing is due and the time is a whole tick duration, as
it is after every poll that attempts a tick, whether or not the tick fails.
-/
theorem sleep_agrees_with_due
    (pacer : Pacer) (machine : Machine) (now : Int) :
    (pacer.isDue now = true ↔ pacer.untilNext now = 0) ∧
      (∀ later : Int,
        now ≤ later → pacer.isDue now = true → pacer.isDue later = true) ∧
      (∀ instant : Int,
        now ≤ instant → instant < now + pacer.untilNext now →
          pacer.isDue instant = false) ∧
      ((∀ last : Int, last ∈ pacer.lastAttempt → last ≤ now) →
        IsLeast
          {instant : Int |
            now ≤ instant ∧
              (pacer.poll machine instant).result ≠ .ok false}
          (now + pacer.untilNext now)) ∧
      (∀ last : Int, last ∈ pacer.lastAttempt → now < last →
          pacer.untilNext now = tickDuration ∧ pacer.isDue now = false) ∧
      ((pacer.poll machine now).result ≠ .ok false →
        (pacer.poll machine now).pacer.untilNext now = tickDuration) := by
  refine ⟨isDue_iff_untilNext_eq_zero, ?_, ?_, ?_, ?_, ?_⟩
  · exact fun later onward due => isDue_mono onward due
  · intro instant onward asleep
    apply Bool.eq_false_of_not_eq_true
    intro due
    exact (add_untilNext_le_of_isDue onward due).not_gt asleep
  · intro ahead
    constructor
    · exact ⟨by omega, result_poll_ne_iff.mpr (isDue_add_untilNext ahead)⟩
    · rintro instant ⟨onward, attempts⟩
      exact add_untilNext_le_of_isDue onward (result_poll_ne_iff.mp attempts)
  · intro last attempted behind
    have clamp := untilNext_eq_clamp attempted now
    have positive := tickDuration_pos
    constructor
    · omega
    · apply Bool.eq_false_of_not_eq_true
      rw [isDue_iff_of_attempted attempted]
      omega
  · exact fun attempts =>
      untilNext_poll_of_isDue (result_poll_ne_iff.mp attempts)

/-- Ten milliseconds after an attempt, even one that failed, the rest is left. -/
theorem sleep_agrees_with_due_after_ten_milliseconds :
    let machine : Machine := .create .standard (.cycling #[])
    let pacer := (Session.slowestPacer.poll machine 0).pacer
    pacer.lastAttempt = some 0 ∧
      pacer.untilNext 10000000 = 6666666 ∧
      IsLeast
        {instant : Int |
          10000000 ≤ instant ∧
            (pacer.poll machine instant).result ≠ .ok false}
        16666666 := by
  intro machine pacer
  have attempted : pacer.lastAttempt = some 0 := by
    decide +kernel
  have left : pacer.untilNext 10000000 = 6666666 := by
    decide +kernel
  have ahead : ∀ last : Int, last ∈ pacer.lastAttempt → last ≤ 10000000 := by
    rw [attempted]
    rintro last ⟨⟩
    decide
  have wakes :=
    (sleep_agrees_with_due pacer machine 10000000).2.2.2.1 ahead
  rw [left] at wakes
  exact ⟨attempted, left, wakes⟩

end Pacer

end ChipEight
