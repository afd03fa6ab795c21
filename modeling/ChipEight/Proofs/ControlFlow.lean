import ChipEight.Proofs.Failure
import ChipEight.Proofs.KeyWait
import ChipEight.Proofs.Run
import Mathlib.Algebra.Group.Nat.Defs

/-!
# Where the counter goes

A cycle that executes a word puts the counter on the next word, unless the
word is one that steers: a jump, a call, a return or a skip.
`Machine.Steered` gives the counter after each of these, with jumps by an
offset folding at twelve bits and all other steps at sixteen.
`Machine.counter_goes_where_words_say` states it for every cycle, says that
opposite skips skip in opposite states, and follows straight runs, in which
no word steers, over any number of cycles.
-/

namespace ChipEight

open Instruction (addressWord xkWord xyWord)

/-- The words after which the counter may be elsewhere than on the next word. -/
inductive SteeringWord : Nat → Prop
  | ret : SteeringWord 0x00EE
  | jump (nnn : Address) : SteeringWord (addressWord 0x1 nnn)
  | call (nnn : Address) : SteeringWord (addressWord 0x2 nnn)
  | byteIs (x : Register) (kk : UInt8) :
      SteeringWord (xkWord 0x3 x kk.toNat)
  | byteIsNot (x : Register) (kk : UInt8) :
      SteeringWord (xkWord 0x4 x kk.toNat)
  | same (x y : Register) : SteeringWord (xyWord 0x5 x y 0x0)
  | differ (x y : Register) : SteeringWord (xyWord 0x9 x y 0x0)
  | jumpOffset (nnn : Address) : SteeringWord (addressWord 0xB nnn)
  | keyDown (x : Register) : SteeringWord (xkWord 0xE x 0x9E)
  | keyUp (x : Register) : SteeringWord (xkWord 0xE x 0xA1)

/-- Every instruction but those of the steering words goes on to the next word. -/
theorem Instruction.counterAfter_of_not_steering
    {instruction : Instruction} {surroundings : Surroundings}
    {state : State}
    (straight : ¬ SteeringWord instruction.number) :
    instruction.fault? state = none ∧
      instruction.counterAfter surroundings state = state.counter + 2 := by
  cases instruction with
  | ret => exact (straight .ret).elim
  | jump nnn => exact (straight (.jump nnn)).elim
  | call nnn => exact (straight (.call nnn)).elim
  | jumpOffset nnn => exact (straight (.jumpOffset nnn)).elim
  | skip condition =>
      cases condition with
      | byteIs x kk => exact (straight (.byteIs x kk)).elim
      | byteIsNot x kk => exact (straight (.byteIsNot x kk)).elim
      | same x y => exact (straight (.same x y)).elim
      | differ x y => exact (straight (.differ x y)).elim
      | keyDown x => exact (straight (.keyDown x)).elim
      | keyUp x => exact (straight (.keyUp x)).elim
  | _ => exact ⟨rfl, rfl⟩

/-- A code names a held key exactly if it is the number of one. -/
theorem Keypad.isHeld_eq_true_iff {keypad : Keypad} {code : UInt8} :
    keypad.isHeld code = true ↔
      ∃ key ∈ keypad.heldKeys, code.toNat = key.val := by
  constructor
  · intro held
    by_cases inRange : code.toNat < 16
    · refine ⟨⟨code.toNat, inRange⟩, ?_, rfl⟩
      simpa [heldKeys] using held
    · simp [isHeld, inRange] at held
  · rintro ⟨key, held, named⟩
    have code_eq : UInt8.ofNat key.val = code := by
      rw [← named, UInt8.ofNat_toNat]
    rw [← code_eq]
    exact held

/-- The counter goes on by two in sixteen bits. -/
theorem toNat_add_two (counter : UInt16) :
    (counter + 2).toNat = (counter.toNat + 2) % 2 ^ 16 :=
  UInt16.toNat_add counter 2

/-- Skipping a word goes on by four in sixteen bits. -/
theorem toNat_add_two_add_two (counter : UInt16) :
    (counter + 2 + 2).toNat = (counter.toNat + 4) % 2 ^ 16 := by
  rw [toNat_add_two, toNat_add_two]
  omega

/-- The two places where a skip can put the counter are different. -/
theorem toNat_skipped_iff (counter : UInt16) (test : Prop) [Decidable test] :
    let next := if test then counter + 2 + 2 else counter + 2
    (next.toNat = (counter.toNat + 4) % 2 ^ 16 ↔ test) ∧
      (next.toNat = (counter.toNat + 2) % 2 ^ 16 ↔ ¬ test) := by
  intro next
  have bound := counter.toNat_lt
  have different :
      (counter.toNat + 4) % 2 ^ 16 ≠ (counter.toNat + 2) % 2 ^ 16 := by
    omega
  by_cases passed : test
  · simp only [next, if_pos passed, toNat_add_two_add_two, different,
      passed, not_true_eq_false, and_self]
  · simp only [next, if_neg passed, toNat_add_two, different.symm, passed,
      not_false_eq_true, and_self]

/-- The target of a jump by an offset folds at twelve bits. -/
theorem toNat_offset_target (nnn : Address) (offset : UInt8) :
    ((UInt16.ofNat nnn.val + offset.toUInt16) &&& 0x0FFF).toNat =
      (nnn.val + offset.toNat) % 4096 := by
  have short := nnn.isLt
  have small := offset.toNat_lt
  have sum :
      (UInt16.ofNat nnn.val + offset.toUInt16).toNat =
        nnn.val + offset.toNat := by
    rw [UInt16.toNat_add, UInt16.toNat_ofNat', UInt8.toNat_toUInt16]
    omega
  rw [UInt16.toNat_and, sum]
  exact Nat.and_two_pow_sub_one_eq_mod (nnn.val + offset.toNat) 12

namespace Machine

/-! ## One cycle -/

/--
Whether a counter value lies behind the next word exactly if a test holds,
and on the next word exactly if it fails.
-/
def SkipsExactlyIf (machine : Machine) (next : Nat) (test : Prop) : Prop :=
  (next = (machine.state.counter.toNat + 4) % 2 ^ 16 ↔ test) ∧
    (next = (machine.state.counter.toNat + 2) % 2 ^ 16 ↔ ¬ test)

/-- Where the counter is after a successful cycle, by the word it fetched. -/
structure Steered (machine : Machine) (next : Nat) : Prop where
  ofReturn :
    machine.Fetches 0x00EE →
      ∃ live : machine.state.depth.toNat - 1 < 16,
        0 < machine.state.depth.toNat ∧
          next =
            (machine.state.returns[machine.state.depth.toNat - 1]).toNat
  ofJump :
    ∀ nnn : Address, machine.Fetches (addressWord 0x1 nnn) →
      next = nnn.val
  ofCall :
    ∀ nnn : Address, machine.Fetches (addressWord 0x2 nnn) →
      next = nnn.val
  ofJumpOffset :
    ∀ nnn : Address, machine.Fetches (addressWord 0xB nnn) →
      next =
        (nnn.val + (machine.state.register offsetRegister).toNat) % 4096
  ofByteIs :
    ∀ (x : Register) (kk : UInt8),
      machine.Fetches (xkWord 0x3 x kk.toNat) →
        machine.SkipsExactlyIf next (machine.state.register x = kk)
  ofByteIsNot :
    ∀ (x : Register) (kk : UInt8),
      machine.Fetches (xkWord 0x4 x kk.toNat) →
        machine.SkipsExactlyIf next (machine.state.register x ≠ kk)
  ofSame :
    ∀ x y : Register, machine.Fetches (xyWord 0x5 x y 0x0) →
      machine.SkipsExactlyIf next
        (machine.state.register x = machine.state.register y)
  ofDiffer :
    ∀ x y : Register, machine.Fetches (xyWord 0x9 x y 0x0) →
      machine.SkipsExactlyIf next
        (machine.state.register x ≠ machine.state.register y)
  ofKeyDown :
    ∀ x : Register, machine.Fetches (xkWord 0xE x 0x9E) →
      machine.SkipsExactlyIf next
        (∃ key ∈ machine.keypad.heldKeys,
          (machine.state.register x).toNat = key.val)
  ofKeyUp :
    ∀ x : Register, machine.Fetches (xkWord 0xE x 0xA1) →
      machine.SkipsExactlyIf next
        (¬ ∃ key ∈ machine.keypad.heldKeys,
          (machine.state.register x).toNat = key.val)
  ofOther :
    (∀ word, machine.Fetches word → ¬ SteeringWord word) →
      next = (machine.state.counter.toNat + 2) % 2 ^ 16

variable {machine : Machine} {status : Status}

theorem counter_cycle_of_fetches
    (instruction : Instruction)
    (fetched : machine.Fetches instruction.number)
    (succeeded : machine.cycle.result = .ok status) :
    instruction.execute machine.surroundings machine.state =
        .ok (instruction.stateAfter machine.surroundings machine.state) ∧
      machine.cycle.machine.state.counter =
        instruction.counterAfter machine.surroundings machine.state := by
  have upcoming : machine.upcoming? = some instruction :=
    upcoming?_eq_some_iff_fetches.mpr fetched
  rcases cycle_machine_of_upcoming upcoming with
    ⟨fault, _, failed, _⟩ | ⟨next, execution, _, after⟩
  · rw [succeeded] at failed
    cases failed
  · have effect := Instruction.execute_eq_ok execution
    subst effect
    exact ⟨execution, by rw [after]; rfl⟩

theorem skipsExactlyIf_of_fetches
    (condition : Condition) {test : Prop}
    (fetched : machine.Fetches (Instruction.skip condition).number)
    (succeeded : machine.cycle.result = .ok status)
    (tests :
      condition.holds machine.surroundings.keypad machine.state = true ↔
        test) :
    machine.SkipsExactlyIf machine.cycle.machine.state.counter.toNat
      test := by
  rw [(counter_cycle_of_fetches _ fetched succeeded).2, SkipsExactlyIf,
    ← tests]
  exact toNat_skipped_iff machine.state.counter _

theorem exists_upcoming_of_succeeded
    (running : machine.state.waiting = none)
    (succeeded : machine.cycle.result = .ok status) :
    ∃ instruction, machine.upcoming? = some instruction := by
  cases decoded : Instruction.decode? machine.state.fetch with
  | none =>
      rw [cycle_of_undecodable running decoded] at succeeded
      cases succeeded
  | some instruction =>
      exact ⟨instruction, upcoming?_eq_some_iff.mpr ⟨running, decoded⟩⟩

/-- A successful cycle that waited for no key steers as its word says. -/
theorem steered_of_succeeded
    (running : machine.state.waiting = none)
    (succeeded : machine.cycle.result = .ok status) :
    machine.Steered machine.cycle.machine.state.counter.toNat where
  ofReturn fetched := by
    rcases counter_cycle_of_fetches .ret fetched succeeded with
      ⟨execution, counter⟩
    rcases State.leave_eq_ok_iff.mp execution with ⟨nonempty, live, next⟩
    refine ⟨live, State.depth_pos nonempty, ?_⟩
    have target :=
      congrArg (fun state : State => state.counter.toNat) next
    rw [counter]
    exact target
  ofJump nnn fetched := by
    rw [(counter_cycle_of_fetches (.jump nnn) fetched succeeded).2]
    exact UInt16.toNat_ofNat_of_lt' (nnn.isLt.trans (by decide))
  ofCall nnn fetched := by
    rw [(counter_cycle_of_fetches (.call nnn) fetched succeeded).2]
    exact UInt16.toNat_ofNat_of_lt' (nnn.isLt.trans (by decide))
  ofJumpOffset nnn fetched := by
    rw [(counter_cycle_of_fetches (.jumpOffset nnn) fetched succeeded).2]
    exact toNat_offset_target nnn (machine.state.register offsetRegister)
  ofByteIs x kk fetched :=
    skipsExactlyIf_of_fetches (.byteIs x kk) fetched succeeded beq_iff_eq
  ofByteIsNot x kk fetched :=
    skipsExactlyIf_of_fetches (.byteIsNot x kk) fetched succeeded bne_iff_ne
  ofSame x y fetched :=
    skipsExactlyIf_of_fetches (.same x y) fetched succeeded beq_iff_eq
  ofDiffer x y fetched :=
    skipsExactlyIf_of_fetches (.differ x y) fetched succeeded bne_iff_ne
  ofKeyDown x fetched :=
    skipsExactlyIf_of_fetches (.keyDown x) fetched succeeded
      Keypad.isHeld_eq_true_iff
  ofKeyUp x fetched := by
    apply skipsExactlyIf_of_fetches (.keyUp x) fetched succeeded
    rw [← Keypad.isHeld_eq_true_iff, Condition.holds,
      Bool.not_eq_true', Bool.not_eq_true]
    rfl
  ofOther straight := by
    rcases exists_upcoming_of_succeeded running succeeded with
      ⟨instruction, upcoming⟩
    have fetched : machine.Fetches instruction.number :=
      upcoming?_eq_some_iff_fetches.mp upcoming
    have plain : ¬ SteeringWord instruction.number := straight _ fetched
    rw [(counter_cycle_of_fetches instruction fetched succeeded).2,
      (Instruction.counterAfter_of_not_steering plain).2, toNat_add_two]

/-! ## Opposite skips -/

/-- Whether a word, executed as the word at the counter, skips the next one. -/
def Skips (machine : Machine) (word : Nat) : Prop :=
  ∃ next,
    machine.state.afterWord? machine.surroundings (UInt16.ofNat word) =
        some next ∧
      next.counter.toNat = (machine.state.counter.toNat + 4) % 2 ^ 16

/-- The skip words by their numbers skip as their conditions hold. -/
theorem skips_iff (machine : Machine) (condition : Condition) :
    machine.Skips (Instruction.skip condition).number ↔
      condition.holds machine.surroundings.keypad machine.state = true := by
  have executed :
      machine.state.afterWord? machine.surroundings
          (UInt16.ofNat (Instruction.skip condition).number) = _ :=
    State.afterWord?_encode machine.surroundings rfl
  rw [Skips, executed]
  simp only [Option.some.injEq, exists_eq_left']
  exact (toNat_skipped_iff machine.state.counter _).1

end Machine

/-! ## Straight runs -/

/-- Whether a step neither resets the machine nor fetches a word that steers. -/
def Step.Straight (step : Step) : Prop :=
  step.operation ≠ .reset ∧
    (step.operation = .cycle →
      ∀ word, step.before.Fetches word → ¬ SteeringWord word)

/-- A straight step goes on by two if it executes a word, and else stays. -/
theorem Step.counter_after_of_straight
    {step : Step} (straight : step.Straight) :
    step.after.state.counter =
      if step.instruction?.isSome then step.before.state.counter + 2
      else step.before.state.counter := by
  rcases step with ⟨machine, operation⟩
  rcases straight with ⟨noReset, plain⟩
  cases operation with
  | cycle =>
      change machine.cycle.machine.state.counter =
        if machine.upcoming?.isSome then _ else _
      cases upcoming : machine.upcoming? with
      | none =>
          rcases Machine.cycle_machine_of_upcoming_eq_none upcoming with
            ⟨_, _, after⟩
          rw [after]
          rfl
      | some instruction =>
          have word := plain rfl _
            (Machine.upcoming?_eq_some_iff_fetches.mp upcoming)
          rcases
              @Instruction.counterAfter_of_not_steering instruction
                machine.surroundings machine.state word with
            ⟨sound, onward⟩
          rw [Machine.cycle_of_upcoming upcoming,
            Machine.execute_of_no_fault sound]
          exact onward
  | load program =>
      rcases machine.load_machine program with ⟨memory, loaded⟩
      rw [after, Machine.perform_load_machine, loaded]
      rfl
  | loadFile path contents =>
      rcases machine.loadFile_machine path contents with ⟨memory, loaded⟩
      rw [after, Machine.perform_loadFile_machine, loaded]
      rfl
  | reset => exact (noReset rfl).elim
  | _ => rfl

namespace Machine

/-- A straight run moves the counter by two for every word that it executes. -/
theorem toNat_counter_after_of_straight
    {machine : Machine} {operations : List Operation}
    (straight : ∀ step ∈ machine.trace operations, step.Straight) :
    (machine.after operations).state.counter.toNat =
      (machine.state.counter.toNat +
          2 * (machine.trace operations).countP
            fun step => step.instruction?.isSome) %
        2 ^ 16 := by
  induction operations generalizing machine with
  | nil =>
      have bound := machine.state.counter.toNat_lt
      exact (Nat.mod_eq_of_lt bound).symm
  | cons operation rest ih =>
      have steps := List.forall_mem_cons.mp straight
      have first :
          (machine.perform operation).machine.state.counter =
            if (Step.mk machine operation).instruction?.isSome then
              machine.state.counter + 2
            else machine.state.counter :=
        Step.counter_after_of_straight steps.1
      rw [after_cons, ih steps.2, trace, List.countP_cons, first]
      split
      · rw [toNat_add_two]
        omega
      · rfl

/--
The cycle of a machine that waits for no key reads its word, high byte
first, through folded addresses, and if it succeeds leaves the counter where
`Steered` says.  In the state of any machine a skip and the opposite skip
skip in exactly opposite cases.  Over a run without resets and without words
that steer, the fetched addresses go on by two with every executed word,
whatever else happens in between.
-/
theorem counter_goes_where_words_say (machine : Machine) :
    (∀ status, machine.state.waiting = none →
      machine.cycle.result = .ok status →
        machine.state.fetch.toNat =
            (machine.state.memory.byteAt
                machine.state.counter.toNat).toNat * 256 +
              (machine.state.memory.byteAt
                ((machine.state.counter.toNat + 1) % 2 ^ 16)).toNat ∧
          machine.Steered machine.cycle.machine.state.counter.toNat) ∧
      (∀ (x : Register) (kk : UInt8),
        machine.Skips (xkWord 0x3 x kk.toNat) ↔
          ¬ machine.Skips (xkWord 0x4 x kk.toNat)) ∧
      (∀ x y : Register,
        machine.Skips (xyWord 0x5 x y 0x0) ↔
          ¬ machine.Skips (xyWord 0x9 x y 0x0)) ∧
      (∀ x : Register,
        machine.Skips (xkWord 0xE x 0x9E) ↔
          ¬ machine.Skips (xkWord 0xE x 0xA1)) ∧
      ∀ operations,
        (∀ step ∈ machine.trace operations, step.Straight) →
          (machine.after operations).state.counter.toNat =
            (machine.state.counter.toNat +
                2 * (machine.trace operations).countP
                  fun step => step.instruction?.isSome) %
              2 ^ 16 := by
  refine ⟨?_, ?_, ?_, ?_, fun operations =>
    toNat_counter_after_of_straight⟩
  · intro status running succeeded
    refine ⟨?_, steered_of_succeeded running succeeded⟩
    rw [State.toNat_fetch]
    congr 2
    exact Memory.byteAt_congr (Nat.mod_mod_of_dvd _ (by decide)).symm
  · intro x kk
    have equal := machine.skips_iff (.byteIs x kk)
    have unequal := machine.skips_iff (.byteIsNot x kk)
    refine equal.trans (Iff.trans ?_ (not_congr unequal).symm)
    simp [Condition.holds]
  · intro x y
    have equal := machine.skips_iff (.same x y)
    have unequal := machine.skips_iff (.differ x y)
    refine equal.trans (Iff.trans ?_ (not_congr unequal).symm)
    simp [Condition.holds]
  · intro x
    have down := machine.skips_iff (.keyDown x)
    have up := machine.skips_iff (.keyUp x)
    refine down.trans (Iff.trans ?_ (not_congr up).symm)
    simp [Condition.holds]

/--
A machine on the last of all addresses, where it finds a word with the given
high byte and the low byte `F0`.
-/
def withLastByte (high : UInt8) : Machine :=
  { atLastAddress with
    state :=
      { atLastAddress.state.setRegister (.numbered 0) 0xF0 with
        memory := atLastAddress.state.memory.write 0xFFF high } }

/--
There the skip over the word after it goes around to address three, and a
word that does not steer goes on to address one.
-/
theorem counter_goes_around_from_last_address :
    ((withLastByte 0x30).state.waiting = none ∧
        (withLastByte 0x30).cycle.result = .ok .running ∧
        (withLastByte 0x30).Fetches (xkWord 0x3 0 0xF0) ∧
        (withLastByte 0x30).cycle.machine.state.counter.toNat = 3) ∧
      (∀ step ∈ (withLastByte 0x60).trace [.cycle, .countDown],
          step.Straight) ∧
        ((withLastByte 0x60).after [.cycle, .countDown]).state.counter.toNat =
          1 := by
  constructor
  · have running : (withLastByte 0x30).state.waiting = none := rfl
    have fetched : (withLastByte 0x30).Fetches (xkWord 0x3 0 0xF0) :=
      ⟨running, by decide +kernel⟩
    have upcoming :
        (withLastByte 0x30).upcoming? = some (.skip (.byteIs 0 0xF0)) :=
      upcoming?_eq_some_iff_fetches.mpr fetched
    have succeeded : (withLastByte 0x30).cycle.result = .ok .running :=
      result_cycle_of_no_fault upcoming rfl (by simp)
    have steered :=
      ((counter_goes_where_words_say (withLastByte 0x30)).1 .running running
        succeeded).2
    exact
      ⟨running, succeeded, fetched,
        (steered.ofByteIs 0 0xF0 fetched).1.mpr (by decide)⟩
  · have fetched : (withLastByte 0x60).Fetches (xkWord 0x6 0 0xF0) :=
      ⟨rfl, by decide +kernel⟩
    have upcoming :
        (withLastByte 0x60).upcoming? = some (.setByte 0 0xF0) :=
      upcoming?_eq_some_iff_fetches.mpr fetched
    have steps :
        ∀ step ∈ (withLastByte 0x60).trace [.cycle, .countDown],
          step.Straight := by
      simp only [trace, List.forall_mem_cons]
      refine ⟨⟨by simp, ?_⟩, ⟨by simp, by simp⟩, by simp⟩
      rintro - word ⟨-, rfl⟩ steers
      rw [fetched.2] at steers
      generalize found : xkWord 0x6 0 0xF0 = word at steers
      cases steers with
      | byteIs _ kk | byteIsNot _ kk =>
          have small := kk.toNat_lt
          simp only [xkWord] at found
          omega
      | _ =>
          simp only [xkWord, xyWord, addressWord] at found
          omega
    refine ⟨steps, ?_⟩
    rw [(counter_goes_where_words_say (withLastByte 0x60)).2.2.2.2 _ steps]
    simp only [trace, List.countP_cons, Step.instruction?, upcoming]
    decide

end Machine

end ChipEight
