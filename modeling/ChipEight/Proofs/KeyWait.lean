import ChipEight.Proofs.Effect
import ChipEight.Proofs.InstructionTable
import ChipEight.Proofs.Run
import Mathlib.Data.List.Induction
import Mathlib.Order.Bounds.Basic

/-!
# Waiting for a key

A machine that executed `Fx0A` is parked until a cycle finds a key held.
Until then its cycles do nothing at all, so whatever the host does in
between shows only in the keypad and in the timers.  The cycle that finds
keys puts the lowest one into the awaited register and fetches nothing; the
instruction after the wait belongs to the cycle after it.
`Machine.key_wait_protocol` states this for every machine and every order of
cycles, timer counts and key events.
-/

namespace ChipEight

/-! ## The lowest held key -/

namespace Keypad

/-- The keys that are held. -/
def heldKeys (keypad : Keypad) : Set Key :=
  {key | keypad.isHeld (UInt8.ofNat key.val) = true}

variable {keypad : Keypad}

theorem mem_heldKeys_iff {key : Key} :
    key ∈ keypad.heldKeys ↔ key ∈ keypad.pressed :=
  mem_pressed.symm

theorem pairwise_pressed (keypad : Keypad) :
    keypad.pressed.Pairwise fun lower higher => lower < higher :=
  (List.pairwise_lt_finRange 16).filter _

/-- The keys are listed in ascending order, so the lowest comes first. -/
theorem lowest?_eq_some_iff {key : Key} :
    keypad.lowest? = some key ↔ IsLeast keypad.heldKeys key := by
  have sorted := keypad.pairwise_pressed
  cases listed : keypad.pressed with
  | nil =>
      rw [lowest?, listed]
      constructor
      · intro found
        cases found
      · intro least
        have held := mem_heldKeys_iff.mp least.1
        rw [listed] at held
        cases held
  | cons first rest =>
      rw [listed, List.pairwise_cons] at sorted
      rw [lowest?, listed, List.head?_cons, Option.some_inj]
      have held : first ∈ keypad.heldKeys := by
        rw [mem_heldKeys_iff, listed]
        exact List.mem_cons_self
      have least : IsLeast keypad.heldKeys first := by
        refine ⟨held, ?_⟩
        intro other otherHeld
        rw [mem_heldKeys_iff, listed] at otherHeld
        rcases List.mem_cons.mp otherHeld with rfl | later
        · exact Fin.le_refl other
        · exact Fin.le_of_lt (sorted.1 other later)
      constructor
      · rintro rfl
        exact least
      · intro keyLeast
        exact Fin.le_antisymm (least.2 keyLeast.1) (keyLeast.2 held)

theorem lowest?_eq_none_iff_heldKeys :
    keypad.lowest? = none ↔ keypad.heldKeys = ∅ := by
  simp only [lowest?, List.head?_eq_none_iff, List.eq_nil_iff_forall_not_mem,
    Set.eq_empty_iff_forall_notMem, mem_heldKeys_iff]

theorem exists_isLeast (held : keypad.heldKeys.Nonempty) :
    ∃ key, IsLeast keypad.heldKeys key := by
  cases lowest : keypad.lowest? with
  | none =>
      rw [lowest?_eq_none_iff_heldKeys.mp lowest] at held
      exact (Set.not_nonempty_empty held).elim
  | some key => exact ⟨key, lowest?_eq_some_iff.mp lowest⟩

theorem eq_of_isHeld_eq
    {first second : Keypad}
    (agree : ∀ code, first.isHeld code = second.isHeld code) :
    first = second := by
  rcases first with ⟨first⟩
  rcases second with ⟨second⟩
  congr
  ext place bound
  have code := agree (UInt8.ofNat place)
  have small : place % 256 = place := by omega
  simpa [isHeld, small, bound] using code

/-- Whether two keypads agree on every key but the one with this code. -/
def AgreeOff (code : UInt8) (first second : Keypad) : Prop :=
  ∀ other, other ≠ code → first.isHeld other = second.isHeld other

theorem agreeOff_press (code : UInt8) (keypad : Keypad) :
    AgreeOff code (keypad.press code) keypad := by
  intro other different
  rw [press, isHeld_record, if_neg]
  rintro ⟨same, _⟩
  exact different same.symm

/-- Releasing a key forgets whether it was held. -/
theorem AgreeOff.release_eq
    {code : UInt8} {first second : Keypad}
    (agree : AgreeOff code first second) :
    first.release code = second.release code := by
  apply eq_of_isHeld_eq
  intro other
  simp only [release, isHeld_record]
  by_cases same : code = other
  · subst same
    by_cases inRange : code.toNat < 16
    · simp [inRange]
    · simp [isHeld, inRange]
  · simpa [same] using agree other (Ne.symm same)

theorem release_eq_self
    {code : UInt8}
    (up : keypad.isHeld code = false) :
    keypad.release code = keypad := by
  apply eq_of_isHeld_eq
  intro other
  rw [release, isHeld_record]
  split
  case isTrue pressed =>
    rw [← pressed.1, up]
  case isFalse => rfl

end Keypad

/-! ## Key events between cycles -/

/--
Whether an operation leaves a program to itself, as cycles, timer counts and
key events do; loads and resets interfere with it.
-/
def Operation.Continues : Operation → Prop
  | .load _ | .loadFile _ _ | .reset => False
  | .cycle | .countDown | .press _ | .release _ | .releaseAll => True

/-- What an operation makes of the keypad. -/
def Operation.onKeypad (keypad : Keypad) : Operation → Keypad
  | .press code => keypad.press code
  | .release code => keypad.release code
  | .releaseAll => keypad.releaseAll
  | .cycle | .countDown | .load _ | .loadFile _ _ | .reset => keypad

theorem Operation.agreeOff_onKeypad
    {code : UInt8} {first second : Keypad}
    (agree : Keypad.AgreeOff code first second)
    (operation : Operation) :
    Keypad.AgreeOff code (operation.onKeypad first)
      (operation.onKeypad second) := by
  intro other different
  cases operation with
  | press changed | release changed =>
      simp only [onKeypad, Keypad.press, Keypad.release,
        Keypad.isHeld_record, agree other different]
  | releaseAll => rfl
  | _ => exact agree other different

namespace Machine

variable {machine : Machine}

/-- Between cycles nothing depends on the keypad but the keypad. -/
theorem perform_of_keypad
    {operation : Operation}
    (noCycle : operation ≠ .cycle)
    (machine : Machine) (keypad : Keypad) :
    (({ machine with keypad := keypad } : Machine).perform
        operation).machine =
      { (machine.perform operation).machine with
        keypad := operation.onKeypad keypad } := by
  cases operation with
  | cycle => exact (noCycle rfl).elim
  | load program =>
      simp only [perform_load_machine, load, Operation.onKeypad]
      cases machine.state.load program <;> rfl
  | loadFile path contents =>
      cases contents with
      | none => rfl
      | some program =>
          simp only [perform_loadFile_machine, loadFile, load,
            Operation.onKeypad]
          cases machine.state.load program <;> rfl
  | _ => rfl

theorem after_of_keypad
    {operations : List Operation}
    (noCycle : ∀ operation ∈ operations, operation ≠ .cycle)
    (machine : Machine) (keypad : Keypad) :
    ({ machine with keypad := keypad } : Machine).after operations =
      { machine.after operations with
        keypad := operations.foldl Operation.onKeypad keypad } := by
  induction operations generalizing machine keypad with
  | nil => rfl
  | cons operation rest ih =>
      rcases List.forall_mem_cons.mp noCycle with ⟨first, others⟩
      rw [after_cons, perform_of_keypad first, ih others]
      rfl

theorem agreeOff_foldl_onKeypad
    {code : UInt8} {first second : Keypad}
    (agree : Keypad.AgreeOff code first second)
    (operations : List Operation) :
    Keypad.AgreeOff code (operations.foldl Operation.onKeypad first)
      (operations.foldl Operation.onKeypad second) := by
  induction operations generalizing first second with
  | nil => exact agree
  | cons operation rest ih =>
      exact ih (operation.agreeOff_onKeypad agree)

/-- A key that goes down and up again between two cycles leaves no trace. -/
theorem after_press_release
    {code : UInt8} {between : List Operation}
    (noCycle : ∀ operation ∈ between, operation ≠ .cycle)
    (up : (machine.after between).keypad.isHeld code = false) :
    machine.after (.press code :: between ++ [.release code]) =
      machine.after between := by
  have plain := after_of_keypad noCycle machine machine.keypad
  have pressed :=
    after_of_keypad noCycle machine (machine.keypad.press code)
  have released :
      (between.foldl Operation.onKeypad
          (machine.keypad.press code)).release code =
        (machine.after between).keypad := by
    rw [(agreeOff_foldl_onKeypad (Keypad.agreeOff_press code machine.keypad)
      between).release_eq]
    rw [show (machine.after between).keypad =
        between.foldl Operation.onKeypad machine.keypad from
      congrArg Machine.keypad plain] at up ⊢
    exact Keypad.release_eq_self up
  have steps :
      machine.after (.press code :: between ++ [.release code]) =
        (({ machine with keypad := machine.keypad.press code } :
          Machine).after between).release code := by
    rw [after_append]
    rfl
  rw [steps, pressed, release]
  simp only [released]

/-! ## Parked machines -/

/-- Whether a machine differs from an earlier one at most in held keys and timers. -/
def FrozenSince (machine earlier : Machine) : Prop :=
  ∃ keypad delay sound,
    machine =
      { earlier with
        state := { earlier.state with delay := delay, sound := sound }
        keypad := keypad }

theorem FrozenSince.refl (machine : Machine) : machine.FrozenSince machine :=
  ⟨machine.keypad, machine.state.delay, machine.state.sound, rfl⟩

theorem FrozenSince.waiting_eq
    {earlier : Machine}
    (frozen : machine.FrozenSince earlier) :
    machine.state.waiting = earlier.state.waiting := by
  rcases frozen with ⟨_, _, _, rfl⟩
  rfl

theorem FrozenSince.counter_eq
    {earlier : Machine}
    (frozen : machine.FrozenSince earlier) :
    machine.state.counter = earlier.state.counter := by
  rcases frozen with ⟨_, _, _, rfl⟩
  rfl

theorem FrozenSince.fetch_eq
    {earlier : Machine}
    (frozen : machine.FrozenSince earlier) :
    machine.state.fetch = earlier.state.fetch := by
  rcases frozen with ⟨_, _, _, rfl⟩
  rfl

theorem FrozenSince.perform
    {earlier : Machine} {operation : Operation}
    (frozen : machine.FrozenSince earlier)
    (continues : operation.Continues)
    (still : operation = .cycle → machine.cycle.machine = machine) :
    (machine.perform operation).machine.FrozenSince earlier := by
  cases operation with
  | cycle =>
      rw [perform_cycle_machine, still rfl]
      exact frozen
  | load program => exact continues.elim
  | loadFile path contents => exact continues.elim
  | reset => exact continues.elim
  | _ =>
      rcases frozen with ⟨keypad, delay, sound, rfl⟩
      exact ⟨_, _, _, rfl⟩

/-- A run whose cycles do nothing freezes the machine at each of its steps. -/
theorem frozenSince_run
    {operations : List Operation}
    (continues : ∀ operation ∈ operations, operation.Continues)
    (still :
      ∀ step ∈ machine.trace operations,
        step.operation = .cycle →
        step.before.FrozenSince machine →
          step.before.cycle.machine = step.before) :
    (∀ step ∈ machine.trace operations, step.before.FrozenSince machine) ∧
      (machine.after operations).FrozenSince machine := by
  induction operations using List.reverseRecOn with
  | nil => exact ⟨by simp, .refl machine⟩
  | append_singleton operations operation ih =>
      rw [trace_concat] at still ⊢
      rcases List.forall_mem_append.mp continues with ⟨earlier, last⟩
      rcases List.forall_mem_append.mp still with ⟨stillEarlier, stillLast⟩
      rcases ih earlier stillEarlier with ⟨steps, frozen⟩
      constructor
      · intro step member
        rcases List.mem_append.mp member with before | atEnd
        · exact steps step before
        · rw [List.mem_singleton.mp atEnd]
          exact frozen
      · rw [after_append]
        apply frozen.perform (List.forall_mem_singleton.mp last)
        intro isCycle
        exact List.forall_mem_singleton.mp stillLast isCycle frozen

theorem operation_mem_of_mem_trace
    {operations : List Operation} {step : Step}
    (member : step ∈ machine.trace operations) :
    step.operation ∈ operations := by
  induction operations generalizing machine with
  | nil => cases member
  | cons operation rest ih =>
      rcases List.mem_cons.mp member with rfl | later
      · exact List.mem_cons_self
      · exact List.mem_cons_of_mem operation (ih later)

/-- A cycle that finds no key on a parked machine does nothing. -/
theorem cycle_of_no_key
    {register : UInt8}
    (waiting : machine.state.waiting = some register)
    (silent : machine.keypad.heldKeys = ∅) :
    machine.cycle = ⟨.ok (.awaitingKey register), machine, []⟩ := by
  have none := Keypad.lowest?_eq_none_iff_heldKeys.mpr silent
  rw [cycle_of_waiting waiting, none]

/-- A cycle that finds keys on a parked machine takes the lowest one. -/
theorem cycle_of_least_key
    {target : Register} {key : Key}
    (waiting : machine.state.waiting = some (UInt8.ofNat target.val))
    (least : IsLeast machine.keypad.heldKeys key) :
    machine.cycle =
      ⟨.ok .running, machine.resumed target key,
        [.resuming key (UInt8.ofNat target.val)]⟩ := by
  have lowest := Keypad.lowest?_eq_some_iff.mpr least
  have bound := target.isLt
  have small : (UInt8.ofNat target.val).toNat = target.val := by
    rw [UInt8.toNat_ofNat']
    omega
  rw [cycle_of_waiting waiting, lowest]
  simp only [resume, small, bound, dif_pos, Fin.eta, resumed]

/-- A parked machine stays parked and frozen until a cycle finds a key. -/
theorem parked_run
    {register : UInt8} {operations : List Operation}
    (waiting : machine.state.waiting = some register)
    (continues : ∀ operation ∈ operations, operation.Continues)
    (silent :
      ∀ step ∈ machine.trace operations,
        step.operation = .cycle → step.before.keypad.heldKeys = ∅) :
    (∀ step ∈ machine.trace operations,
        step.operation = .cycle →
          step.before.cycle =
            ⟨.ok (.awaitingKey register), step.before, []⟩) ∧
      (machine.after operations).FrozenSince machine := by
  have still :
      ∀ step ∈ machine.trace operations,
        step.operation = .cycle →
        step.before.FrozenSince machine →
          step.before.cycle =
            ⟨.ok (.awaitingKey register), step.before, []⟩ := by
    intro step member isCycle frozen
    exact cycle_of_no_key (frozen.waiting_eq.trans waiting)
      (silent step member isCycle)
  rcases frozenSince_run continues (fun step member isCycle frozen =>
      congrArg Outcome.machine (still step member isCycle frozen)) with
    ⟨steps, frozen⟩
  refine ⟨?_, frozen⟩
  intro step member isCycle
  exact still step member isCycle (steps step member)

/-- Without cycles a run freezes the machine. -/
theorem frozenSince_of_noCycle
    {operations : List Operation}
    (quiet :
      ∀ operation ∈ operations, operation.Continues ∧ operation ≠ .cycle) :
    (machine.after operations).FrozenSince machine := by
  refine (frozenSince_run (fun operation member => (quiet operation member).1)
    ?_).2
  intro step member isCycle
  exact ((quiet _ (operation_mem_of_mem_trace member)).2 isCycle).elim

theorem cycle_of_upcoming_awaitKey
    {target : Register}
    (upcoming : machine.upcoming? = some (.awaitKey target)) :
    machine.cycle.result = .ok (.awaitingKey (UInt8.ofNat target.val)) ∧
      machine.cycle.machine =
        { machine with
          state :=
            { machine.state with
              counter := machine.state.counter + 2
              waiting := some (UInt8.ofNat target.val) } } := by
  rw [cycle_of_upcoming upcoming]
  exact ⟨rfl, rfl⟩

/-- What a successful cycle answers is the status that it leaves. -/
theorem status_of_cycle
    {status : Status}
    (succeeded : machine.cycle.result = .ok status) :
    status = machine.cycle.machine.status := by
  cases machine.course with
  | parked register waiting idle equation =>
      rw [equation] at succeeded ⊢
      rw [Machine.status, waiting]
      exact (Except.ok.inj succeeded).symm
  | resumed register key inRange waiting held equation =>
      rw [equation] at succeeded ⊢
      exact (Except.ok.inj succeeded).symm
  | executed instruction state upcoming success equation =>
      rw [equation] at succeeded ⊢
      exact (Except.ok.inj succeeded).symm
  | stranded _ _ _ _ _ equation | unknown _ _ equation
  | failed _ _ _ _ equation =>
      rw [equation] at succeeded
      cases succeeded

/-! ## The protocol -/

/--
A machine that executes `Fx0A` stays as it is, keypad and timers apart,
until a cycle finds a key held; that cycle only stores the lowest held key,
and the next one runs the opcode after the wait.  A key that is already held
counts, one that goes down and up between two cycles does not, and what a
cycle answers is always the status that it leaves.
-/
theorem key_wait_protocol (machine : Machine) :
    (∀ target : Register,
      machine.state.waiting = none →
      machine.state.fetch.toNat = 0xF00A + 256 * target.val →
      let number := UInt8.ofNat target.val
      let parked := machine.cycle.machine
      machine.cycle.result = .ok (.awaitingKey number) ∧
        parked =
          { machine with
            state :=
              { machine.state with
                counter := machine.state.counter + 2
                waiting := some number } } ∧
        (∀ key,
          IsLeast machine.keypad.heldKeys key →
            parked.cycle.result = .ok .running ∧
              parked.cycle.machine.state.register target =
                UInt8.ofNat key.val) ∧
        ∀ operations,
          (∀ operation ∈ operations, operation.Continues) →
          (∀ step ∈ parked.trace operations,
            step.operation = .cycle → step.before.keypad.heldKeys = ∅) →
          let late := parked.after operations
          (∀ step ∈ parked.trace operations,
            step.operation = .cycle →
              step.before.cycle =
                ⟨.ok (.awaitingKey number), step.before, []⟩) ∧
            late =
              { parked with
                state :=
                  { parked.state with
                    delay := late.state.delay
                    sound := late.state.sound }
                keypad := late.keypad } ∧
            (late.keypad.heldKeys.Nonempty →
              ∃ key,
                IsLeast late.keypad.heldKeys key ∧
                  late.cycle =
                    ⟨.ok .running,
                      { late with
                        state :=
                          { late.state.setRegister target
                              (UInt8.ofNat key.val) with
                            waiting := none } },
                      [.resuming key number]⟩ ∧
                  ∀ between,
                    (∀ operation ∈ between,
                      operation.Continues ∧ operation ≠ .cycle) →
                    let next := late.cycle.machine.after between
                    let address := machine.state.counter + 2
                    let opcode :=
                      Opcode.ofBytes (machine.state.memory.read address)
                        (machine.state.memory.read (address + 1))
                    (∀ instruction,
                      Instruction.decode? opcode = some instruction →
                        next.cycle = next.execute instruction) ∧
                      (Instruction.decode? opcode = none →
                        next.cycle =
                          ⟨.error (.unknownInstruction opcode address),
                            next, []⟩))) ∧
      (∀ code between,
        (∀ operation ∈ between, operation ≠ .cycle) →
        (machine.after between).keypad.isHeld code = false →
          machine.after (.press code :: between ++ [.release code]) =
            machine.after between) ∧
      ∀ status,
        machine.cycle.result = .ok status →
          status = machine.cycle.machine.status := by
  refine ⟨?_, fun _ _ => after_press_release, fun _ => status_of_cycle⟩
  intro target running opcode number parked
  have upcoming : machine.upcoming? = some (.awaitKey target) :=
    upcoming?_eq_some_iff.mpr
      ⟨running, Instruction.decode?_eq_awaitKey_iff.mpr opcode⟩
  rcases cycle_of_upcoming_awaitKey upcoming with ⟨answer, after⟩
  have waiting : parked.state.waiting = some number := by
    simp only [parked, after, number]
  refine ⟨answer, after, ?_, ?_⟩
  · intro key least
    have taken : IsLeast parked.keypad.heldKeys key := by
      simpa only [parked, after] using least
    rw [cycle_of_least_key waiting taken]
    exact ⟨rfl, (State.register_setRegister _ _ _ _).trans (if_pos rfl)⟩
  · intro operations continues silent late
    rcases parked_run waiting continues silent with ⟨still, frozen⟩
    refine ⟨still, ?_, ?_⟩
    · rcases frozen with ⟨keypad, delay, sound, equation⟩
      simp only [late, equation]
    · intro held
      rcases Keypad.exists_isLeast held with ⟨key, least⟩
      have taking :=
        cycle_of_least_key (frozen.waiting_eq.trans waiting) least
      refine ⟨key, least, taking, ?_⟩
      intro between quiet next address word
      have resumed : late.cycle.machine = late.resumed target key :=
        congrArg Outcome.machine taking
      have kept : next.FrozenSince (late.resumed target key) := by
        simp only [next, resumed]
        exact frozenSince_of_noCycle quiet
      have ready : next.state.waiting = none := kept.waiting_eq
      have placed : next.state.counter = address := by
        calc
          next.state.counter = late.state.counter := kept.counter_eq
          _ = parked.state.counter := frozen.counter_eq
          _ = address := by simp only [parked, after, address]
      have fetched : next.state.fetch = word := by
        calc
          next.state.fetch = late.state.fetch := kept.fetch_eq
          _ = parked.state.fetch := frozen.fetch_eq
          _ = word := by simp only [parked, after, State.fetch, word, address]
      constructor
      · intro instruction decoded
        rw [← fetched] at decoded
        exact cycle_of_upcoming (upcoming?_eq_some_iff.mpr ⟨ready, decoded⟩)
      · intro undecodable
        rw [← fetched] at undecodable
        rw [cycle_of_undecodable ready undecodable, fetched, placed]

/-- A machine about to wait for a key into its register three. -/
def beforeKeyWait : Machine :=
  ((create .standard (.cycling #[])).load #[0xF3, 0x0A, 0x64, 0x01]).machine

/-- Of two keys that go down during the wait, the lower one is taken. -/
theorem key_wait_takes_lower_key :
    let parked := beforeKeyWait.cycle.machine
    let late :=
      parked.after [.cycle, .countDown, .press 0xB, .press 0x42, .press 0x9]
    beforeKeyWait.state.fetch.toNat = 0xF30A ∧
      IsLeast late.keypad.heldKeys 0x9 ∧
      late.cycle.result = .ok .running ∧
      late.cycle.machine.state.register 3 = 0x9 ∧
      late.cycle.machine.cycle.machine.state.register 4 = 0x1 := by
  intro parked late
  have opcode : beforeKeyWait.state.fetch.toNat = 0xF30A := by
    decide +kernel
  rcases (key_wait_protocol beforeKeyWait).1 3 rfl opcode with
    ⟨_, _, _, run⟩
  have silent : parked.keypad.heldKeys = ∅ :=
    Keypad.lowest?_eq_none_iff_heldKeys.mp (by decide +kernel)
  have least : IsLeast late.keypad.heldKeys 0x9 :=
    Keypad.lowest?_eq_some_iff.mp (by decide +kernel)
  rcases (run [.cycle, .countDown, .press 0xB, .press 0x42, .press 0x9]
      (by simp [Operation.Continues]) (by simp [trace, parked, silent])).2.2
      ⟨_, least.1⟩ with
    ⟨key, keyLeast, taken, _⟩
  have lower : key = 0x9 :=
    Fin.le_antisymm (keyLeast.2 least.1) (least.2 keyLeast.1)
  subst lower
  refine ⟨opcode, least, ?_, ?_, ?_⟩
  · rw [taken]
  · rw [taken]
    decide +kernel
  · decide +kernel

end Machine

end ChipEight
