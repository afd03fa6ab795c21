import ChipEight.Proofs.InstructionTable
import ChipEight.Proofs.Lockstep
import ChipEight.Random.ChaCha
import Mathlib.Data.List.Induction

/-!
# Accounting for random words

Every executed `Cxkk` uses the next word of the random stream and nothing
else uses any, so the words in use are known from the run alone.  Machines
whose streams agree in the low bytes of their first words therefore respond
the same until one has used these words
(`Session.random_words_are_accounted`).
-/

namespace ChipEight

namespace Machine

variable {machine : Machine}

/-- Whether the next cycle executes `Cxkk`. -/
def rolls (machine : Machine) : Bool :=
  decide
    (machine.state.waiting = none ∧ machine.state.fetch.toNat / 4096 = 0xC)

theorem upcoming?_of_rolls (rolls : machine.rolls = true) :
    machine.upcoming? =
      some
        (.random (Opcode.x machine.state.fetch)
          (Opcode.kk machine.state.fetch)) := by
  rcases of_decide_eq_true rolls with ⟨running, family⟩
  exact upcoming?_eq_some_iff.mpr
    ⟨running, Instruction.decode?_of_family_random family⟩

theorem rolls_of_upcoming?
    {target : Register} {mask : UInt8}
    (upcoming : machine.upcoming? = some (.random target mask)) :
    machine.rolls = true := by
  rcases upcoming?_eq_some_iff.mp upcoming with ⟨running, decoded⟩
  exact decide_eq_true
    ⟨running, Instruction.family_of_decode?_random decoded⟩

/-- A word of the stream is used by exactly the cycles that fetch `Cxkk`. -/
theorem any_drawsRandom_upcoming? (machine : Machine) :
    machine.upcoming?.any Instruction.drawsRandom = machine.rolls := by
  cases rolls : machine.rolls with
  | true =>
      rw [upcoming?_of_rolls rolls]
      rfl
  | false =>
      rcases upcoming : machine.upcoming? with _ | instruction
      · rfl
      · cases instruction with
        | random target mask =>
            rw [rolls_of_upcoming? upcoming] at rolls
            cases rolls
        | _ => rfl

/-- A cycle that executes `Cxkk` masks the low byte of the next word. -/
theorem register_cycle_of_rolls (rolls : machine.rolls = true) :
    machine.cycle.machine.state.register (Opcode.x machine.state.fetch) =
      machine.random.byte &&& Opcode.kk machine.state.fetch := by
  rw [cycle_of_upcoming (upcoming?_of_rolls rolls)]
  exact (State.register_setRegister _ _ _ _).trans (if_pos rfl)

end Machine

namespace Step

/-- Whether a step executes `Cxkk`. -/
def rolls (step : Step) : Bool :=
  decide (step.operation = .cycle) && step.before.rolls

/-- A step uses one word to execute `Cxkk` and none for anything else. -/
theorem random_after (step : Step) :
    step.after.random =
      if step.rolls then step.before.random.next else step.before.random := by
  rcases step with ⟨machine, operation⟩
  by_cases isCycle : operation = .cycle
  · subst isCycle
    rw [after, Machine.perform_cycle_machine, Machine.random_cycle,
      Machine.any_drawsRandom_upcoming?]
    rfl
  · rcases machine.perform_of_noCycle isCycle with ⟨state, performed⟩
    rw [after, performed]
    simp [rolls, isCycle]

end Step

namespace Machine

variable {machine first second : Machine}

/-- A run uses one word for each `Cxkk` that it executes. -/
theorem random_after_run (machine : Machine) (operations : List Operation) :
    (machine.after operations).random =
      ⟨machine.random.words,
        machine.random.position +
          (machine.trace operations).countP Step.rolls⟩ := by
  induction operations using List.reverseRecOn with
  | nil => rfl
  | append_singleton operations operation ih =>
      have last := Step.random_after ⟨machine.after operations, operation⟩
      rw [after_append, trace_concat, List.countP_append]
      refine last.trans ?_
      rw [ih]
      cases rolls : Step.rolls ⟨machine.after operations, operation⟩ with
      | true => simp [RandomStream.next, rolls, Nat.add_assoc]
      | false => simp [rolls]

/-- A step of a run finds used what the steps before it used. -/
theorem random_of_trace_eq_append_cons
    {operations : List Operation} {earlier later : List Step} {step : Step}
    (steps : machine.trace operations = earlier ++ step :: later) :
    step.before.random =
      ⟨machine.random.words,
        machine.random.position + earlier.countP Step.rolls⟩ := by
  rcases trace_eq_append_cons steps with ⟨before, traced, met⟩
  rw [met, random_after_run, traced]

/-- The same machine with another random sequence, as far into it. -/
def withWords (machine : Machine) (words : Nat → UInt32) : Machine :=
  { machine with random := { machine.random with words := words } }

theorem eq_withWords_iff {words : Nat → UInt32} :
    second = first.withWords words ↔
      first.state = second.state ∧ first.keypad = second.keypad ∧
        first.config = second.config ∧
        second.random = { first.random with words := words } := by
  rcases first with ⟨state, keypad, config, random⟩
  rcases second with ⟨state', keypad', config', random'⟩
  simp only [withWords, mk.injEq]
  grind

/-- With another sequence a cycle does the same unless it uses another byte. -/
theorem agree_cycle_withWords
    {words : Nat → UInt32}
    (related : second = first.withWords words)
    (sameByte :
      ¬ (first.rolls = true ∧ first.random.byte ≠ second.random.byte)) :
    first.cycle.Agree (fun first second => second = first.withWords words)
      second.cycle := by
  rcases eq_withWords_iff.mp related with ⟨states, keypads, configs, randoms⟩
  have agree :=
    cycle_congr states (fun _ => by rw [keypads])
      fun instruction upcoming => by
        apply Instruction.execute_congr
        · rintro target mask rfl
          by_contra different
          exact sameByte ⟨rolls_of_upcoming? upcoming, different⟩
        · intro register _
          rw [surroundings, surroundings, keypads]
        · intro column row height _
          rw [surroundings, surroundings, configs]
  refine ⟨agree.result, agree.events, eq_withWords_iff.mpr ⟨agree.machine, ?_⟩⟩
  rw [keypad_cycle, keypad_cycle, config_cycle, config_cycle, random_cycle,
    random_cycle, upcoming?_congr states, randoms]
  refine ⟨keypads, configs, ?_⟩
  split <;> rfl

end Machine

/-- Machines with two random sequences, until a different byte is used. -/
def wordsCoupling (words : Nat → UInt32) : Coupling where
  Related first second := second = first.withWords words
  Parts first second :=
    first.rolls = true ∧ first.random.byte ≠ second.random.byte
  cycle := Machine.agree_cycle_withWords
  perform := by
    rintro first second operation rfl noCycle
    exact Machine.agree_perform_of_noCycle rfl noCycle fun _ => rfl
  picture := by
    rintro first second rfl
    rfl

/--
Machines stay together while the words that they use have the same low bytes.
Each draw of the first operation moves the stream on by one word and leaves
one draw less to come.
-/
theorem together_withWords
    {first second : Machine} {operations : List Operation}
    {words : Nat → UInt32} {count : Nat}
    (related : second = first.withWords words)
    (enough :
      first.random.position + (first.trace operations).countP Step.rolls ≤
        count)
    (sameBytes :
      ∀ index < count,
        (first.random.words index).toUInt8 = (words index).toUInt8) :
    (wordsCoupling words).Together first second operations := by
  induction operations generalizing first second with
  | nil => simp [Coupling.Together]
  | cons operation rest ih =>
      have together :
          operation = .cycle → ¬ (wordsCoupling words).Parts first second := by
        rintro rfl ⟨rolls, different⟩
        have inUse : first.random.position < count := by
          simp only [Machine.trace, Step.rolls, rolls, decide_true,
            Bool.and_self, List.countP_cons_of_pos] at enough
          omega
        subst related
        exact different (sameBytes _ inUse)
      have agree :
          (first.perform operation).Agree (wordsCoupling words).Related
            (second.perform operation) :=
        Coupling.agree_perform related together
      have used := first.random_after_run [operation]
      rw [Machine.after_cons, Machine.after_nil] at used
      refine Coupling.together_cons.mpr ⟨together, ih agree.machine ?_ ?_⟩
      · rw [Machine.trace, List.countP_cons] at enough
        rw [used]
        simp only [Machine.trace, List.countP_cons, List.countP_nil]
        omega
      · rw [used]
        exact sameBytes

/-! ## Sessions with two random sequences -/

/-- The same response on a machine with another random sequence. -/
def Response.withWords (response : Response) (words : Nat → UInt32) : Response :=
  { response with
    session :=
      { response.session with
        machine := response.session.machine.withWords words } }

theorem Response.eq_withWords_of_agree
    {words : Nat → UInt32} {first second : Response}
    (agree : first.Agree (wordsCoupling words).Related second) :
    first.withWords words = second := by
  rcases first with ⟨result, ⟨machine, pacer⟩, requests, events⟩
  rcases second with ⟨result', ⟨machine', pacer'⟩, requests', events'⟩
  rcases agree with ⟨results, pacers, machines, asked, reported⟩
  dsimp only at results pacers machines asked reported
  subst results pacers machines asked reported
  rfl

namespace Session

/-- Sessions whose words in use have the same low bytes respond the same. -/
theorem responses_withWords
    {session other : Session} {actions : List Action}
    {words : Nat → UInt32} {count : Nat}
    (pacers : session.pacer = other.pacer)
    (related : other.machine = session.machine.withWords words)
    (enough :
      session.machine.random.position +
          (session.machine.trace (session.history actions)).countP Step.rolls ≤
        count)
    (sameBytes :
      ∀ index < count,
        (session.machine.random.words index).toUInt8 =
          (words index).toUInt8) :
    other.responses actions =
      (session.responses actions).map (Response.withWords · words) := by
  have agree :
      List.Forall₂ (Response.Agree (wordsCoupling words).Related)
        (session.responses actions) (other.responses actions) :=
    ((wordsCoupling words).run pacers related
      (together_withWords related enough sameBytes)).2
  symm
  rw [← List.forall₂_eq_eq_eq, List.forall₂_map_left_iff]
  exact agree.imp fun _ _ => Response.eq_withWords_of_agree

/--
A new machine uses the next word of its random sequence in every cycle that
executes `Cxkk`, whatever `kk` is, and no word in any other operation, so
the position in the sequence counts these cycles since construction, across
resets and loads, and the one after `k` others masks the low byte of word
`k`.  Another sequence therefore gives the same responses, except that the
machines hold the other sequence, if the low bytes of its words agree as far
as the session uses them.  A seed determines its sequence,
`(ChaCha.stream seed).words`.
-/
theorem random_words_are_accounted
    (config : Config) (words : Nat → UInt32) (actions : List Action) :
    let start := create config ⟨words, 0⟩
    let steps := start.machine.trace (start.history actions)
    (∀ step ∈ steps,
      step.after.random =
        if step.rolls then step.before.random.next else step.before.random) ∧
      (start.after actions).machine.random =
        ⟨words, steps.countP Step.rolls⟩ ∧
      (∀ earlier step later,
        steps = earlier ++ step :: later → step.rolls = true →
          let opcode := step.before.state.fetch
          step.before.cycle.result = .ok .running ∧
            step.after.state.register (Opcode.x opcode) =
              (words (earlier.countP Step.rolls)).toUInt8 &&&
                Opcode.kk opcode) ∧
      ∀ (other : Nat → UInt32) (count : Nat),
        steps.countP Step.rolls ≤ count →
        (∀ index < count, (words index).toUInt8 = (other index).toUInt8) →
          (create config ⟨other, 0⟩).responses actions =
            (start.responses actions).map (Response.withWords · other) := by
  intro start steps
  refine ⟨fun step _ => step.random_after, ?_, ?_, ?_⟩
  · rw [start.after_machine, Machine.random_after_run]
    simp [start, steps, create, Machine.create]
  · intro earlier step later split rolls opcode
    have byte :
        step.before.random.byte =
          (words (earlier.countP Step.rolls)).toUInt8 := by
      rw [Machine.random_of_trace_eq_append_cons split, RandomStream.byte]
      simp only [start, create, Machine.create, Nat.zero_add]
    rcases step with ⟨machine, operation⟩
    simp only [Step.rolls, Bool.and_eq_true, decide_eq_true_eq] at rolls
    rcases rolls with ⟨rfl, rolls⟩
    rw [← byte]
    exact
      ⟨Machine.result_cycle_of_no_fault (Machine.upcoming?_of_rolls rolls) rfl
          nofun,
        Machine.register_cycle_of_rolls rolls⟩
  · intro other count enough sameBytes
    have fromStart :
        start.machine.random.position + steps.countP Step.rolls ≤ count := by
      rw [show start.machine.random.position = 0 from rfl, Nat.zero_add]
      exact enough
    exact responses_withWords rfl rfl fromStart sameBytes

/-- A tick that draws twice, a cycle that fails, and a reset. -/
def twoDraws : List Action :=
  [.operate (.load #[0xC0, 0xFF, 0xC1, 0x00]), .pace 2, .tick,
    .operate .cycle, .operate .reset]

/--
The first two words of these seeds have the same low bytes and the third
ones have not, which two draws cannot tell.
-/
theorem random_words_are_accounted_for_two_seeds :
    let words := (ChaCha.stream 21).words
    let other := (ChaCha.stream 294).words
    let start := create .standard ⟨words, 0⟩
    let steps := start.machine.trace (start.history twoDraws)
    steps.countP Step.rolls = 2 ∧
      (∀ index < 2, (words index).toUInt8 = (other index).toUInt8) ∧
      (words 2).toUInt8 ≠ (other 2).toUInt8 ∧
      (start.after twoDraws).machine.random = ⟨words, 2⟩ ∧
      (create .standard ⟨other, 0⟩).responses twoDraws =
        (start.responses twoDraws).map (Response.withWords · other) := by
  intro words other start steps
  rcases random_words_are_accounted .standard words twoDraws with
    ⟨_, used, _, twoSeeds⟩
  have count : steps.countP Step.rolls = 2 := by decide +kernel
  have sameBytes :
      ∀ index < 2, (words index).toUInt8 = (other index).toUInt8 := by
    decide +kernel
  refine
    ⟨count, sameBytes, by decide +kernel, ?_,
      twoSeeds other 2 (Nat.le_of_eq count) sameBytes⟩
  rw [used, count]

end Session

end ChipEight
