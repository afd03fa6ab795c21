import ChipEight.Proofs.CallStack
import ChipEight.Proofs.Checked

/-!
# Safety of every session

`State.Safe` bounds the depth, the index, the awaited register and the cells
of the frame.  Every operation preserves it, and in a safe state the checked
accounts of all operations succeed with the same outcome, so by induction no
session ever leaves an index or an exact number out of range
(`Session.every_session_is_safe`).
-/

namespace ChipEight

/-! ## The invariant -/

/-- The bounds that every state of a session keeps. -/
structure State.Safe (state : State) : Prop where
  depth : state.depth.toNat ≤ 16
  index : state.index.toNat ≤ 0xFFF
  waiting : ∀ register ∈ state.waiting, register.toNat ≤ 15
  cells :
    ∀ cell,
      state.frame.grid.byte cell = 0 ∨ state.frame.grid.byte cell = 1

theorem State.safe_initial : State.initial.Safe where
  depth := Nat.zero_le 16
  index := Nat.zero_le 0xFFF
  waiting := by simp [State.initial]
  cells := Frame.byte_grid_eq_zero_or_one _

namespace Instruction

variable {state : State}

/-- Every index that an instruction leaves has twelve bits. -/
theorem toNat_indexAfter_le
    (safe : state.Safe)
    (instruction : Instruction) :
    (instruction.indexAfter state).toNat ≤ 0xFFF := by
  cases instruction with
  | setIndex target =>
      have short := target.isLt
      simp only [indexAfter, UInt16.toNat_ofNat']
      omega
  | addIndex source =>
      simp only [indexAfter, UInt16.toNat_and]
      exact Nat.and_le_right
  | pointGlyph source =>
      have small := (state.register source).toNat_lt
      simp only [indexAfter, glyphHeight, UInt16.toNat_ofNat']
      exact (Nat.mod_le _ _).trans (by omega)
  | _ => exact safe.index

/-- A wait is begun only for a register that exists. -/
theorem toNat_waitingAfter_le
    (safe : state.Safe)
    (instruction : Instruction) :
    ∀ register ∈ instruction.waitingAfter state, register.toNat ≤ 15 := by
  cases instruction with
  | awaitKey target =>
      have small := target.isLt
      intro register awaited
      cases awaited
      simp only [UInt8.toNat_ofNat']
      omega
  | _ => exact safe.waiting

end Instruction

namespace Machine

variable {machine : Machine}

/-- A cycle keeps the invariant, also when it fails. -/
theorem safe_cycle (safe : machine.state.Safe) :
    machine.cycle.machine.state.Safe := by
  have depth := (callStack_cycle safe.depth).2
  have cells := machine.cycle.machine.state.frame.byte_grid_eq_zero_or_one
  cases machine.course with
  | resumed register key inRange waiting held equation =>
      rw [equation] at depth cells ⊢
      exact ⟨depth, safe.index, by simp [Machine.resumed], cells⟩
  | executed instruction state upcoming success equation =>
      have fields := Instruction.execute_eq_ok success
      rw [equation] at depth cells ⊢
      refine ⟨depth, ?_, ?_, cells⟩
      · simp only [commit, fields]
        exact instruction.toNat_indexAfter_le safe
      · simp only [commit, fields]
        exact instruction.toNat_waitingAfter_le safe
  | parked _ _ _ equation | stranded _ _ _ _ _ equation
  | unknown _ _ equation | failed _ _ _ _ equation =>
      rw [equation]
      exact safe

theorem safe_perform
    (machine : Machine) (operation : Operation)
    (safe : machine.state.Safe) :
    (machine.perform operation).machine.state.Safe := by
  cases operation with
  | cycle => exact safe_cycle safe
  | load program =>
      rcases machine.load_machine program with ⟨memory, after⟩
      rw [perform_load_machine, after]
      exact ⟨safe.depth, safe.index, safe.waiting, safe.cells⟩
  | loadFile path contents =>
      rcases machine.loadFile_machine path contents with ⟨memory, after⟩
      rw [perform_loadFile_machine, after]
      exact ⟨safe.depth, safe.index, safe.waiting, safe.cells⟩
  | reset => exact State.safe_initial
  | countDown =>
      exact ⟨safe.depth, safe.index, safe.waiting, safe.cells⟩
  | press code | release code | releaseAll => exact safe

/-! ## Checked operations -/

/-- Puts a key into the register that waits for it. -/
def resume? (machine : Machine) (register : UInt8) (key : Key) :
    Option (Outcome Fault Status) := do
  let registers ←
    store? machine.state.registers register.toNat (UInt8.ofNat key.val)
  some
    ⟨.ok .running,
      { machine with
        state :=
          { machine.state with
            registers := registers
            waiting := none } },
      [.resuming key register]⟩

/-- Executes one instruction with its checks. -/
def execute? (machine : Machine) (instruction : Instruction) :
    Option (Outcome Fault Status) := do
  let report := Event.executing (machine.snapshot instruction)
  match ← instruction.execute? machine.surroundings machine.state with
  | .error fault => some ⟨.error fault, machine, [report]⟩
  | .ok state =>
      let after := machine.commit instruction state
      some ⟨.ok after.status, after, report :: after.parkingEvents⟩

/-- One cycle with its checks. -/
def cycle? (machine : Machine) : Option (Outcome Fault Status) :=
  match machine.state.waiting with
  | some register =>
      match machine.keypad.lowest? with
      | some key => machine.resume? register key
      | none => some ⟨.ok (.awaitingKey register), machine, []⟩
  | none => do
      let high ← machine.state.memory.read? machine.state.counter
      let low ← machine.state.memory.read? (machine.state.counter + 1)
      let word := Opcode.ofBytes high low
      match Instruction.decode? word with
      | some instruction => machine.execute? instruction
      | none =>
          let fault := .unknownInstruction word machine.state.counter
          some ⟨.error fault, machine, []⟩

/-- Copies a program to a place where it fits, or refuses it. -/
def load? (machine : Machine) (program : Array UInt8) :
    Option (Outcome LoadError Unit) :=
  if Memory.programLimit < program.size then
    let refusal := .tooLarge program.size Memory.programLimit
    some ⟨.error refusal, machine, []⟩
  else do
    let memory ←
      machine.state.memory.overlay? Memory.programStart program.toList
    some
      ⟨.ok (),
        { machine with state := { machine.state with memory := memory } },
        [.loaded program.size]⟩

/-- Copies the contents of a file, if the file could be read. -/
def loadFile?
    (machine : Machine) (path : String) (contents : Option (Array UInt8)) :
    Option (Outcome LoadError Unit) :=
  match contents with
  | some program => machine.load? program
  | none => some ⟨.error (.unreadable path), machine, []⟩

/-- One operation with its checks. -/
def perform? (machine : Machine) :
    Operation → Option (Outcome Failure Answer)
  | .cycle => machine.cycle?.map fun outcome => outcome.map .fault .status
  | .load program =>
      (machine.load? program).map fun outcome =>
        outcome.map .load fun () => .done
  | .loadFile path contents =>
      (machine.loadFile? path contents).map fun outcome =>
        outcome.map .load fun () => .done
  | operation => some (machine.perform operation)

/-- A burst of cycles with their checks. -/
def burst? : Nat → Machine → Option Burst
  | 0, machine => some ⟨.ok (), machine, []⟩
  | cycles + 1, machine => do
      let outcome ← machine.cycle?
      match outcome.result with
      | .error fault =>
          some ⟨.error fault, outcome.machine, outcome.events⟩
      | .ok (.awaitingKey _) =>
          some ⟨.ok (), outcome.machine, outcome.events⟩
      | .ok .running => do
          let burst ← burst? cycles outcome.machine
          some (burst.preceded outcome.events)

theorem resume?_eq_some
    {register : UInt8}
    (small : register.toNat ≤ 15)
    (key : Key) :
    machine.resume? register key = some (machine.resume register key) := by
  have inRange : register.toNat < 16 := by omega
  rw [resume?, store?_eq_some inRange, resume, dif_pos inRange]
  rfl

/-- No check fails while an instruction is executed in a safe state. -/
theorem execute?_eq_some
    (safe : machine.state.Safe)
    (instruction : Instruction) :
    machine.execute? instruction = some (machine.execute instruction) := by
  rw [execute?, Instruction.execute?_eq_some safe.depth, execute]
  cases instruction.execute machine.surroundings machine.state <;> rfl

/--
No check fails in a cycle from a safe state, and the checks change nothing.
-/
theorem cycle?_eq_some (safe : machine.state.Safe) :
    machine.cycle? = some machine.cycle := by
  rw [cycle?, cycle]
  cases waiting : machine.state.waiting with
  | some register =>
      cases machine.keypad.lowest? with
      | some key => exact resume?_eq_some (safe.waiting register waiting) key
      | none => rfl
  | none =>
      simp only [Memory.read?_eq_some, Option.bind_eq_bind,
        Option.bind_some]
      rw [← State.fetch]
      cases Instruction.decode? machine.state.fetch with
      | some instruction => exact execute?_eq_some safe instruction
      | none => rfl

/-- A program that passes the limit fits behind the start of programs. -/
theorem load?_eq_some (machine : Machine) (program : Array UInt8) :
    machine.load? program = some (machine.load program) := by
  rw [load?, load, State.load]
  by_cases fits : program.size ≤ Memory.programLimit
  · have slice :
        Memory.programStart + program.toList.length ≤ 4096 := by
      simp only [Memory.programLimit, Memory.programStart,
        Array.length_toList] at fits ⊢
      omega
    rw [if_neg (Nat.not_lt.mpr fits), if_pos fits, Memory.overlay?,
      if_pos slice]
    rfl
  · rw [if_pos (Nat.lt_of_not_le fits), if_neg fits]

theorem perform?_eq_some
    (safe : machine.state.Safe)
    (operation : Operation) :
    machine.perform? operation = some (machine.perform operation) := by
  cases operation with
  | cycle =>
      rw [perform?, cycle?_eq_some safe]
      rfl
  | load program =>
      rw [perform?, load?_eq_some]
      rfl
  | loadFile path contents =>
      cases contents with
      | none => rfl
      | some program =>
          rw [perform?, loadFile?, load?_eq_some]
          rfl
  | _ => rfl

/-- The checks of a burst hold, since every cycle keeps the invariant. -/
theorem burst?_eq_some
    (cycles : Nat)
    (safe : machine.state.Safe) :
    machine.burst? cycles = some (machine.burst cycles) := by
  induction cycles generalizing machine with
  | zero => rfl
  | succ cycles ih =>
      rw [burst?, cycle?_eq_some safe, burst_succ]
      simp only [Option.bind_eq_bind, Option.bind_some]
      rcases machine.cycle.result with fault | _ | register
      · rfl
      · simp only [ih (safe_cycle safe), Option.bind_some]
      · rfl

end Machine

/-! ## Checked sessions -/

namespace Pacer

/-- One tick with its checks. -/
def tick? (pacer : Pacer) (machine : Machine) : Option (Tick Unit) := do
  let burst ← machine.burst? pacer.speed.toNat
  match burst.result with
  | .error fault =>
      some ⟨.error fault, pacer, burst.machine, [], burst.events⟩
  | .ok () =>
      let machine := burst.machine.countDown
      some
        { result := .ok ()
          pacer := { pacer with ticks := pacer.ticks + 1 }
          machine := machine
          requests :=
            [.tone machine.soundActive, .show machine.state.frame]
          events := burst.events }

/-- One poll with its checks. -/
def poll? (pacer : Pacer) (machine : Machine) (now : Instant) :
    Option (Tick Bool) :=
  if pacer.isDue now then do
    let tick ← { pacer with lastAttempt := some now }.tick? machine
    some { tick with result := tick.result.map fun () => true }
  else some ⟨.ok false, pacer, machine, [], []⟩

variable {machine : Machine}

theorem tick?_eq_some
    (pacer : Pacer)
    (safe : machine.state.Safe) :
    pacer.tick? machine = some (pacer.tick machine) := by
  rw [tick?, Machine.burst?_eq_some _ safe, tick]
  simp only [Option.bind_eq_bind, Option.bind_some]
  cases (machine.burst pacer.speed.toNat).result <;> rfl

theorem poll?_eq_some
    (pacer : Pacer) (now : Instant)
    (safe : machine.state.Safe) :
    pacer.poll? machine now = some (pacer.poll machine now) := by
  rw [poll?, poll]
  by_cases due : pacer.isDue now
  · simp only [due, if_true, tick?_eq_some _ safe, Option.bind_eq_bind,
      Option.bind_some]
  · simp only [due, Bool.false_eq_true, if_false]

end Pacer

namespace Session

/-- One action with its checks. -/
def act? (session : Session) : Action → Option Response
  | .operate operation =>
      (session.machine.perform? operation).map session.ofOutcome
  | .tick =>
      match session.pacer with
      | some pacer =>
          (pacer.tick? session.machine).map
            (ofTick fun () => .answer .done)
      | none => some (session.refuse .unpaced)
  | .poll now =>
      match session.pacer with
      | some pacer =>
          (pacer.poll? session.machine now).map (ofTick .fired)
      | none => some (session.refuse .unpaced)
  | .pace speed => some (session.act (.pace speed))

/-- A sequence of actions with their checks. -/
def after? (session : Session) : List Action → Option Session
  | [] => some session
  | action :: rest => do
      let response ← session.act? action
      response.session.after? rest

theorem act?_eq_some
    {session : Session}
    (safe : session.machine.state.Safe)
    (action : Action) :
    session.act? action = some (session.act action) := by
  cases action with
  | operate operation =>
      rw [act?, Machine.perform?_eq_some safe]
      rfl
  | pace speed => rfl
  | tick =>
      rw [act?, act]
      cases session.pacer with
      | none => rfl
      | some pacer =>
          simp only [pacer.tick?_eq_some safe, Option.map_some]
  | poll now =>
      rw [act?, act]
      cases session.pacer with
      | none => rfl
      | some pacer =>
          simp only [pacer.poll?_eq_some now safe, Option.map_some]

theorem safe_act
    {session : Session}
    (safe : session.machine.state.Safe)
    (action : Action) :
    (session.act action).session.machine.state.Safe := by
  rw [act_machine]
  exact Machine.after_invariant (fun machine => machine.state.Safe)
    Machine.safe_perform safe (session.operations action)

/-- No check fails in a whole session on a safe machine. -/
theorem after?_eq_some
    {session : Session}
    (safe : session.machine.state.Safe)
    (actions : List Action) :
    session.after? actions = some (session.after actions) := by
  induction actions generalizing session with
  | nil => rfl
  | cons action rest ih =>
      rw [after?, act?_eq_some safe]
      exact ih (safe_act safe action)

/--
Every session stays within the bounds of `State.Safe`, and none of its
actions, whether it succeeds or fails, fails a check: the checked account of
the whole session and of every further action gives the same outcome.
-/
theorem every_session_is_safe
    (config : Config) (random : RandomStream) (actions : List Action) :
    let start := create config random
    let session := start.after actions
    session.machine.state.Safe ∧
      start.after? actions = some session ∧
      ∀ action, session.act? action = some (session.act action) := by
  intro start session
  have safe : session.machine.state.Safe :=
    after_invariant (fun machine => machine.state.Safe) Machine.safe_perform
      State.safe_initial actions
  exact ⟨safe, after?_eq_some State.safe_initial actions,
    act?_eq_some safe⟩

end Session

end ChipEight
