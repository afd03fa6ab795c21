import ChipEight.Journal
import ChipEight.Machine.Execute

/-!
# The machine and its cycle

A machine is a processor state with a keypad, a configuration and a random
stream.  One `cycle` either executes the instruction at the counter or,
while the machine is parked on a key wait, takes the lowest held key.  A
cycle that fails returns the machine that it was given.
-/

namespace ChipEight

/-- The settings that the host chooses. -/
structure Config where
  /-- Whether sprites that run off the bottom of the screen continue at its top. -/
  wrapRows : Bool
  /-- The number of instructions in one tick. -/
  speed : UInt32
  deriving DecidableEq

/-- The settings of a host that chooses nothing. -/
def Config.standard : Config where
  wrapRows := false
  speed := 18

/-- What the next cycle will do. -/
inductive Status
  /-- It fetches and executes an instruction. -/
  | running
  /-- It waits for a key to put into a register. -/
  | awaitingKey (register : UInt8)
  deriving DecidableEq

/-- A machine with its inputs and settings. -/
structure Machine where
  state : State
  keypad : Keypad
  config : Config
  random : RandomStream

/-- What an operation answers, the machine after it, and what it reported. -/
structure Outcome (failure answer : Type) where
  result : Except failure answer
  machine : Machine
  events : List Event

/-- An outcome with its failure and its answer put into other terms. -/
def Outcome.map {failure answer failure' answer' : Type}
    (onFailure : failure → failure') (onAnswer : answer → answer')
    (outcome : Outcome failure answer) : Outcome failure' answer' where
  result := (outcome.result.map onAnswer).mapError onFailure
  machine := outcome.machine
  events := outcome.events

namespace Machine

/-- A machine at the start of its first session. -/
def create (config : Config) (random : RandomStream) : Machine where
  state := .initial
  keypad := .idle
  config := config
  random := random

/-- What the next cycle of a machine will do. -/
def status (machine : Machine) : Status :=
  match machine.state.waiting with
  | some register => .awaitingKey register
  | none => .running

/-- Whether the tone should sound. -/
def soundActive (machine : Machine) : Bool :=
  decide (0 < machine.state.sound)

/-- What instructions of this machine can observe. -/
def surroundings (machine : Machine) : Surroundings where
  keypad := machine.keypad
  wrapRows := machine.config.wrapRows
  random := machine.random

/-- The machine as a cycle about to execute an instruction shows it. -/
def snapshot (machine : Machine) (instruction : Instruction) : Snapshot where
  counter := machine.state.counter
  opcode := machine.state.fetch
  instruction := instruction
  registers := machine.state.registers
  index := machine.state.index
  depth := machine.state.depth

/-- The machine after an instruction left it in a state. -/
def commit (machine : Machine) (instruction : Instruction) (state : State) : Machine :=
  { machine with
    state := state
    random := if instruction.drawsRandom then machine.random.next else machine.random }

/-- The report that a machine has just parked, if it has. -/
def parkingEvents (machine : Machine) : List Event :=
  match machine.state.waiting with
  | some register => [.waiting register]
  | none => []

/-- Executes one instruction on a machine that is not parked. -/
def execute (machine : Machine) (instruction : Instruction) : Outcome Fault Status :=
  let report := Event.executing (machine.snapshot instruction)
  match instruction.execute machine.surroundings machine.state with
  | .error fault => ⟨.error fault, machine, [report]⟩
  | .ok state =>
    let after := machine.commit instruction state
    ⟨.ok after.status, after, report :: after.parkingEvents⟩

/-- Puts a key into the register that waits for it and unparks the machine. -/
def resume (machine : Machine) (register : UInt8) (key : Key) : Outcome Fault Status :=
  if inRange : register.toNat < 16 then
    let target : Register := ⟨register.toNat, inRange⟩
    let state := machine.state.setRegister target (UInt8.ofNat key.val)
    ⟨.ok .running, { machine with state := { state with waiting := none } },
      [.resuming key register]⟩
  else ⟨.error (.registerMissing register), machine, []⟩

/-- Advances the processor by one cycle. -/
def cycle (machine : Machine) : Outcome Fault Status :=
  match machine.state.waiting with
  | some register =>
    match machine.keypad.lowest? with
    | some key => machine.resume register key
    | none => ⟨.ok (.awaitingKey register), machine, []⟩
  | none =>
    match Instruction.decode? machine.state.fetch with
    | some instruction => machine.execute instruction
    | none =>
      let fault := .unknownInstruction machine.state.fetch machine.state.counter
      ⟨.error fault, machine, []⟩

end Machine

end ChipEight
