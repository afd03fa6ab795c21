import ChipEight.Instruction.Encoding
import ChipEight.Machine.Fault
import ChipEight.Memory.Glyphs
import ChipEight.Screen.Frame

/-!
# Machine state

Everything that a session can change and a reset restores: registers,
timers, call stack, memory and frame.  The live return addresses are the
first `depth` of the `returns` slots; slots above them keep stale values.
-/

namespace ChipEight

/-- The state of the processor with its memory and frame. -/
structure State where
  registers : Vector UInt8 16
  index : UInt16
  counter : UInt16
  depth : UInt8
  delay : UInt8
  sound : UInt8
  returns : Vector UInt16 16
  memory : Memory
  frame : Frame
  /-- The number of the register that receives the next key, while parked. -/
  waiting : Option UInt8
  deriving DecidableEq

/-- The register that draws and flag-setting arithmetic report in. -/
def flagRegister : Register := .numbered 15

/-- The register that jumps with an offset add to their target. -/
def offsetRegister : Register := .numbered 0

namespace State

/-- The state of a new session. -/
def initial : State where
  registers := Vector.replicate 16 0
  index := 0
  counter := UInt16.ofNat Memory.programStart
  depth := 0
  delay := 0
  sound := 0
  returns := Vector.replicate 16 0
  memory := .initial
  frame := .blank
  waiting := none

/-- The value of a register. -/
def register (state : State) (register : Register) : UInt8 :=
  state.registers[register]

/-- The state with one register replaced. -/
def setRegister (state : State) (register : Register) (value : UInt8) : State :=
  { state with registers := state.registers.set register value }

/-- The state with the counter moved past one instruction. -/
def advance (state : State) : State :=
  { state with counter := state.counter + 2 }

/-- The word at the counter, high byte first. -/
def fetch (state : State) : UInt16 :=
  Opcode.ofBytes (state.memory.read state.counter) (state.memory.read (state.counter + 1))

/-- Places a program in memory, or refuses one that is too large. -/
def load (state : State) (program : Array UInt8) : Except LoadError State :=
  if program.size ≤ Memory.programLimit then
    .ok { state with memory := state.memory.overlay Memory.programStart program.toList }
  else .error (.tooLarge program.size Memory.programLimit)

/-- A timer's next value: one less, and zero from zero on. -/
def countedDown (timer : UInt8) : UInt8 :=
  UInt8.ofNat (timer.toNat - 1)

/-- The state with both timers counted down by one, stopping at zero. -/
def countDown (state : State) : State :=
  { state with delay := countedDown state.delay, sound := countedDown state.sound }

/-- The live return addresses, oldest first. -/
def callStack (state : State) : List UInt16 :=
  state.returns.toList.take state.depth.toNat

@[simp]
theorem register_setRegister
    (state : State) (written observed : Register) (value : UInt8) :
    (state.setRegister written value).register observed =
      if written = observed then value else state.register observed := by
  by_cases same : written = observed
  · simp [register, setRegister, same]
  · have separate : written.val ≠ observed.val :=
      fun equality => same (Fin.ext equality)
    simp [register, setRegister, same, Vector.getElem_set_ne, separate]

/-- As a number a timer goes down by one, and stays at zero. -/
@[simp]
theorem toNat_countedDown (timer : UInt8) :
    (countedDown timer).toNat = timer.toNat - 1 := by
  have bound := timer.toNat_lt
  simp only [countedDown, UInt8.toNat_ofNat']
  omega

end State

end ChipEight
