import ChipEight.Instruction.Basic
import ChipEight.Keys.Keypad
import ChipEight.Text.Hex

/-!
# The journal

What a run reports about itself, as data.  An `Event` keeps the facts it
reports, `level` grades it, and `line` writes it as one line of text.
-/

namespace ChipEight

/-- How important an event is, from the most important down. -/
inductive Level
  | warn
  | info
  | debug
  | trace
  deriving DecidableEq

/-- The rank of a level; less important levels have higher ranks. -/
def Level.rank : Level → Nat
  | warn => 0
  | info => 1
  | debug => 2
  | trace => 3

/-- The label of a level at the start of a line. -/
def Level.label : Level → String
  | warn => "WARN"
  | info => "INFO"
  | debug => "DEBUG"
  | trace => "TRACE"

/-- The processor at the start of a cycle that executes an instruction. -/
structure Snapshot where
  counter : UInt16
  opcode : UInt16
  instruction : Instruction
  registers : Vector UInt8 16
  index : UInt16
  depth : UInt8
  deriving DecidableEq

/-- Something that a run reports. -/
inductive Event
  | resetting
  | loaded (size : Nat)
  | executing (snapshot : Snapshot)
  | waiting (register : UInt8)
  | resuming (key : Key) (register : UInt8)
  | launched (path : String)
  | silent
  deriving DecidableEq

/-- Text filled on the right with spaces up to a width. -/
def padded (width : Nat) (text : String) : String :=
  String.ofList (text.toList.rightpad width ' ')

/-- The processor as one line: address, word, name, registers, index, depth. -/
def Snapshot.text (snapshot : Snapshot) : String :=
  let registers := snapshot.registers.toList.map fun value => Hex.upper 2 value.toNat
  Hex.upper 3 snapshot.counter.toNat ++ ": " ++ Hex.upper 4 snapshot.opcode.toNat
    ++ " " ++ padded 4 snapshot.instruction.mnemonic
    ++ " v[" ++ ", ".intercalate registers
    ++ "] i" ++ Hex.upper 3 snapshot.index.toNat
    ++ " sp" ++ toString snapshot.depth.toNat

namespace Event

/-- How important an event is. -/
def level : Event → Level
  | executing _ => .trace
  | launched _ => .info
  | silent => .warn
  | _ => .debug

/-- The wording of an event. -/
def text : Event → String
  | resetting => "resetting machine"
  | loaded size => "loaded " ++ toString size ++ " byte program"
  | executing snapshot => snapshot.text
  | waiting register => "waiting for a key press into V" ++ Hex.upper 1 register.toNat
  | resuming key register =>
    "key " ++ Hex.upper 1 key.val ++ " pressed, resuming into V"
      ++ Hex.upper 1 register.toNat
  | launched path => "loaded " ++ path
  | silent => "no audio device, running silent"

/-- An event as a line of the journal. -/
def line (event : Event) : String :=
  event.level.label ++ " " ++ event.text

end Event

end ChipEight
