/-!
# Instructions

The thirty-four instructions of the machine, grouped by what they do: skips
share one constructor over a `Condition`, register arithmetic shares one
over an `Operator`.  Operands carry their width in their type, so an
instruction names only registers and addresses that exist.
-/

namespace ChipEight

/-- One of the sixteen general registers. -/
abbrev Register := Fin 16

theorem Register.bound (number : Nat) : number % 16 < 16 :=
  Nat.mod_lt number (by decide)

/-- The register with a number, which counts modulo sixteen. -/
def Register.numbered (number : Nat) : Register :=
  ⟨number % 16, Register.bound number⟩

/-- A twelve-bit operand address. -/
abbrev Address := Fin 4096

/-- How two registers are combined into the first of them. -/
inductive Operator
  | copy
  | or
  | and
  | xor
  | add
  | sub
  | shiftRight
  | subFrom
  | shiftLeft
  deriving DecidableEq

/-- What a conditional skip tests. -/
inductive Condition
  | byteIs (register : Register) (value : UInt8)
  | byteIsNot (register : Register) (value : UInt8)
  | same (first second : Register)
  | differ (first second : Register)
  | keyDown (register : Register)
  | keyUp (register : Register)
  deriving DecidableEq

/-- One machine instruction with its operands. -/
inductive Instruction
  | clear
  | ret
  | jump (target : Address)
  | call (target : Address)
  | skip (condition : Condition)
  | setByte (register : Register) (value : UInt8)
  | addByte (register : Register) (value : UInt8)
  | combine (operator : Operator) (first second : Register)
  | setIndex (target : Address)
  | jumpOffset (target : Address)
  | random (register : Register) (mask : UInt8)
  | draw (column row : Register) (height : Fin 16)
  | readDelay (register : Register)
  | awaitKey (register : Register)
  | setDelay (register : Register)
  | setSound (register : Register)
  | addIndex (register : Register)
  | pointGlyph (register : Register)
  | storeDecimal (register : Register)
  | saveRegisters (last : Register)
  | loadRegisters (last : Register)
  deriving DecidableEq

/-- The assembler name of an operator. -/
def Operator.mnemonic : Operator → String
  | copy => "LD"
  | or => "OR"
  | and => "AND"
  | xor => "XOR"
  | add => "ADD"
  | sub => "SUB"
  | shiftRight => "SHR"
  | subFrom => "SUBN"
  | shiftLeft => "SHL"

/-- The assembler name of a skip. -/
def Condition.mnemonic : Condition → String
  | byteIs .. | same .. => "SE"
  | byteIsNot .. | differ .. => "SNE"
  | keyDown _ => "SKP"
  | keyUp _ => "SKNP"

namespace Instruction

/-- The assembler name of an instruction, without its operands. -/
def mnemonic : Instruction → String
  | clear => "CLS"
  | ret => "RET"
  | jump _ | jumpOffset _ => "JP"
  | call _ => "CALL"
  | skip condition => condition.mnemonic
  | setByte .. | setIndex _ | readDelay _ | awaitKey _ | setDelay _
  | setSound _ | pointGlyph _ | storeDecimal _ | saveRegisters _
  | loadRegisters _ => "LD"
  | addByte .. | addIndex _ => "ADD"
  | combine operator _ _ => operator.mnemonic
  | random .. => "RND"
  | draw .. => "DRW"

/-- Whether executing the instruction consumes one word of the random stream. -/
def drawsRandom : Instruction → Bool
  | random .. => true
  | _ => false

end Instruction

end ChipEight
