import ChipEight.Text.Hex

/-!
# Faults and refusals

A `Fault` is why a cycle fails; it names the address of the failing
instruction.  A `LoadError` is why a program is not placed in memory.  Each
has one function that words it.
-/

namespace ChipEight

/-- Why a cycle cannot be completed. -/
inductive Fault
  | unknownInstruction (opcode counter : UInt16)
  | stackOverflow (counter : UInt16) (depth : UInt8)
  | stackUnderflow (counter : UInt16)
  /-- A return from deeper than there are slots, which no call produces. -/
  | returnMissing (counter : UInt16) (depth : UInt8)
  /-- A key wait for a register that does not exist, which no instruction starts. -/
  | registerMissing (register : UInt8)
  deriving DecidableEq

/-- Why a program cannot be loaded. -/
inductive LoadError
  /-- A program longer than the most bytes that fit. -/
  | tooLarge (size limit : Nat)
  | unreadable (path : String)
  deriving DecidableEq

/-- A counter value as messages show it. -/
def addressText (counter : UInt16) : String :=
  "0x" ++ Hex.upper 3 counter.toNat

/-- The wording of a fault. -/
def Fault.message : Fault → String
  | unknownInstruction opcode counter =>
    "unknown instruction 0x" ++ Hex.upper 4 opcode.toNat ++ " at " ++ addressText counter
  | stackOverflow counter depth =>
    "stack overflow at " ++ addressText counter ++ ": all "
      ++ toString depth.toNat ++ " return slots are in use"
  | stackUnderflow counter =>
    "stack underflow at " ++ addressText counter ++ ": return with an empty call stack"
  | returnMissing counter depth =>
    "no return slot at " ++ addressText counter ++ ": depth "
      ++ toString depth.toNat ++ " exceeds the call stack"
  | registerMissing register =>
    "no register " ++ toString register.toNat ++ " to receive a key"

/-- The wording of a refusal to load. -/
def LoadError.message : LoadError → String
  | tooLarge size limit =>
    "program is " ++ toString size ++ " bytes but at most "
      ++ toString limit ++ " fit in memory"
  | unreadable path => "unable to load ROM from " ++ path

end ChipEight
