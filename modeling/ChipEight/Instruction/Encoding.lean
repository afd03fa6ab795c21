import ChipEight.Instruction.Basic

/-!
# Instruction words

An instruction is one sixteen-bit word.  `encode` is the instruction table
read from left to right, and `decode?` reads a word back by its fields,
refusing every word that is not in the table.
-/

namespace ChipEight

namespace Opcode

/-- The most significant hexadecimal digit, which selects the kind of word. -/
def family (word : UInt16) : Nat :=
  word.toNat / 4096

/-- The second hexadecimal digit, a register operand. -/
def x (word : UInt16) : Fin 16 :=
  ⟨word.toNat / 256 % 16, Nat.mod_lt _ (by decide)⟩

/-- The third hexadecimal digit, a register operand. -/
def y (word : UInt16) : Fin 16 :=
  ⟨word.toNat / 16 % 16, Nat.mod_lt _ (by decide)⟩

/-- The least significant hexadecimal digit. -/
def n (word : UInt16) : Fin 16 :=
  ⟨word.toNat % 16, Nat.mod_lt _ (by decide)⟩

/-- The low byte, an immediate operand. -/
def kk (word : UInt16) : UInt8 :=
  UInt8.ofNat (word.toNat % 256)

/-- The low twelve bits, an address operand. -/
def nnn (word : UInt16) : Address :=
  ⟨word.toNat % 4096, Nat.mod_lt _ (by decide)⟩

/-- The word whose high byte is `high` and whose low byte is `low`. -/
def ofBytes (high low : UInt8) : UInt16 :=
  UInt16.ofNat (high.toNat * 256 + low.toNat)

@[simp]
theorem toNat_ofBytes (high low : UInt8) :
    (ofBytes high low).toNat = high.toNat * 256 + low.toNat := by
  have highBound := high.toNat_lt
  have lowBound := low.toNat_lt
  simp only [ofBytes, UInt16.toNat_ofNat']
  omega

end Opcode

/-- The last digit that selects an operator in the words `8xy_`. -/
def Operator.code : Operator → Nat
  | copy => 0x0
  | or => 0x1
  | and => 0x2
  | xor => 0x3
  | add => 0x4
  | sub => 0x5
  | shiftRight => 0x6
  | subFrom => 0x7
  | shiftLeft => 0xE

/-- The operator selected by a last digit, if there is one. -/
def Operator.ofCode? : Nat → Option Operator
  | 0x0 => some copy
  | 0x1 => some or
  | 0x2 => some and
  | 0x3 => some xor
  | 0x4 => some add
  | 0x5 => some sub
  | 0x6 => some shiftRight
  | 0x7 => some subFrom
  | 0xE => some shiftLeft
  | _ => none

namespace Instruction

/-- The number of an instruction word with a family, two digits and a last digit. -/
def xyWord (family : Nat) (first second : Register) (last : Nat) : Nat :=
  family * 4096 + first.val * 256 + second.val * 16 + last

/-- The number of an instruction word with a family, a register and a low byte. -/
def xkWord (family : Nat) (register : Register) (low : Nat) : Nat :=
  family * 4096 + register.val * 256 + low

/-- The number of an instruction word with a family and an address. -/
def addressWord (family : Nat) (target : Address) : Nat :=
  family * 4096 + target.val

/-- The number of an instruction's word. -/
def number : Instruction → Nat
  | clear => 0x00E0
  | ret => 0x00EE
  | jump target => addressWord 0x1 target
  | call target => addressWord 0x2 target
  | skip (.byteIs register value) => xkWord 0x3 register value.toNat
  | skip (.byteIsNot register value) => xkWord 0x4 register value.toNat
  | skip (.same first second) => xyWord 0x5 first second 0x0
  | setByte register value => xkWord 0x6 register value.toNat
  | addByte register value => xkWord 0x7 register value.toNat
  | combine operator first second => xyWord 0x8 first second operator.code
  | skip (.differ first second) => xyWord 0x9 first second 0x0
  | setIndex target => addressWord 0xA target
  | jumpOffset target => addressWord 0xB target
  | random register mask => xkWord 0xC register mask.toNat
  | draw column row height => xyWord 0xD column row height.val
  | skip (.keyDown register) => xkWord 0xE register 0x9E
  | skip (.keyUp register) => xkWord 0xE register 0xA1
  | readDelay register => xkWord 0xF register 0x07
  | awaitKey register => xkWord 0xF register 0x0A
  | setDelay register => xkWord 0xF register 0x15
  | setSound register => xkWord 0xF register 0x18
  | addIndex register => xkWord 0xF register 0x1E
  | pointGlyph register => xkWord 0xF register 0x29
  | storeDecimal register => xkWord 0xF register 0x33
  | saveRegisters last => xkWord 0xF last 0x55
  | loadRegisters last => xkWord 0xF last 0x65

/-- The word of an instruction. -/
def encode (instruction : Instruction) : UInt16 :=
  UInt16.ofNat instruction.number

/-- The instruction of a word `Fx__`, selected by the low byte. -/
def ofMiscellaneous? (register : Register) : Nat → Option Instruction
  | 0x07 => some (.readDelay register)
  | 0x0A => some (.awaitKey register)
  | 0x15 => some (.setDelay register)
  | 0x18 => some (.setSound register)
  | 0x1E => some (.addIndex register)
  | 0x29 => some (.pointGlyph register)
  | 0x33 => some (.storeDecimal register)
  | 0x55 => some (.saveRegisters register)
  | 0x65 => some (.loadRegisters register)
  | _ => none

open Opcode in
/-- The instruction that a word encodes, if it is in the instruction table. -/
def decode? (word : UInt16) : Option Instruction :=
  match family word with
  | 0x0 => if word = 0x00E0 then some .clear else if word = 0x00EE then some .ret else none
  | 0x1 => some (.jump (nnn word))
  | 0x2 => some (.call (nnn word))
  | 0x3 => some (.skip (.byteIs (x word) (kk word)))
  | 0x4 => some (.skip (.byteIsNot (x word) (kk word)))
  | 0x5 => if n word = 0 then some (.skip (.same (x word) (y word))) else none
  | 0x6 => some (.setByte (x word) (kk word))
  | 0x7 => some (.addByte (x word) (kk word))
  | 0x8 => (Operator.ofCode? (n word).val).map (.combine · (x word) (y word))
  | 0x9 => if n word = 0 then some (.skip (.differ (x word) (y word))) else none
  | 0xA => some (.setIndex (nnn word))
  | 0xB => some (.jumpOffset (nnn word))
  | 0xC => some (.random (x word) (kk word))
  | 0xD => some (.draw (x word) (y word) (n word))
  | 0xE =>
    if kk word = 0x9E then some (.skip (.keyDown (x word)))
    else if kk word = 0xA1 then some (.skip (.keyUp (x word)))
    else none
  | 0xF => ofMiscellaneous? (x word) (kk word).toNat
  | _ => none

end Instruction

end ChipEight
