/-!
# Hexadecimal text

Numbers written with upper-case hexadecimal digits and at least a given
width, as the machine's messages show addresses and opcode words.
-/

namespace ChipEight.Hex

/-- The upper-case digit of a value below sixteen. -/
def digit (value : Nat) : Char :=
  if value < 10 then Char.ofNat ('0'.toNat + value)
  else Char.ofNat ('A'.toNat + (value - 10))

/-- The digits of a number, most significant first; zero has one digit. -/
def digits (value : Nat) : List Char :=
  if value < 16 then [digit value]
  else digits (value / 16) ++ [digit (value % 16)]

/-- The digits of a number, filled on the left with zeros up to `width`. -/
def upper (width value : Nat) : String :=
  String.ofList ((digits value).leftpad width '0')

end ChipEight.Hex
