/-!
# Decimal numerals

Readers for decimal numerals with an upper limit.  A numeral is an optional
plus sign and at least one digit; leading zeros are allowed.  A refusal
names the first cause met from left to right.
-/

namespace ChipEight

/-- Why a text is not a numeral within the limit. -/
inductive NumeralError
  | empty
  | invalidDigit
  | tooLarge
  deriving DecidableEq

/-- The wording of a refusal. -/
def NumeralError.message : NumeralError → String
  | empty => "cannot parse integer from empty string"
  | invalidDigit => "invalid digit found in string"
  | tooLarge => "number too large to fit in target type"

namespace Numeral

/-- The value of a decimal digit. -/
def digit? (character : Char) : Option Nat :=
  if '0' ≤ character ∧ character ≤ '9' then some (character.toNat - '0'.toNat)
  else none

/-- Reads the digits after those whose value is `total`. -/
def readDigits (limit : Nat) : Nat → List Char → Except NumeralError Nat
  | total, [] => .ok total
  | total, character :: rest =>
    match digit? character with
    | none => .error .invalidDigit
    | some digit =>
      if total * 10 + digit ≤ limit then readDigits limit (total * 10 + digit) rest
      else .error .tooLarge

/-- Reads a numeral of value at most `limit`. -/
def read (limit : Nat) (text : List Char) : Except NumeralError Nat :=
  match text with
  | [] => .error .empty
  | '+' :: [] => .error .invalidDigit
  | '+' :: digits => readDigits limit 0 digits
  | digits => readDigits limit 0 digits

/-- Reads a numeral that fits a byte. -/
def readByte (text : List Char) : Except NumeralError UInt8 :=
  (read 255 text).map UInt8.ofNat

end Numeral

end ChipEight
