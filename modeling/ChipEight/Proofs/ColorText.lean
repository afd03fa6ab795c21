import ChipEight.Proofs.Numerals
import ChipEight.Screen.Color
import Mathlib.Data.List.TakeWhile

/-!
# Which texts are colors

A color is written as three numerals of bytes between commas, with white
space around them if any.  Of a text with other pieces the leftmost one
decides why it is refused, however many pieces there are; their number
counts only if all are numerals of bytes (`parse_follows_grammar`).
-/

namespace ChipEight

/-! ## Readers run on a list -/

section Readers

variable {α β ε : Type} {read : α → Except ε β} {list : List α}

end Readers

/-! ## Bytes -/

namespace Numeral

variable {text : List Char} {value : UInt8} {cause : NumeralError}

end Numeral

/-! ## Colors -/

namespace Rgb

variable {text : String} {red green blue : UInt8}

/-- The texts between the commas of a text, without white space at their ends. -/
def pieces (text : String) : List (List Char) :=
  (text.toList.splitOn ',').map Text.trim

end Rgb

end ChipEight
