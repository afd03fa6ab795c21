import ChipEight.Text.Blank
import ChipEight.Text.Numeral
import ChipEight.Text.Pieces

/-!
# Colors

Colors with three byte channels, and their written form `R,G,B`: three
numerals between commas, each with white space around it if any.
-/

namespace ChipEight

/-- A color by its red, green and blue channels. -/
structure Rgb where
  red : UInt8
  green : UInt8
  blue : UInt8
  deriving DecidableEq

/-- Why a text is not a color. -/
inductive ColorError
  /-- A channel is not a byte; the leftmost such channel gives the cause. -/
  | badChannel (text : String) (cause : NumeralError)
  /-- All channels are bytes, but there are not three of them. -/
  | badCount (text : String)
  deriving DecidableEq

/-- The wording of a refusal. -/
def ColorError.message : ColorError → String
  | badChannel text cause => "invalid color '" ++ text ++ "': " ++ cause.message
  | badCount text => "invalid color '" ++ text ++ "': expected R,G,B"

namespace Rgb

/-- The gray whose channels all have one level. -/
def gray (level : UInt8) : Rgb :=
  ⟨level, level, level⟩

/-- The channels in the order red, green, blue. -/
def channels (color : Rgb) : List UInt8 :=
  [color.red, color.green, color.blue]

/-- The bytes between the commas of a text, or the first refusal. -/
def readChannels (text : String) : Except NumeralError (List UInt8) :=
  (Text.pieces ',' text.toList).mapM fun piece => Numeral.readByte (Text.trim piece)

/-- Reads a color. -/
def parse (text : String) : Except ColorError Rgb :=
  match readChannels text with
  | .error cause => .error (.badChannel text cause)
  | .ok [red, green, blue] => .ok ⟨red, green, blue⟩
  | .ok _ => .error (.badCount text)

end Rgb

end ChipEight
