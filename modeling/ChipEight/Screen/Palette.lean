import ChipEight.Screen.Color

/-!
# Palettes

A palette paints lit cells in one color and unlit cells in another.  The
named schemes are the palettes to start from.
-/

namespace ChipEight

/-- The colors of lit and of unlit cells. -/
structure Palette where
  foreground : Rgb
  background : Rgb
  deriving DecidableEq

/-- The named palettes. -/
inductive Scheme
  | blackWhite
  | whiteBlack
  | grays
  | gameboy
  | blueWhite
  deriving DecidableEq

/-- Why a text names no scheme. -/
inductive SchemeError
  | unknown (text : String)
  deriving DecidableEq

/-- The wording of a refusal. -/
def SchemeError.message : SchemeError → String
  | unknown text => "unknown color scheme '" ++ text ++ "'"

namespace Scheme

/-- Every scheme. -/
def all : List Scheme :=
  [blackWhite, whiteBlack, grays, gameboy, blueWhite]

/-- The name of a scheme. -/
def name : Scheme → String
  | blackWhite => "black-white"
  | whiteBlack => "white-black"
  | grays => "grays"
  | gameboy => "gameboy"
  | blueWhite => "blue-white"

/-- The colors of a scheme. -/
def palette : Scheme → Palette
  | blackWhite => ⟨.gray 255, .gray 0⟩
  | whiteBlack => ⟨.gray 0, .gray 255⟩
  | grays => ⟨.gray 84, .gray 169⟩
  | gameboy => ⟨⟨15, 56, 15⟩, ⟨155, 188, 15⟩⟩
  | blueWhite => ⟨⟨5, 65, 255⟩, ⟨242, 242, 242⟩⟩

/-- The scheme with the given name. -/
def parse (text : String) : Except SchemeError Scheme :=
  match all.find? fun scheme => scheme.name == text with
  | some scheme => .ok scheme
  | none => .error (.unknown text)

end Scheme

namespace Palette

/-- The palette of a screen for which nothing was chosen. -/
def standard : Palette :=
  Scheme.blackWhite.palette

/-- The palette with its colors replaced where a replacement is given. -/
def override (palette : Palette) (foreground background : Option Rgb) : Palette :=
  ⟨foreground.getD palette.foreground, background.getD palette.background⟩

/-- The color of a cell. -/
def color (palette : Palette) (lit : Bool) : Rgb :=
  if lit then palette.foreground else palette.background

/-- The color of a cell given as a byte, where only zero is unlit. -/
def colorOfByte (palette : Palette) (value : UInt8) : Rgb :=
  palette.color (value != 0)

end Palette

end ChipEight
