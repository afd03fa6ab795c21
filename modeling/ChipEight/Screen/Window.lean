/-!
# Windows

The size of the window that a scale asks for, and the reasons why a display
cannot be set up.
-/

namespace ChipEight

/-- The size of a window in pixels, in the thirty-two bits that a host takes. -/
structure WindowSize where
  width : UInt32
  height : UInt32
  deriving DecidableEq

/-- The product of two words, if it fits in a word. -/
def checkedProduct (left right : UInt32) : Option UInt32 :=
  if left.toNat * right.toNat < 4294967296 then some (left * right) else none

/--
The window size asked for at a scale, each side of the screen scaled in
turn.  There is none once a scaled side does not fit in thirty-two bits.
-/
def WindowSize.ofScale? (scale : UInt32) : Option WindowSize := do
  let width ← checkedProduct 64 scale
  let height ← checkedProduct 32 scale
  return ⟨width, height⟩

/-- What the host refused while a display was set up, with its reason. -/
inductive DisplayError
  | host (reason : String)
  | window (reason : String)
  | canvas (reason : String)
  | texture (reason : String)
  deriving DecidableEq

/-- A reason as the host's own error shows it. -/
def hostError (reason : String) : String :=
  "SDL error: " ++ reason

/-- The wording of a refusal. -/
def DisplayError.message : DisplayError → String
  | host reason => "SDL2 error: " ++ reason
  | window reason => "unable to open window: " ++ hostError reason
  | canvas reason => "unable to create canvas: " ++ hostError reason
  | texture reason => "unable to create texture: " ++ hostError reason

end ChipEight
