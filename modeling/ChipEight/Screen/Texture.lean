import ChipEight.Screen.Frame
import ChipEight.Screen.Palette

/-!
# Textures

A frame painted with a palette is a picture.  As a texture, a picture is the
channels of its pixels, row after row; `blit` copies the rows of a texture
into a larger buffer whose rows start `pitch` bytes apart; `enlarge` repeats
pixels and rows to fill a window.
-/

namespace ChipEight

/-- Rows of colored pixels. -/
abbrev Picture := List (List Rgb)

/-- The number of bytes in one row of a texture. -/
def textureRow : Nat := 64 * 3

/-- The picture of a frame. -/
def Palette.paint (palette : Palette) (frame : Frame) : Picture :=
  frame.rows.toList.map fun row => row.toList.map palette.color

/-- The bytes of a frame's picture, row after row. -/
def Palette.texture (palette : Palette) (frame : Frame) : List UInt8 :=
  (palette.paint frame).flatten.flatMap Rgb.channels

/-- A buffer with bytes put at an offset, if they fit. -/
def place? (buffer : Array UInt8) (offset : Nat) (bytes : List UInt8) :
    Option (Array UInt8) :=
  if offset + bytes.length ≤ buffer.size then
    let bytes := bytes.toArray
    some (Array.ofFn fun index : Fin buffer.size =>
      if offset ≤ index.val then (bytes[index.val - offset]?).getD buffer[index]
      else buffer[index])
  else none

/--
A buffer with consecutive rows of bytes put `pitch` bytes apart, or nothing
if some row does not fit.
-/
def blit (pitch : Nat) (buffer : Array UInt8) (rows : List (List UInt8)) :
    Option (Array UInt8) :=
  rows.zipIdx.foldlM (fun buffer (bytes, row) => place? buffer (row * pitch) bytes) buffer

/-- The rows of a texture. -/
def textureLines (texture : List UInt8) : List (List UInt8) :=
  (List.range 32).map fun row => (texture.drop (row * textureRow)).take textureRow

/-- The pixel whose channels start at an offset; channels past the end are zero. -/
def pixelAt (buffer : Array UInt8) (offset : Nat) : Rgb :=
  let channel (place : Nat) := (buffer[offset + place]?).getD 0
  ⟨channel 0, channel 1, channel 2⟩

/-- The picture in a buffer whose rows start `pitch` bytes apart. -/
def Picture.ofBuffer (pitch : Nat) (buffer : Array UInt8) : Picture :=
  (List.range 32).map fun row =>
    (List.range 64).map fun column => pixelAt buffer (row * pitch + column * 3)

/-- A picture with every pixel made a square of the given side. -/
def Picture.enlarge (scale : Nat) (picture : Picture) : Picture :=
  picture.flatMap fun row =>
    List.replicate scale (row.flatMap (List.replicate scale))

/-- What a window of a scale shows of a frame, if the texture can be filled. -/
def Palette.present (palette : Palette) (frame : Frame) (scale : Nat) : Option Picture :=
  let buffer := Array.replicate (32 * textureRow) 0
  (blit textureRow buffer (textureLines (palette.texture frame))).map fun buffer =>
    (Picture.ofBuffer textureRow buffer).enlarge scale

end ChipEight
