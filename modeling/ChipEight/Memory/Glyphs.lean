import ChipEight.Memory.Basic

/-!
# Glyphs

The sixteen hexadecimal digits as five-row sprites.  They occupy the start
of a fresh memory, glyph `d` beginning at address `5 * d`.
-/

namespace ChipEight

/-- The number of rows, and so of bytes, in one glyph. -/
def glyphHeight : Nat := 5

/-- The rows of the glyphs of `0` to `F`, one glyph after another. -/
def glyphs : List UInt8 := [
  0xF0, 0x90, 0x90, 0x90, 0xF0,
  0x20, 0x60, 0x20, 0x20, 0x70,
  0xF0, 0x10, 0xF0, 0x80, 0xF0,
  0xF0, 0x10, 0xF0, 0x10, 0xF0,
  0x90, 0x90, 0xF0, 0x10, 0x10,
  0xF0, 0x80, 0xF0, 0x10, 0xF0,
  0xF0, 0x80, 0xF0, 0x90, 0xF0,
  0xF0, 0x10, 0x20, 0x40, 0x40,
  0xF0, 0x90, 0xF0, 0x90, 0xF0,
  0xF0, 0x90, 0xF0, 0x10, 0xF0,
  0xF0, 0x90, 0xF0, 0x90, 0x90,
  0xE0, 0x90, 0xE0, 0x90, 0xE0,
  0xF0, 0x80, 0x80, 0x80, 0xF0,
  0xE0, 0x90, 0x90, 0x90, 0xE0,
  0xF0, 0x80, 0xF0, 0x80, 0xF0,
  0xF0, 0x80, 0xF0, 0x80, 0x80]

/-- The memory of a new session: the glyphs, then zeros. -/
def Memory.initial : Memory :=
  Memory.overlay ⟨Vector.replicate 4096 0⟩ 0 glyphs

end ChipEight
