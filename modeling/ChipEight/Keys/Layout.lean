import ChipEight.Keys.Keypad

/-!
# The host's keys

Which key of the host's keyboard plays which key of the keypad.  A host key
is given by its keycode; digits and letters have their ASCII codes, and the
left four columns of a keyboard take the places of the keypad's grid.
-/

namespace ChipEight.Layout

/-- The key with a number, which counts modulo sixteen. -/
def keyNumbered (number : Nat) : Key :=
  ⟨number % 16, Nat.mod_lt number (by decide)⟩

/--
The host characters that play a key, each with its key, row by row of the
host's keyboard.
-/
def players : List (Char × Key) :=
  List.map (Prod.map id keyNumbered)
    [('1', 0x1), ('2', 0x2), ('3', 0x3), ('4', 0xC),
      ('q', 0x4), ('w', 0x5), ('e', 0x6), ('r', 0xD),
      ('a', 0x7), ('s', 0x8), ('d', 0x9), ('f', 0xE),
      ('z', 0xA), ('x', 0x0), ('c', 0xB), ('v', 0xF)]

/-- The keycode of a host character. -/
def keycode (character : Char) : Int32 :=
  Int32.ofNat character.toNat

/-- The key that a host key plays, if it plays one. -/
def key? (code : Int32) : Option Key :=
  (players.find? fun player => keycode player.1 == code).map Prod.snd

end ChipEight.Layout
