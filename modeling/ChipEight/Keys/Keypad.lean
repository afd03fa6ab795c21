/-!
# The keypad

Sixteen keys, each held or not.  Events carry a byte as the key code; codes
above fifteen name no key and are ignored.
-/

namespace ChipEight

/-- One of the sixteen keys. -/
abbrev Key := Fin 16

/-- Which keys are held down. -/
structure Keypad where
  held : Vector Bool 16
  deriving DecidableEq

namespace Keypad

/-- The keypad with no key held. -/
def idle : Keypad :=
  ⟨Vector.replicate 16 false⟩

/-- Records whether the key with this code is held, if there is one. -/
def record (keypad : Keypad) (code : UInt8) (down : Bool) : Keypad :=
  if inRange : code.toNat < 16 then ⟨keypad.held.set code.toNat down⟩ else keypad

/-- The keypad after a key went down. -/
def press (keypad : Keypad) (code : UInt8) : Keypad :=
  keypad.record code true

/-- The keypad after a key came up. -/
def release (keypad : Keypad) (code : UInt8) : Keypad :=
  keypad.record code false

/-- The keypad after every key came up. -/
def releaseAll (_ : Keypad) : Keypad :=
  idle

/-- Whether the key with this code is held; a code without a key never is. -/
def isHeld (keypad : Keypad) (code : UInt8) : Bool :=
  if inRange : code.toNat < 16 then keypad.held[code.toNat] else false

/-- The held keys in ascending order. -/
def pressed (keypad : Keypad) : List Key :=
  (List.finRange 16).filter fun key => keypad.held[key]

/-- The lowest held key, if any key is held. -/
def lowest? (keypad : Keypad) : Option Key :=
  keypad.pressed.head?

@[simp]
theorem isHeld_record (keypad : Keypad) (changed code : UInt8) (down : Bool) :
    (keypad.record changed down).isHeld code =
      if changed = code ∧ code.toNat < 16 then down else keypad.isHeld code := by
  by_cases same : changed = code
  · subst same
    by_cases inRange : changed.toNat < 16 <;> simp [record, isHeld, inRange]
  · have separate : changed.toNat ≠ code.toNat :=
      fun equality => same (UInt8.toNat_inj.1 equality)
    by_cases changedRange : changed.toNat < 16 <;>
      simp [record, isHeld, same, changedRange, Vector.getElem_set_ne, separate]

theorem mem_pressed {keypad : Keypad} {key : Key} :
    key ∈ keypad.pressed ↔ keypad.isHeld (UInt8.ofNat key.val) = true := by
  have bound := key.isLt
  have small : key.val % 256 = key.val := by omega
  simp [pressed, isHeld, small]

@[simp]
theorem isHeld_idle (code : UInt8) : idle.isHeld code = false := by
  simp [isHeld, idle]

end Keypad

end ChipEight
