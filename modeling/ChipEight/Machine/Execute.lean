import ChipEight.Keys.Keypad
import ChipEight.Machine.State
import ChipEight.Random.Stream
import ChipEight.Screen.Sprite

/-!
# Execution of one instruction

`execute` takes the state at an instruction, with the counter still on it,
to the state after it.  It yields a new state or a fault and never a state
that is partly changed.
-/

namespace ChipEight

/-- What an instruction can observe besides the state. -/
structure Surroundings where
  keypad : Keypad
  wrapRows : Bool
  random : RandomStream

/-- One or zero. -/
def bit (condition : Bool) : UInt8 :=
  if condition then 1 else 0

/-- An operator's result, and the flag that it reports if it reports one. -/
def Operator.apply (operator : Operator) (first second : UInt8) : UInt8 × Option UInt8 :=
  match operator with
  | copy => (second, none)
  | or => (first ||| second, none)
  | and => (first &&& second, none)
  | xor => (first ^^^ second, none)
  | add => (first + second, some (bit (255 < first.toNat + second.toNat)))
  | sub => (first - second, some (bit (second < first)))
  | shiftRight => (first >>> 1, some (first &&& 1))
  | subFrom => (second - first, some (bit (first < second)))
  | shiftLeft => (first <<< 1, some (first &&& 0x80))

/-- Whether a skip's test holds. -/
def Condition.holds (condition : Condition) (keypad : Keypad) (state : State) : Bool :=
  match condition with
  | byteIs register value => state.register register == value
  | byteIsNot register value => state.register register != value
  | same first second => state.register first == state.register second
  | differ first second => state.register first != state.register second
  | keyDown register => keypad.isHeld (state.register register)
  | keyUp register => !keypad.isHeld (state.register register)

/-- The hundreds, tens and ones of a byte. -/
def decimalDigits (value : UInt8) : List UInt8 :=
  [value / 100 % 10, value / 10 % 10, value % 10]

namespace State

/--
Stores a result with its flag.  The flag goes first, so a result meant for
the flag register replaces it.
-/
def setResult (state : State) (target : Register) : UInt8 × Option UInt8 → State
  | (result, none) => state.setRegister target result
  | (result, some flag) => (state.setRegister flagRegister flag).setRegister target result

/-- Puts the counter at an operand address. -/
def jumpTo (state : State) (target : Address) : State :=
  { state with counter := UInt16.ofNat target.val }

/-- The registers up to `last`, in ascending order. -/
def registersThrough (state : State) (last : Register) : List UInt8 :=
  state.registers.toList.take (last.val + 1)

/-- Fills the registers up to `last` with the bytes from the index on. -/
def fillRegisters (state : State) (last : Register) : State :=
  { state with
    registers := Vector.ofFn fun register =>
      if register.val ≤ last.val then
        state.memory.read (state.index + UInt16.ofNat register.val)
      else state.register register }

/-- Draws the bytes from the index on as a sprite and reports a collision. -/
def drawSprite
    (state : State) (wrapRows : Bool) (column row : Register) (height : Fin 16) : State :=
  let drawing :=
    state.frame.draw wrapRows
      (state.register row).toUInt64 (state.register column).toUInt64
      (state.memory.readBlock state.index height.val)
  { state.setRegister flagRegister (bit drawing.collides) with frame := drawing.frame }

/-- Remembers the address after a call and continues at its target. -/
def enter (state : State) (target : Address) : Except Fault State :=
  if free : state.depth.toNat < 16 then
    .ok { state with
      counter := UInt16.ofNat target.val
      depth := state.depth + 1
      returns := state.returns.set state.depth.toNat (state.counter + 2) }
  else .error (.stackOverflow state.counter state.depth)

/-- Continues at the most recently remembered address. -/
def leave (state : State) : Except Fault State :=
  if state.depth = 0 then .error (.stackUnderflow state.counter)
  else if live : state.depth.toNat - 1 < 16 then
    .ok { state with
      counter := state.returns[state.depth.toNat - 1]
      depth := state.depth - 1 }
  else .error (.returnMissing state.counter state.depth)

end State

/-- The state after an instruction, or the fault that it meets. -/
def Instruction.execute
    (surroundings : Surroundings) (state : State) : Instruction → Except Fault State
  | clear => .ok { state.advance with frame := .blank }
  | ret => state.leave
  | jump target => .ok (state.jumpTo target)
  | call target => state.enter target
  | skip condition =>
    .ok (if condition.holds surroundings.keypad state then state.advance.advance
      else state.advance)
  | setByte target value => .ok (state.advance.setRegister target value)
  | addByte target value =>
    .ok (state.advance.setRegister target (state.register target + value))
  | combine operator first second =>
    .ok (state.advance.setResult first
      (operator.apply (state.register first) (state.register second)))
  | setIndex target => .ok { state.advance with index := UInt16.ofNat target.val }
  | jumpOffset target =>
    .ok { state with
      counter := (UInt16.ofNat target.val + (state.register offsetRegister).toUInt16) &&& 0x0FFF }
  | random target mask =>
    .ok (state.advance.setRegister target (surroundings.random.byte &&& mask))
  | draw column row height =>
    .ok (state.advance.drawSprite surroundings.wrapRows column row height)
  | readDelay target => .ok (state.advance.setRegister target state.delay)
  | awaitKey target => .ok { state.advance with waiting := some (UInt8.ofNat target.val) }
  | setDelay source => .ok { state.advance with delay := state.register source }
  | setSound source => .ok { state.advance with sound := state.register source }
  | addIndex source =>
    .ok { state.advance with
      index := (state.index + (state.register source).toUInt16) &&& 0x0FFF }
  | pointGlyph source =>
    .ok { state.advance with
      index := UInt16.ofNat (glyphHeight * (state.register source).toNat) }
  | storeDecimal source =>
    .ok { state.advance with
      memory := state.memory.writeBlock state.index
        (decimalDigits (state.register source)) }
  | saveRegisters last =>
    .ok { state.advance with
      memory := state.memory.writeBlock state.index (state.registersThrough last) }
  | loadRegisters last => .ok (state.advance.fillRegisters last)

end ChipEight
