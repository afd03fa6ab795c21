import ChipEight.Instruction.RoundTrip
import ChipEight.Proofs.Effect
import Mathlib.Data.Nat.Bitwise

/-!
# Register arithmetic and its flag

An operator combines the values that two registers have before the
instruction.  If it reports a flag, the flag register is written first and
the target after it, so a result meant for the flag register replaces the
flag.  `arithmetic_leaves_result_and_flag` gives both as numbers, for every
choice of registers.
-/

namespace ChipEight

/-! ## Operators on numbers -/

@[simp]
theorem toNat_bit (condition : Bool) :
    (bit condition).toNat = if condition then 1 else 0 := by
  cases condition <;> rfl

/-- The highest bit of a byte is worth 128 if it is set. -/
theorem and_highest_bit {value : Nat} (bound : value < 256) :
    value &&& 128 = if 128 ≤ value then 128 else 0 := by
  have highest : value.testBit 7 = decide (128 ≤ value) := by
    rw [Nat.testBit_eq_decide_div_mod_eq]
    apply decide_eq_decide.mpr
    omega
  rw [show 128 = 2 ^ 7 from rfl, Nat.and_two_pow, highest]
  by_cases high : 128 ≤ value <;> simp [high]

namespace Operator

/-- The result of an operator on numbers below 256, and its flag if any. -/
def onNumbers (operator : Operator) (first second : Nat) :
    Nat × Option Nat :=
  match operator with
  | copy => (second, none)
  | or => (first ||| second, none)
  | and => (first &&& second, none)
  | xor => (first ^^^ second, none)
  | add =>
      ((first + second) % 256, some (if 255 < first + second then 1 else 0))
  | sub =>
      ((256 + first - second) % 256, some (if second < first then 1 else 0))
  | shiftRight => (first / 2, some (first % 2))
  | subFrom =>
      ((256 + second - first) % 256, some (if first < second then 1 else 0))
  | shiftLeft => (2 * first % 256, some (if 128 ≤ first then 128 else 0))

/-- On bytes an operator computes what it computes on their numbers. -/
theorem toNat_apply (operator : Operator) (first second : UInt8) :
    (operator.apply first second).1.toNat =
        (operator.onNumbers first.toNat second.toNat).1 ∧
      (operator.apply first second).2.map UInt8.toNat =
        (operator.onNumbers first.toNat second.toNat).2 := by
  have firstBound := first.toNat_lt
  have secondBound := second.toNat_lt
  cases operator with
  | copy => exact ⟨rfl, rfl⟩
  | or => exact ⟨UInt8.toNat_or first second, rfl⟩
  | and => exact ⟨UInt8.toNat_and first second, rfl⟩
  | xor => exact ⟨UInt8.toNat_xor first second, rfl⟩
  | add =>
      constructor
      · exact UInt8.toNat_add first second
      · simp [apply, onNumbers]
  | sub =>
      constructor
      · simp only [apply, onNumbers, UInt8.toNat_sub]
        omega
      · simp [apply, onNumbers, UInt8.lt_iff_toNat_lt]
  | shiftRight =>
      constructor
      · simp [apply, onNumbers, Nat.shiftRight_eq_div_pow]
      · simp [apply, onNumbers]
  | subFrom =>
      constructor
      · simp only [apply, onNumbers, UInt8.toNat_sub]
        omega
      · simp [apply, onNumbers, UInt8.lt_iff_toNat_lt]
  | shiftLeft =>
      constructor
      · simp [apply, onNumbers, Nat.shiftLeft_eq, Nat.mul_comm]
      · simp [apply, onNumbers, and_highest_bit firstBound]

end Operator

/-! ## Registers after an instruction -/

namespace State

@[simp]
theorem register_advance (state : State) (register : Register) :
    state.advance.register register = state.register register :=
  rfl

/--
Whether a word executes, leaves a result in its target and, unless that is
the flag register, its flag in the flag register if it has one, and leaves
all other registers as they were.
-/
def Leaves
    (surroundings : Surroundings) (state : State) (word : UInt16)
    (target : Register) (result : Nat) (flag : Option Nat) : Prop :=
  ∃ instruction next,
    Instruction.decode? word = some instruction ∧
      instruction.execute surroundings state = .ok next ∧
      (next.register target).toNat = result ∧
      (∀ value ∈ flag,
        target ≠ flagRegister →
          (next.register flagRegister).toNat = value) ∧
      ∀ other,
        other ≠ target → (other ≠ flagRegister ∨ flag = none) →
          next.register other = state.register other

variable {surroundings : Surroundings} {state : State} {word : UInt16}
  {instruction : Instruction} {target : Register}

/-- The result goes over the flag if the target is the flag register. -/
theorem register_setResult
    (state : State) (target observed : Register)
    (output : UInt8 × Option UInt8) :
    (state.setResult target output).register observed =
      if target = observed then output.1
      else if observed = flagRegister then
        output.2.getD (state.register observed)
      else state.register observed := by
  rcases output with ⟨result, _ | flag⟩
  · simp [setResult]
  · simp only [setResult, register_setRegister, Option.getD_some,
      eq_comm (a := flagRegister)]

/-- An instruction that stores a result with its flag leaves both. -/
theorem leaves_of_execute_eq_setResult
    {output : UInt8 × Option UInt8}
    (decoded : Instruction.decode? word = some instruction)
    (executed :
      instruction.execute surroundings state =
        .ok (state.advance.setResult target output)) :
    state.Leaves surroundings word target output.1.toNat
      (output.2.map UInt8.toNat) := by
  refine ⟨instruction, _, decoded, executed, ?_, ?_, ?_⟩
  · rw [register_setResult, if_pos rfl]
  · intro value reported different
    rcases Option.map_eq_some_iff.mp reported with ⟨flag, stored, rfl⟩
    rw [register_setResult, if_neg different, if_pos rfl, stored]
    rfl
  · intro other different kept
    rw [register_setResult, if_neg (Ne.symm different), register_advance]
    rcases kept with notFlag | unflagged
    · rw [if_neg notFlag]
    · rw [Option.map_eq_none_iff.mp unflagged]
      split <;> rfl

theorem leaves_combine
    (surroundings : Surroundings) (state : State) (operator : Operator)
    (first second : Register) :
    let output :=
      operator.onNumbers (state.register first).toNat
        (state.register second).toNat
    state.Leaves surroundings
      (UInt16.ofNat (Instruction.xyWord 0x8 first second operator.code))
      first output.1 output.2 := by
  intro output
  rcases operator.toNat_apply (state.register first) (state.register second)
    with ⟨result, flag⟩
  have executed :
      (Instruction.combine operator first second).execute surroundings
          state =
        .ok (state.advance.setResult first
          (operator.apply (state.register first) (state.register second))) :=
    rfl
  have leaves :=
    leaves_of_execute_eq_setResult
      (Instruction.decode?_encode (.combine operator first second)) executed
  rw [result, flag] at leaves
  exact leaves

theorem leaves_addByte
    (surroundings : Surroundings) (state : State) (target : Register)
    (value : UInt8) :
    state.Leaves surroundings
      (UInt16.ofNat (Instruction.xkWord 0x7 target value.toNat)) target
      (((state.register target).toNat + value.toNat) % 256) none := by
  have executed :
      (Instruction.addByte target value).execute surroundings state =
        .ok (state.advance.setResult target
          (state.register target + value, none)) :=
    rfl
  have leaves :=
    leaves_of_execute_eq_setResult
      (Instruction.decode?_encode (.addByte target value)) executed
  rw [UInt8.toNat_add] at leaves
  exact leaves

end State

/--
For every state and every pair of registers, equal or not and the flag
register among them, the words `8xy4` to `8xy7` and `8xyE` leave in the
first register what they compute from both values before the instruction.
The flag register gets the flag, unless it is itself the first register and
keeps the result.  The words `7xkk` and `8xy0` to `8xy3` have no flag, and
no word changes any other register.
-/
theorem arithmetic_leaves_result_and_flag
    (surroundings : Surroundings) (state : State) (x y : Register)
    (kk : UInt8) :
    let a := (state.register x).toNat
    let b := (state.register y).toNat
    let leaves (last : Nat) :=
      state.Leaves surroundings
        (UInt16.ofNat (Instruction.xyWord 0x8 x y last)) x
    leaves 0x4 ((a + b) % 256) (some (if 255 < a + b then 1 else 0)) ∧
      leaves 0x5 ((256 + a - b) % 256) (some (if b < a then 1 else 0)) ∧
      leaves 0x6 (a / 2) (some (a % 2)) ∧
      leaves 0x7 ((256 + b - a) % 256) (some (if a < b then 1 else 0)) ∧
      leaves 0xE (2 * a % 256) (some (if 128 ≤ a then 128 else 0)) ∧
      state.Leaves surroundings
        (UInt16.ofNat (Instruction.xkWord 0x7 x kk.toNat)) x
        ((a + kk.toNat) % 256) none ∧
      leaves 0x0 b none ∧
      leaves 0x1 (a ||| b) none ∧
      leaves 0x2 (a &&& b) none ∧
      leaves 0x3 (a ^^^ b) none := by
  have row (operator : Operator) :=
    state.leaves_combine surroundings operator x y
  exact
    ⟨row .add, row .sub, row .shiftRight, row .subFrom, row .shiftLeft,
      state.leaves_addByte surroundings x kk, row .copy, row .or, row .and,
      row .xor⟩

end ChipEight
