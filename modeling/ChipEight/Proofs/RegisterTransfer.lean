import ChipEight.Proofs.Effect
import ChipEight.Proofs.Memory

/-!
# Registers and digits in memory

`Fx55` writes the registers up to one of them to memory, `Fx65` reads them
back, and `Fx33` writes the decimal digits of one register.  All three start
at the index, which they leave alone, and count through folded addresses; a
block of at most sixteen bytes never folds onto itself.  Saving and loading
therefore undo each other in both orders
(`register_transfers_round_trip`).
-/

namespace ChipEight

open Instruction (xkWord)

/-- The digits of a byte are below ten and make up its value. -/
theorem exists_decimalDigits_eq (value : UInt8) :
    ∃ hundreds tens ones : UInt8,
      decimalDigits value = [hundreds, tens, ones] ∧
        (hundreds.toNat ≤ 9 ∧ tens.toNat ≤ 9 ∧ ones.toNat ≤ 9) ∧
          100 * hundreds.toNat + 10 * tens.toNat + ones.toNat =
            value.toNat := by
  have bound := value.toNat_lt
  refine ⟨_, _, _, rfl, ?_⟩
  simp only [UInt8.toNat_mod, UInt8.toNat_div, UInt8.reduceToNat]
  omega

namespace State

variable {last register : Register}

theorem getElem_registersThrough
    (state : State)
    (listed : register.val < (state.registersThrough last).length) :
    (state.registersThrough last)[register.val] =
      state.register register := by
  simp [registersThrough, State.register]

end State

/-! ## Each transfer -/

namespace Instruction

variable (surroundings : Surroundings) (state : State)
  {last register : Register}

/-- A saved register is in memory as far behind the index as its number says. -/
theorem byteAt_saved (reached : register ≤ last) :
    ((saveRegisters last).stateAfter surroundings state).memory.byteAt
        (state.index.toNat + register.val) =
      state.register register := by
  have bound := last.isLt
  have listed : register.val < (state.registersThrough last).length := by
    rw [State.length_registersThrough]
    exact Nat.lt_succ_of_le reached
  have short : (state.registersThrough last).length ≤ 4096 := by
    rw [State.length_registersThrough]
    omega
  rw [memory_stateAfter, memoryAfter,
    Memory.byteAt_writeBlock short listed,
    State.getElem_registersThrough state listed]

/-- Registers that hold what memory holds behind the index are saved already. -/
theorem memory_saved_eq_self
    (held :
      ∀ register ≤ last,
        state.register register =
          state.memory.byteAt (state.index.toNat + register.val)) :
    ((saveRegisters last).stateAfter surroundings state).memory =
      state.memory := by
  rw [memory_stateAfter, memoryAfter]
  apply Memory.writeBlock_eq_self
  intro offset listed
  have reached : offset ≤ last.val := by
    rw [State.length_registersThrough] at listed
    exact Nat.le_of_lt_succ listed
  have named : offset < 16 := Nat.lt_of_le_of_lt reached last.isLt
  have entry :=
    @State.getElem_registersThrough last ⟨offset, named⟩ state listed
  exact entry.trans (held ⟨offset, named⟩ reached)

/-- Loaded registers have the bytes as far behind the index as they count. -/
theorem register_loaded :
    ((loadRegisters last).stateAfter surroundings state).register
        register =
      if register ≤ last then
        state.memory.byteAt (state.index.toNat + register.val)
      else state.register register := by
  rw [← Memory.read_add]
  exact state.register_fillRegisters last register

/-- The stored digits of a register are below ten and make up its value. -/
theorem digits_stored (register : Register) :
    let next := (storeDecimal register).stateAfter surroundings state
    let digit (k : Nat) :=
      (next.memory.byteAt (state.index.toNat + k)).toNat
    (digit 0 ≤ 9 ∧ digit 1 ≤ 9 ∧ digit 2 ≤ 9) ∧
      100 * digit 0 + 10 * digit 1 + digit 2 =
        (state.register register).toNat := by
  intro next digit
  rcases exists_decimalDigits_eq (state.register register) with
    ⟨hundreds, tens, ones, digits, small, value⟩
  have stored {k : Nat} (listed : k < [hundreds, tens, ones].length) :
      digit k = ([hundreds, tens, ones][k]).toNat := by
    simp only [digit, next, memory_stateAfter, memoryAfter, digits]
    rw [Memory.byteAt_writeBlock (by simp) listed]
  rw [stored (by simp), stored (by simp), stored (by simp)]
  exact ⟨small, value⟩

end Instruction

/-! ## Transfers one after another -/

/--
In every state the words `Fx55`, `Fx65` and `Fx33` execute and leave the
index alone.  The first puts every register up to `x` into memory, the
second fills these registers from there, and the third stores the three
digits of register `x`.  Saving, changing all registers in any way and
loading restores the registers up to `x` and leaves the others changed;
loading and then saving leaves memory as it was.
-/
theorem register_transfers_round_trip
    (surroundings : Surroundings) (state : State) (x : Register) :
    let i := state.index.toNat
    let executed (before : State) (low : Nat) :=
      before.afterWord? surroundings (UInt16.ofNat (xkWord 0xF x low))
    ∃ saved loaded stored,
      executed state 0x55 = some saved ∧
        executed state 0x65 = some loaded ∧
        executed state 0x33 = some stored ∧
        (∀ k ≤ x, saved.memory.byteAt (i + k.val) = state.register k) ∧
        (∀ k ≤ x, loaded.register k = state.memory.byteAt (i + k.val)) ∧
        (let h := (stored.memory.byteAt (i + 0)).toNat
          let t := (stored.memory.byteAt (i + 1)).toNat
          let o := (stored.memory.byteAt (i + 2)).toNat
          (h ≤ 9 ∧ t ≤ 9 ∧ o ≤ 9) ∧
            100 * h + 10 * t + o = (state.register x).toNat) ∧
        (saved.index = state.index ∧ loaded.index = state.index ∧
          stored.index = state.index) ∧
        (∀ registers : Vector UInt8 16,
          ∃ restored,
            executed { saved with registers := registers } 0x65 =
                some restored ∧
              (∀ k ≤ x, restored.register k = state.register k) ∧
              ∀ k, x < k → restored.register k = registers.get k) ∧
        ∃ resaved,
          executed loaded 0x55 = some resaved ∧
            resaved.memory = state.memory := by
  intro i executed
  have save (before : State) :
      executed before 0x55 =
        some ((Instruction.saveRegisters x).stateAfter surroundings before) :=
    @State.afterWord?_encode before (.saveRegisters x) surroundings rfl
  have load (before : State) :
      executed before 0x65 =
        some ((Instruction.loadRegisters x).stateAfter surroundings before) :=
    @State.afterWord?_encode before (.loadRegisters x) surroundings rfl
  have store :
      executed state 0x33 =
        some ((Instruction.storeDecimal x).stateAfter surroundings state) :=
    @State.afterWord?_encode state (.storeDecimal x) surroundings rfl
  let saved := (Instruction.saveRegisters x).stateAfter surroundings state
  let loaded := (Instruction.loadRegisters x).stateAfter surroundings state
  let stored := (Instruction.storeDecimal x).stateAfter surroundings state
  have found (k : Register) (reached : k ≤ x) :
      saved.memory.byteAt (i + k.val) = state.register k :=
    Instruction.byteAt_saved surroundings state reached
  have filled (k : Register) (reached : k ≤ x) :
      loaded.register k = state.memory.byteAt (i + k.val) :=
    (Instruction.register_loaded surroundings state).trans (if_pos reached)
  have digits := Instruction.digits_stored surroundings state x
  have savedIndex : saved.index = state.index :=
    Instruction.index_stateAfter
  have loadedIndex : loaded.index = state.index :=
    Instruction.index_stateAfter
  have storedIndex : stored.index = state.index :=
    Instruction.index_stateAfter
  refine
    ⟨saved, loaded, stored, save state, load state, store, found, filled,
      digits, ⟨savedIndex, loadedIndex, storedIndex⟩, ?_, ?_⟩
  · intro registers
    let replaced : State := { saved with registers := registers }
    refine ⟨_, load replaced, ?_, ?_⟩
    · intro k reached
      rw [Instruction.register_loaded, if_pos reached]
      exact found k reached
    · intro k above
      rw [Instruction.register_loaded, if_neg (Fin.not_le.mpr above)]
      rfl
  · have same : loaded.memory = state.memory :=
      Instruction.memory_stateAfter
    refine ⟨_, save loaded, ?_⟩
    rw [← same] at filled ⊢
    apply Instruction.memory_saved_eq_self
    rw [loadedIndex]
    exact filled

end ChipEight
