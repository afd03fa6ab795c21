import ChipEight.Proofs.Cycle
import ChipEight.Proofs.Memory

/-!
# Loading programs

A program is laid over the memory from address `200` on if it fits there, and
refused otherwise.  Fitting is exact: a program of 3584 bytes reaches the last
byte of memory.  What a load does is `Machine.load_is_exact_or_nothing`, for
every machine and every program, and a file loads as its contents do.
-/

namespace ChipEight

namespace Memory

variable {memory : Memory} {start place : Nat} {program : List UInt8}

/-! ## Overlays that fit -/

/-- An overlay that fits is found where it was laid. -/
theorem byteAt_overlay
    {offset : Nat}
    (reached : offset < program.length)
    (fits : start + program.length ≤ 4096) :
    (memory.overlay start program).byteAt (start + offset) =
      program[offset] := by
  have bound : start + offset < 4096 := by omega
  have entry := memory.getElem_overlay start program ⟨start + offset, bound⟩
  rw [if_pos (Nat.le_add_right start offset), Nat.add_sub_cancel_left,
    List.getElem?_eq_getElem reached, Option.getD_some] at entry
  rw [← entry, byteAt]
  simp only [Nat.mod_eq_of_lt bound]
  rfl

/-- An overlay leaves the bytes alone that it does not reach. -/
theorem byteAt_overlay_of_outside
    (outside :
      place % 4096 < start ∨ start + program.length ≤ place % 4096) :
    (memory.overlay start program).byteAt place = memory.byteAt place := by
  have entry :=
    memory.getElem_overlay start program
      ⟨place % 4096, Nat.mod_lt place (by decide)⟩
  rcases outside with below | beyond
  · rw [if_neg (Nat.not_le.mpr below)] at entry
    exact entry
  · have past : program[place % 4096 - start]? = none :=
      List.getElem?_eq_none (by omega)
    rw [past, Option.getD_none, ite_self] at entry
    exact entry

end Memory

/-! ## Loads -/

/-- A refusal says how long the program is and how long it may be. -/
theorem LoadError.message_tooLarge (size : Nat) :
    (LoadError.tooLarge size 3584).message =
      "program is " ++ toString size
        ++ " bytes but at most 3584 fit in memory" := by
  have limit :
      " bytes but at most " ++ (toString 3584 ++ " fit in memory") =
        " bytes but at most 3584 fit in memory" := by
    decide
  unfold message
  dsimp only
  rw [String.append_assoc, String.append_assoc, limit]

namespace Machine

theorem result_load_eq_ok_iff (machine : Machine) (program : Array UInt8) :
    (machine.load program).result = .ok () ↔
      program.size ≤ Memory.programLimit := by
  rcases Nat.lt_or_ge Memory.programLimit program.size with large | fits
  · rw [load_of_too_large large]
    simp [Nat.not_le.mpr large]
  · rw [load_of_fits fits]
    simp [fits]

/--
A load succeeds exactly if the program has at most 3584 bytes.  It then puts
every byte in its place behind address `200` and changes nothing else at all;
if it fails it changes nothing and says how long the program is and may be.
A file loads as its contents do, and one that cannot be read changes nothing.
-/
theorem load_is_exact_or_nothing (machine : Machine) (program : Array UInt8) :
    let loaded := machine.load program
    let before := machine.state.memory
    let after := loaded.machine.state.memory
    (loaded.result = .ok () ↔ program.size ≤ 3584) ∧
      (program.size ≤ 3584 →
        (∀ (k : Nat) (inProgram : k < program.size),
            after.byteAt (0x200 + k) = program[k]) ∧
          (∀ address,
            address % 4096 < 0x200 ∨
                0x200 + program.size ≤ address % 4096 →
              after.byteAt address = before.byteAt address) ∧
          loaded.machine =
            { machine with
              state := { machine.state with memory := after } }) ∧
      (3584 < program.size →
        loaded.result = .error (.tooLarge program.size 3584) ∧
          (LoadError.tooLarge program.size 3584).message =
            "program is " ++ toString program.size
              ++ " bytes but at most 3584 fit in memory" ∧
          loaded.machine = machine) ∧
      (∀ path, machine.loadFile path (some program) = loaded) ∧
      ∀ path,
        machine.loadFile path none =
          ⟨.error (.unreadable path), machine, []⟩ := by
  intro loaded before after
  refine
    ⟨machine.result_load_eq_ok_iff program, ?_, ?_, fun _ => rfl,
      fun _ => rfl⟩
  · intro fits
    have equation : loaded = _ := load_of_fits fits machine
    have overlaid :
        after = before.overlay Memory.programStart program.toList := by
      simp only [after, equation]
      rfl
    have reach : Memory.programStart + program.toList.length ≤ 4096 := by
      simp only [Memory.programStart, Array.length_toList]
      omega
    refine ⟨?_, ?_, ?_⟩
    · intro k inProgram
      rw [overlaid]
      exact Memory.byteAt_overlay inProgram reach
    · intro address outside
      rw [overlaid]
      exact Memory.byteAt_overlay_of_outside outside
    · rw [overlaid, equation]
  · intro large
    have equation : loaded = _ := load_of_too_large large machine
    rw [equation]
    exact ⟨rfl, LoadError.message_tooLarge program.size, rfl⟩

end Machine

end ChipEight
