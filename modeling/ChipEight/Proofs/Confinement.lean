import ChipEight.Proofs.FrameHistory
import ChipEight.Proofs.Lockstep

/-!
# Where the keypad and the row wrapping show

Two machines in the same state with the same random stream may differ in the
keys held and in whether sprites continue at the top of the screen.  A cycle
sees such a difference only if it resumes with different keys, tests a key
that only one machine holds, or draws over the bottom of the screen with
different wrapping.  Until then they stay in the same state, whatever the
host does to both, and a draw that clips its sprite is a wrapped draw of the
rows that are on the screen (`host_inputs_stay_confined`).
-/

namespace ChipEight

/-! ## Sprites over the bottom of the screen -/

namespace Sprite

/-- The points of a sprite's rows, numbered from a row on. -/
def pointsFrom (start : Nat) (sprite : Sprite) : List (Nat × Nat) :=
  (sprite.zipIdx start).flatMap fun (bits, row) => (rowPoints bits).map (row, ·)

theorem le_of_mem_pointsFrom
    {start : Nat} {sprite : Sprite} {point : Nat × Nat}
    (member : point ∈ sprite.pointsFrom start) :
    start ≤ point.1 := by
  rcases List.mem_flatMap.mp member with ⟨⟨bits, row⟩, numbered, inRow⟩
  rcases List.mem_map.mp inRow with ⟨column, _, rfl⟩
  exact (List.mk_mem_zipIdx_iff_le_and_getElem?_sub.mp numbered).1

/-- The points of the first rows are the points above the row behind them. -/
theorem pointsFrom_take (start : Nat) (sprite : Sprite) (rows : Nat) :
    pointsFrom start (sprite.take rows) =
      (sprite.pointsFrom start).filter fun point =>
        decide (point.1 < start + rows) := by
  induction sprite generalizing start rows with
  | nil => simp [pointsFrom]
  | cons bits rest ih =>
      cases rows with
      | zero =>
          symm
          apply List.filter_eq_nil_iff.mpr
          intro point member
          have below := le_of_mem_pointsFrom member
          simp only [decide_eq_true_eq]
          omega
      | succ rows =>
          have head :
              ((rowPoints bits).map fun column => (start, column)).filter
                  (fun point => decide (point.1 < start + (rows + 1))) =
                (rowPoints bits).map fun column => (start, column) := by
            apply List.filter_eq_self.mpr
            intro point member
            rcases List.mem_map.mp member with ⟨column, _, rfl⟩
            simp
          have tail := ih (start + 1) rows
          rw [Nat.add_assoc, Nat.add_comm 1] at tail
          simp only [pointsFrom, List.take_succ_cons, List.zipIdx_cons,
            List.flatMap_cons, List.filter_append, head] at tail ⊢
          rw [tail]

/--
Without row wrapping a sprite lands where its first rows, up to the bottom
of the screen, land with row wrapping.  Above the bottom a point has the same
place either way, and below it clipping leaves the point out.
-/
theorem landings_clipped
    {row column : UInt64} {sprite : Sprite}
    (short : row.toNat + sprite.length ≤ 2 ^ 64) :
    sprite.landings false row column =
      landings true row column (sprite.take (32 - row.toNat)) := by
  have cut : points (sprite.take (32 - row.toNat)) = _ :=
    pointsFrom_take 0 sprite (32 - row.toNat)
  rw [landings, landings, cut, List.filterMap_filter]
  apply List.filterMap_congr
  rintro ⟨down, right⟩ member
  have inSprite : down < sprite.length := (mem_points.mp member).1.1
  have line : (row + UInt64.ofNat down).toNat = row.toNat + down := by
    rw [UInt64.toNat_add, UInt64.toNat_ofNat']
    omega
  by_cases above : down < 32 - row.toNat
  · have visible : ¬ 32 ≤ row.toNat + down := by omega
    simp [Cell.place?, line, above, visible]
  · have below : 32 ≤ row.toNat + down := by omega
    simp [Cell.place?, line, above, below]

end Sprite

/-! ## Clipped draws -/

namespace State

variable {state : State} {column row : Register} {height : Fin 16}

/-- A draw that clips its sprite wraps the rows that are on the screen. -/
theorem drawing_clipped
    (state : State) (column row : Register) (height : Fin 16) :
    state.drawing false column row height =
      state.frame.draw true
        (state.register row).toUInt64 (state.register column).toUInt64
        ((state.memory.readBlock state.index height.val).take
          (32 - (state.register row).toNat)) := by
  have shortRow := (state.register row).toNat_lt
  have shortSprite := height.isLt
  rw [drawing, Frame.draw, Frame.draw, Sprite.landings_clipped,
    UInt8.toNat_toUInt64]
  rw [UInt8.toNat_toUInt64, Memory.length_readBlock]
  omega

/-- Row wrapping does not matter to a sprite that ends on the screen. -/
theorem drawing_of_fits
    (fits : (state.register row).toNat + height.val ≤ 32)
    (wrapRows : Bool) :
    state.drawing wrapRows column row height =
      state.drawing true column row height := by
  cases wrapRows with
  | true => rfl
  | false =>
      rw [drawing_clipped, List.take_of_length_le, drawing]
      rw [Memory.length_readBlock]
      omega

end State

/-! ## Cycles that see a difference -/

/--
Whether an instruction looks where two machines in the same state differ: at
a key that only one of them holds, or at the wrapping of rows for a sprite
that runs off the bottom.  A register above fifteen names no key.
-/
def Instruction.SeesDifference (first second : Machine) :
    Instruction → Prop
  | skip (.keyDown register) | skip (.keyUp register) =>
      ∃ key : Key,
        (first.state.register register).toNat = key.val ∧
          ¬ (key ∈ first.keypad.heldKeys ↔ key ∈ second.keypad.heldKeys)
  | draw _ row height =>
      32 < (first.state.register row).toNat + height.val ∧
        first.config.wrapRows ≠ second.config.wrapRows
  | _ => False

instance (keypad : Keypad) : DecidablePred (· ∈ keypad.heldKeys) :=
  fun _ => inferInstanceAs (Decidable (keypad.isHeld _ = true))

instance (first second : Machine) (instruction : Instruction) :
    Decidable (instruction.SeesDifference first second) := by
  unfold Instruction.SeesDifference
  split <;> infer_instance

namespace Machine

variable {first second : Machine} {instruction : Instruction}

/--
Whether the next cycle takes a key while the lowest held keys of two
machines differ, or executes an instruction that sees a difference.
-/
def SeesDifference (first second : Machine) : Prop :=
  (first.state.waiting ≠ none ∧
      first.keypad.lowest? ≠ second.keypad.lowest?) ∨
    ∃ instruction ∈ first.upcoming?, instruction.SeesDifference first second

instance (first second : Machine) : Decidable (first.SeesDifference second) := by
  unfold SeesDifference
  infer_instance

/-- Whether two machines differ at most in what the host sets. -/
def SameButHost (first second : Machine) : Prop :=
  first.state = second.state ∧ first.random = second.random

theorem isHeld_eq_of_same_key
    {code : UInt8}
    (same :
      ∀ key : Key, code.toNat = key.val →
        (key ∈ first.keypad.heldKeys ↔ key ∈ second.keypad.heldKeys)) :
    first.keypad.isHeld code = second.keypad.isHeld code := by
  by_cases inRange : code.toNat < 16
  · have key := same ⟨code.toNat, inRange⟩ rfl
    have named : UInt8.ofNat code.toNat = code := UInt8.ofNat_toNat
    rw [Keypad.heldKeys, Keypad.heldKeys] at key
    simp only [Set.mem_ofPred_eq, named] at key
    exact Bool.eq_iff_iff.mpr key
  · simp only [Keypad.isHeld, inRange, dif_neg, not_false_eq_true]

/-- An instruction that sees no difference does the same on both machines. -/
theorem execute_eq_of_not_seesDifference
    (same : first.SameButHost second)
    (unseen : ¬ instruction.SeesDifference first second) :
    instruction.execute first.surroundings first.state =
      instruction.execute second.surroundings first.state := by
  apply Instruction.execute_congr
  · intro target mask _
    exact congrArg RandomStream.byte same.2
  · intro register tests
    apply isHeld_eq_of_same_key
    intro key named
    by_contra different
    rcases tests with rfl | rfl <;> exact unseen ⟨key, named, different⟩
  · rintro column row height rfl
    by_cases beyond : 32 < (first.state.register row).toNat + height.val
    · have wrapping : first.config.wrapRows = second.config.wrapRows := by
        by_contra different
        exact unseen ⟨beyond, different⟩
      rw [surroundings, surroundings, wrapping]
    · have fits := Nat.le_of_not_lt beyond
      rw [State.drawing_of_fits fits,
        State.drawing_of_fits fits second.surroundings.wrapRows]

/-- A cycle that sees no difference leaves none. -/
theorem agree_cycle_of_not_seesDifference
    (same : first.SameButHost second)
    (unseen : ¬ first.SeesDifference second) :
    first.cycle.Agree SameButHost second.cycle := by
  have keys :
      first.state.waiting ≠ none →
        first.keypad.lowest? = second.keypad.lowest? := by
    intro waits
    by_contra different
    exact unseen (Or.inl ⟨waits, different⟩)
  have agree :=
    cycle_congr same.1 keys fun instruction upcoming =>
      execute_eq_of_not_seesDifference same fun sees =>
        unseen (Or.inr ⟨instruction, upcoming, sees⟩)
  refine ⟨agree.result, agree.events, agree.machine, ?_⟩
  rw [random_cycle, random_cycle, upcoming?_congr same.1, same.2]

end Machine

/-- Machines that differ in what the host sets, until a cycle sees it. -/
def hostCoupling : Coupling where
  Related := Machine.SameButHost
  Parts := Machine.SeesDifference
  cycle := Machine.agree_cycle_of_not_seesDifference
  perform := by
    rintro first second operation ⟨states, randoms⟩ noCycle
    exact Machine.agree_perform_of_noCycle states noCycle fun _ =>
      ⟨rfl, randoms⟩
  picture := by
    rintro first second ⟨states, _⟩
    rw [Machine.picture, Machine.picture, Machine.soundActive,
      Machine.soundActive, states]

/--
For two machines in the same state with the same random stream a cycle does
the same unless it sees a difference of their keypads or row wrapping, so
they stay in the same state under the same operations up to the first such
cycle, and sessions on the same pacer respond the same.  A draw that clips
its sprite at the bottom does what a wrapping draw does with the rows of the
sprite that are on the screen.
-/
theorem host_inputs_stay_confined :
    (∀ first second : Machine,
      first.SameButHost second → ¬ first.SeesDifference second →
        first.cycle.Agree Machine.SameButHost second.cycle) ∧
      (∀ (first second : Machine) operations,
        first.SameButHost second →
        (∀ steps ∈ (first.trace operations).zip (second.trace operations),
          steps.1.operation = .cycle →
            ¬ steps.1.before.SeesDifference steps.2.before) →
        (first.after operations).SameButHost (second.after operations)) ∧
      (∀ (session other : Session) actions,
        session.pacer = other.pacer →
        session.machine.SameButHost other.machine →
        let operations := session.history actions
        (∀ steps ∈
            (session.machine.trace operations).zip
              (other.machine.trace operations),
          steps.1.operation = .cycle →
            ¬ steps.1.before.SeesDifference steps.2.before) →
        other.history actions = operations ∧
          List.Forall₂ (Response.Agree Machine.SameButHost)
            (session.responses actions) (other.responses actions)) ∧
      ∀ (clipping wrapping : Machine) column row height,
        clipping.SameButHost wrapping →
        clipping.config.wrapRows = false → wrapping.config.wrapRows = true →
        clipping.upcoming? = some (.draw column row height) →
        let state := wrapping.state
        let sprite := state.memory.readBlock state.index height.val
        let drawing :=
          state.frame.draw wrapping.config.wrapRows
            (state.register row).toUInt64 (state.register column).toUInt64
            (sprite.take (32 - (state.register row).toNat))
        clipping.cycle.machine.state.frame = drawing.frame ∧
          clipping.cycle.machine.state.register flagRegister =
            bit drawing.collides := by
  refine ⟨?_, ?_, ?_, ?_⟩
  · intro first second same unseen
    exact Machine.agree_cycle_of_not_seesDifference same unseen
  · intro first second operations same unseen
    exact hostCoupling.after same unseen
  · intro session other actions pacers same operations unseen
    exact hostCoupling.run pacers same unseen
  · intro clipping wrapping column row height same clips wraps upcoming
    rcases Machine.cycle_of_upcoming_draw upcoming with ⟨_, drawn, flag⟩
    rw [drawn, flag, clips, State.drawing_clipped, same.1, wraps]
    exact ⟨rfl, rfl⟩

/-- A machine that tests a key that does not exist and then draws two sprites. -/
def clippingHost : Machine :=
  ((Machine.create .standard (.cycling #[])).load
    #[0x60, 0x25, 0xE0, 0x9E, 0x61, 0x1E, 0xD0, 0x12, 0xD0, 0x13]).machine

/-- The same machine with row wrapping and a key held. -/
def wrappingHost : Machine :=
  { clippingHost with
    keypad := clippingHost.keypad.press 0x5
    config := ⟨true, 18⟩ }

/-- The first sprite ends on the last row, the second one row below it. -/
theorem host_inputs_stay_confined_to_the_bottom :
    let pacer : Pacer := ⟨4, by decide, none, 0⟩
    let session : Session := ⟨clippingHost, some pacer⟩
    let other : Session := ⟨wrappingHost, some pacer⟩
    let operations := session.history [.tick]
    let clipping := clippingHost.after operations
    let wrapping := wrappingHost.after operations
    clippingHost.SameButHost wrappingHost ∧
      (∀ steps ∈
          (clippingHost.trace operations).zip (wrappingHost.trace operations),
        steps.1.operation = .cycle →
          ¬ steps.1.before.SeesDifference steps.2.before) ∧
      other.history [.tick] = operations ∧
      clipping.SameButHost wrapping ∧
      clipping.upcoming? = some (.draw 0 1 3) ∧
      clipping.SeesDifference wrapping ∧
      clipping.cycle.machine.state.frame =
        (wrapping.state.frame.draw true 30 37 [0xF0, 0x90]).frame := by
  intro pacer session other operations clipping wrapping
  rcases host_inputs_stay_confined with ⟨_, runs, sessions, draws⟩
  have same : clippingHost.SameButHost wrappingHost := ⟨rfl, rfl⟩
  have unseen :
      ∀ steps ∈
          (clippingHost.trace operations).zip (wrappingHost.trace operations),
        steps.1.operation = .cycle →
          ¬ steps.1.before.SeesDifference steps.2.before := by
    decide +kernel
  have upcoming : clipping.upcoming? = some (.draw 0 1 3) := by
    decide +kernel
  have still := runs _ _ operations same unseen
  have clips : clipping.config.wrapRows = false := by decide +kernel
  have wraps : wrapping.config.wrapRows = true := by decide +kernel
  have clipped := draws clipping wrapping 0 1 3 still clips wraps upcoming
  refine
    ⟨same, unseen, (sessions session other [.tick] rfl same unseen).1, still,
      upcoming, by decide +kernel, ?_⟩
  rw [clipped.1]
  decide +kernel

end ChipEight
