import ChipEight.Proofs.Effect
import ChipEight.Proofs.Sprite

/-!
# Checked execution

A second account of instructions in which every index and every exact sum,
difference and product is checked: an operation yields nothing as soon as
one is out of range.  Frames are grids of bytes here that drawing inverts by
exclusive or.  Register operands are digits of the opcode and name registers
by their type, and sums that wrap by design are not checked.
`Instruction.execute?_eq_some` says that no check fails in a state with at
most sixteen return addresses, and that the result is the one of
`Instruction.execute`.
-/

namespace ChipEight

/-! ## Checked arithmetic and indices -/

/-- A sum, if it is below a limit. -/
def sum? (limit first second : Nat) : Option Nat :=
  if first + second < limit then some (first + second) else none

/-- A difference, if it is not negative. -/
def difference? (first second : Nat) : Option Nat :=
  if second ≤ first then some (first - second) else none

/-- A product, if it is below a limit. -/
def product? (limit first second : Nat) : Option Nat :=
  if first * second < limit then some (first * second) else none

/-- A vector with one entry replaced, if it has that entry. -/
def store? {α : Type} {size : Nat}
    (entries : Vector α size) (place : Nat) (value : α) :
    Option (Vector α size) :=
  if inRange : place < size then some (entries.set place value) else none

theorem sum?_eq_some
    {limit first second : Nat}
    (small : first + second < limit) :
    sum? limit first second = some (first + second) :=
  if_pos small

theorem difference?_eq_some
    {first second : Nat}
    (ordered : second ≤ first) :
    difference? first second = some (first - second) :=
  if_pos ordered

theorem product?_eq_some
    {limit first second : Nat}
    (small : first * second < limit) :
    product? limit first second = some (first * second) :=
  if_pos small

theorem store?_eq_some
    {α : Type} {size place : Nat} {entries : Vector α size} {value : α}
    (inRange : place < size) :
    store? entries place value = some (entries.set place value) :=
  dif_pos inRange

/-! ## Memory -/

namespace Memory

/-- The byte at a folded address, if memory has that cell. -/
def read? (memory : Memory) (address : UInt16) : Option UInt8 :=
  memory.bytes[address.toNat % 4096]?

/-- The memory with the byte at a folded address replaced, if it has one. -/
def write?
    (memory : Memory) (address : UInt16) (value : UInt8) : Option Memory :=
  (store? memory.bytes (address.toNat % 4096) value).map Memory.mk

/-- The memory with consecutive bytes replaced one after another. -/
def writeBlock?
    (memory : Memory) (address : UInt16) : List UInt8 → Option Memory
  | [] => some memory
  | value :: rest => do
      let memory ← memory.write? address value
      memory.writeBlock? (address + 1) rest

/-- The bytes of a sprite, if they fit into the buffer of fifteen bytes. -/
def readSprite?
    (memory : Memory) (address : UInt16) (height : Nat) : Option Sprite :=
  if height ≤ 15 then
    (List.range height).mapM fun offset =>
      memory.read? (address + UInt16.ofNat offset)
  else none

/-- The memory with a program copied to a place where it fits. -/
def overlay?
    (memory : Memory) (start : Nat) (program : List UInt8) : Option Memory :=
  if start + program.length ≤ 4096 then some (memory.overlay start program)
  else none

variable (memory : Memory) (address : UInt16)

@[simp]
theorem read?_eq_some : memory.read? address = some (memory.read address) :=
  Vector.getElem?_eq_getElem (slot_lt address)

@[simp]
theorem write?_eq_some (value : UInt8) :
    memory.write? address value = some (memory.write address value) := by
  rw [write?, store?_eq_some (slot_lt address)]
  rfl

/-- Writing a block never leaves memory, since every address is reduced. -/
@[simp]
theorem writeBlock?_eq_some (values : List UInt8) :
    memory.writeBlock? address values =
      some (memory.writeBlock address values) := by
  induction values generalizing memory address with
  | nil => rfl
  | cons value rest ih =>
      rw [writeBlock?, write?_eq_some]
      exact ih (memory.write address value) (address + 1)

theorem readSprite?_eq_some
    {height : Nat}
    (fits : height ≤ 15) :
    memory.readSprite? address height =
      some (memory.readBlock address height) := by
  simp only [readSprite?, fits, if_true, read?_eq_some]
  exact List.mapM_pure

end Memory

/-! ## Frames as grids of bytes -/

/-- The cells of a frame as bytes, row after row. -/
abbrev Grid := Vector (Vector UInt8 64) 32

/-- The bytes of a frame: one for a lit cell and zero for an unlit one. -/
def Frame.grid (frame : Frame) : Grid :=
  frame.rows.map fun cells => cells.map bit

namespace Grid

/-- The byte of a cell. -/
def byte (grid : Grid) (cell : Cell) : UInt8 :=
  (grid.get cell.row).get cell.column

/-- The frame of a grid, if every byte is zero or one. -/
def frame? (grid : Grid) : Option Frame :=
  if ∀ row column,
      grid.byte ⟨row, column⟩ = 0 ∨ grid.byte ⟨row, column⟩ = 1 then
    some ⟨grid.map fun cells => cells.map fun cell => cell == 1⟩
  else none

/--
The grid with the lowest bit of one byte inverted, and whether the byte is
zero then.  A row below the grid is ignored unless rows wrap.
-/
def toggle?
    (grid : Grid) (wrapRows : Bool) (row column : Nat) :
    Option (Grid × Bool) :=
  if !wrapRows && 32 ≤ row then some (grid, false)
  else do
    let cells ← grid[row % 32]?
    let cell ← cells[column % 64]?
    let cells ← store? cells (column % 64) (cell ^^^ 1)
    let grid ← store? grid (row % 32) cells
    some (grid, cell ^^^ 1 == 0)

/-- Toggles the points of a sprite one after another. -/
def togglePoints?
    (wrapRows : Bool) (row column : Nat) :
    List (Nat × Nat) → Grid × Bool → Option (Grid × Bool)
  | [], drawing => some drawing
  | (down, right) :: rest, (grid, collision) => do
      let pointRow ← sum? (2 ^ 64) row down
      let pointColumn ← sum? (2 ^ 64) column right
      let (grid, erased) ← grid.toggle? wrapRows pointRow pointColumn
      togglePoints? wrapRows row column rest (grid, collision || erased)

/-- Draws a sprite and tells whether it put out a cell. -/
def draw?
    (grid : Grid) (wrapRows : Bool) (row column : Nat) (sprite : Sprite) :
    Option (Grid × Bool) :=
  togglePoints? wrapRows row column sprite.points (grid, false)

end Grid

theorem Drawing.collides_start (frame : Frame) :
    (Drawing.start frame).collides = false :=
  rfl

namespace Frame

variable (frame : Frame)

theorem get_grid (row : Fin 32) :
    frame.grid.get row = (frame.rows.get row).map bit :=
  Vector.getElem_map _ row.isLt

/-- The byte of a cell is one if the cell is lit and zero if not. -/
theorem byte_grid (cell : Cell) :
    frame.grid.byte cell = bit (frame.isLit cell) := by
  rw [Grid.byte, get_grid]
  exact Vector.getElem_map bit cell.column.isLt

theorem byte_grid_eq_zero_or_one (cell : Cell) :
    frame.grid.byte cell = 0 ∨ frame.grid.byte cell = 1 := by
  rw [byte_grid]
  cases frame.isLit cell
  · exact Or.inl rfl
  · exact Or.inr rfl

@[simp]
theorem frame?_grid : frame.grid.frame? = some frame := by
  rw [Grid.frame?,
    if_pos fun row column => frame.byte_grid_eq_zero_or_one ⟨row, column⟩]
  have decoded : (fun cell => bit cell == 1) = id := by
    funext cell
    cases cell <;> rfl
  simp [grid, Function.comp_def, decoded]

theorem bit_xor_one (lit : Bool) : bit lit ^^^ 1 = bit !lit := by
  cases lit <;> rfl

theorem bit_eq_zero (lit : Bool) : (bit lit == 0) = !lit := by
  cases lit <;> rfl

theorem grid_flip (cell : Cell) :
    (frame.flip cell).grid =
      frame.grid.set cell.row.val
        ((frame.grid.get cell.row).set cell.column.val
          (bit !frame.isLit cell) cell.column.isLt)
        cell.row.isLt := by
  rw [get_grid, grid, flip, Vector.map_set, Vector.map_set]
  rfl

/-- Inverting a byte of a frame's grid flips the cell. -/
theorem toggle?_grid (wrapRows : Bool) (row column : UInt64) :
    frame.grid.toggle? wrapRows row.toNat column.toNat =
      some ((frame.toggle wrapRows row column).frame.grid,
        (frame.toggle wrapRows row column).collides) := by
  rw [Grid.toggle?, toggle, Cell.place?]
  by_cases missed : (!wrapRows && 32 ≤ row.toNat) = true
  · simp [missed, Drawing.start, Drawing.collides]
  · have rowInRange : row.toNat % 32 < 32 := Nat.mod_lt _ (by decide)
    have columnInRange : column.toNat % 64 < 64 := Nat.mod_lt _ (by decide)
    have byte :
        frame.grid[row.toNat % 32][column.toNat % 64] =
          bit (frame.isLit (Cell.wrapped row column)) :=
      frame.byte_grid (Cell.wrapped row column)
    rw [if_neg missed, if_neg missed]
    simp only [Vector.getElem?_eq_getElem rowInRange,
      Vector.getElem?_eq_getElem columnInRange,
      store?_eq_some rowInRange, store?_eq_some columnInRange,
      Option.bind_eq_bind, Option.bind_some, byte, bit_xor_one,
      bit_eq_zero, Bool.not_not, Drawing.collides_flip]
    exact congrArg some
      (Prod.ext (frame.grid_flip (Cell.wrapped row column)).symm rfl)

/--
Toggling points draws them, as long as their coordinates do not overflow: the
exact sums are then the sixty-four-bit ones that the frame is drawn by.
-/
theorem togglePoints?_grid
    {wrapRows : Bool} {row column : UInt64} {points : List (Nat × Nat)}
    (small :
      ∀ point ∈ points,
        row.toNat + point.1 < 2 ^ 64 ∧ column.toNat + point.2 < 2 ^ 64)
    (drawing : Drawing) :
    Grid.togglePoints? wrapRows row.toNat column.toNat points
        (drawing.frame.grid, drawing.collides) =
      let cells := points.filterMap fun (down, right) =>
        Cell.place? wrapRows (row + UInt64.ofNat down)
          (column + UInt64.ofNat right)
      some ((cells.foldl Drawing.flip drawing).frame.grid,
        (cells.foldl Drawing.flip drawing).collides) := by
  induction points generalizing drawing with
  | nil => rfl
  | cons point rest ih =>
      rcases point with ⟨down, right⟩
      rcases List.forall_mem_cons.mp small with
        ⟨⟨smallRow, smallColumn⟩, smallRest⟩
      have pointRow :
          row.toNat + down = (row + UInt64.ofNat down).toNat := by
        simp only [UInt64.toNat_add, UInt64.toNat_ofNat', Nat.add_mod_mod]
        exact (Nat.mod_eq_of_lt smallRow).symm
      have pointColumn :
          column.toNat + right = (column + UInt64.ofNat right).toNat := by
        simp only [UInt64.toNat_add, UInt64.toNat_ofNat', Nat.add_mod_mod]
        exact (Nat.mod_eq_of_lt smallColumn).symm
      rw [Grid.togglePoints?, sum?_eq_some smallRow,
        sum?_eq_some smallColumn, pointRow, pointColumn]
      simp only [Option.bind_eq_bind, Option.bind_some, toggle?_grid,
        List.filterMap_cons, toggle]
      cases Cell.place? wrapRows (row + UInt64.ofNat down)
          (column + UInt64.ofNat right) with
      | none =>
          simp only [Drawing.collides_start, Bool.or_false]
          exact ih smallRest drawing
      | some cell =>
          have next := ih smallRest (drawing.flip cell)
          rw [Drawing.collides_flip] at next
          simp only [Drawing.collides_flip, Drawing.collides_start,
            Bool.false_or]
          exact next

/--
A sprite is drawn on the bytes as on the frame, if no coordinate overflows.
-/
theorem draw?_grid
    (wrapRows : Bool) (row column : UInt64) (sprite : Sprite)
    (smallRow : row.toNat + sprite.length < 2 ^ 64)
    (smallColumn : column.toNat + 8 < 2 ^ 64) :
    frame.grid.draw? wrapRows row.toNat column.toNat sprite =
      some ((frame.draw wrapRows row column sprite).frame.grid,
        (frame.draw wrapRows row column sprite).collides) := by
  have small (point : Nat × Nat) (member : point ∈ sprite.points) :
      row.toNat + point.1 < 2 ^ 64 ∧ column.toNat + point.2 < 2 ^ 64 := by
    rcases (Sprite.mem_points.mp member).1 with ⟨inSprite, narrow⟩
    exact ⟨by omega, by omega⟩
  exact togglePoints?_grid small (Drawing.start frame)

end Frame

/-! ## Instructions -/

namespace State

/-- Remembers the address after a call in the slot at the depth. -/
def enter? (state : State) (target : Address) :
    Option (Except Fault State) :=
  if 16 ≤ state.depth.toNat then
    some (.error (.stackOverflow state.counter state.depth))
  else do
    let returns ← store? state.returns state.depth.toNat (state.counter + 2)
    let depth ← sum? 256 state.depth.toNat 1
    some (.ok
      { state with
        counter := UInt16.ofNat target.val
        depth := UInt8.ofNat depth
        returns := returns })

/-- Continues at the address in the slot below the depth. -/
def leave? (state : State) : Option (Except Fault State) :=
  if state.depth = 0 then some (.error (.stackUnderflow state.counter))
  else do
    let depth ← difference? state.depth.toNat 1
    let counter ← state.returns[depth]?
    some (.ok
      { state with
        counter := counter
        depth := UInt8.ofNat depth })

/-- Draws the bytes from the index on, as they fit into the sprite buffer. -/
def drawSprite?
    (state : State) (wrapRows : Bool) (column row : Register)
    (height : Fin 16) : Option State := do
  let sprite ← state.memory.readSprite? state.index height.val
  let (grid, collision) ←
    state.frame.grid.draw? wrapRows (state.register row).toNat
      (state.register column).toNat sprite
  let frame ← grid.frame?
  some
    { state.setRegister flagRegister (bit collision) with
      frame := frame }

/-- The registers up to `last`, read one after another. -/
def registersThrough? (state : State) (last : Register) :
    Option (List UInt8) :=
  (List.range (last.val + 1)).mapM fun place => state.registers[place]?

/-- Fills the registers up to `last`, one after another. -/
def fillRegisters? (state : State) (last : Register) : Option State := do
  let registers ←
    (List.range (last.val + 1)).foldlM
      (fun registers place => do
        let byte ← state.memory.read? (state.index + UInt16.ofNat place)
        store? registers place byte)
      state.registers
  some { state with registers := registers }

/-- The check for a free slot makes every call safe. -/
theorem enter?_eq_some (state : State) (target : Address) :
    state.enter? target = some (state.enter target) := by
  rw [enter?, enter]
  by_cases full : 16 ≤ state.depth.toNat
  · rw [if_pos full, dif_neg (by omega)]
  · have free : state.depth.toNat < 16 := by omega
    have deeper : UInt8.ofNat (state.depth.toNat + 1) = state.depth + 1 := by
      simp
    rw [if_neg full, dif_pos free, store?_eq_some free,
      sum?_eq_some (by omega), ← deeper]
    rfl

/-- A return reads a slot that exists as long as there are at most sixteen. -/
theorem leave?_eq_some
    {state : State}
    (shallow : state.depth.toNat ≤ 16) :
    state.leave? = some state.leave := by
  rw [leave?, leave]
  by_cases empty : state.depth = 0
  · rw [if_pos empty, if_pos empty]
  · have positive := depth_pos empty
    have live : state.depth.toNat - 1 < 16 := by omega
    have lower : UInt8.ofNat (state.depth.toNat - 1) = state.depth - 1 := by
      rw [← toNat_depth_sub_one empty, UInt8.ofNat_toNat]
    rw [if_neg empty, if_neg empty, dif_pos live,
      difference?_eq_some positive, ← lower]
    simp only [Option.bind_eq_bind, Option.bind_some,
      Vector.getElem?_eq_getElem live]

/-- Coordinates from registers are too small to overflow. -/
theorem drawSprite?_eq_some
    (state : State) (wrapRows : Bool) (column row : Register)
    (height : Fin 16) :
    state.drawSprite? wrapRows column row height =
      some (state.drawSprite wrapRows column row height) := by
  have shortSprite : height.val ≤ 15 := Nat.le_of_lt_succ height.isLt
  have shortRow := (state.register row).toNat_lt
  have shortColumn := (state.register column).toNat_lt
  have drawn :=
    state.frame.draw?_grid wrapRows (state.register row).toUInt64
      (state.register column).toUInt64
      (state.memory.readBlock state.index height.val)
      (by simp only [UInt8.toNat_toUInt64, Memory.length_readBlock]; omega)
      (by simp only [UInt8.toNat_toUInt64]; omega)
  simp only [UInt8.toNat_toUInt64] at drawn
  rw [drawSprite?, Memory.readSprite?_eq_some _ _ shortSprite]
  simp only [Option.bind_eq_bind, Option.bind_some, drawn,
    Frame.frame?_grid]
  rfl

theorem mapM_registers
    (state : State)
    {count : Nat}
    (inRange : count ≤ 16) :
    ((List.range count).mapM fun place => state.registers[place]?) =
      some (state.registers.toList.take count) := by
  induction count with
  | zero => rfl
  | succ count ih =>
      have inVector : count < 16 := inRange
      have inList : count < state.registers.toList.length := by
        simpa using inVector
      rw [List.range_succ, List.mapM_append, ih (Nat.le_of_lt inRange),
        List.take_succ_eq_append_getElem inList]
      simp [inVector]

theorem registersThrough?_eq_some (state : State) (last : Register) :
    state.registersThrough? last = some (state.registersThrough last) :=
  state.mapM_registers last.isLt

theorem foldlM_registers
    (state : State)
    {count : Nat}
    (inRange : count ≤ 16) :
    (List.range count).foldlM
        (fun registers place => do
          let byte ← state.memory.read? (state.index + UInt16.ofNat place)
          store? registers place byte)
        state.registers =
      some (Vector.ofFn fun register : Register =>
        if register.val < count then
          state.memory.read (state.index + UInt16.ofNat register.val)
        else state.register register) := by
  induction count with
  | zero =>
      apply congrArg some
      ext place bound
      simp [register]
  | succ count ih =>
      have inVector : count < 16 := inRange
      rw [List.range_succ, List.foldlM_append, ih (Nat.le_of_lt inRange)]
      simp only [Option.bind_eq_bind, Option.bind_some, List.foldlM_cons,
        List.foldlM_nil, Memory.read?_eq_some, store?_eq_some inVector]
      apply congrArg some
      ext place bound
      simp only [Vector.getElem_set, Vector.getElem_ofFn]
      by_cases same : count = place
      · simp [same]
      · have order : place < count + 1 ↔ place < count := by omega
        simp [same, order]

/-- Loading registers stays within the registers and within memory. -/
theorem fillRegisters?_eq_some (state : State) (last : Register) :
    state.fillRegisters? last = some (state.fillRegisters last) := by
  rw [fillRegisters?, state.foldlM_registers last.isLt]
  simp only [Nat.lt_succ_iff]
  rfl

end State

namespace Instruction

/-- Executes an instruction with its checks. -/
def execute?
    (surroundings : Surroundings) (state : State) :
    Instruction → Option (Except Fault State)
  | ret => state.leave?
  | call target => state.enter? target
  | jumpOffset target => do
      let sum ← sum? 65536 target.val (state.register offsetRegister).toNat
      some (.ok { state with counter := UInt16.ofNat sum &&& 0x0FFF })
  | draw column row height => do
      let next ←
        state.advance.drawSprite? surroundings.wrapRows column row height
      some (.ok next)
  | pointGlyph source => do
      let start ← product? 65536 glyphHeight (state.register source).toNat
      some (.ok { state.advance with index := UInt16.ofNat start })
  | storeDecimal source => do
      let memory ←
        state.memory.writeBlock? state.index
          (decimalDigits (state.register source))
      some (.ok { state.advance with memory := memory })
  | saveRegisters last => do
      let bytes ← state.registersThrough? last
      let memory ← state.memory.writeBlock? state.index bytes
      some (.ok { state.advance with memory := memory })
  | loadRegisters last => do
      let next ← state.advance.fillRegisters? last
      some (.ok next)
  | instruction => some (instruction.execute surroundings state)

/-- With at most sixteen entries on the call stack every check succeeds. -/
theorem execute?_eq_some
    {surroundings : Surroundings} {state : State}
    (shallow : state.depth.toNat ≤ 16)
    (instruction : Instruction) :
    instruction.execute? surroundings state =
      some (instruction.execute surroundings state) := by
  cases instruction with
  | ret => exact State.leave?_eq_some shallow
  | call target => exact state.enter?_eq_some target
  | jumpOffset target =>
      have small := (state.register offsetRegister).toNat_lt
      have short := target.isLt
      rw [execute?, sum?_eq_some (by omega)]
      simp only [Option.bind_eq_bind, Option.bind_some, UInt16.ofNat_add,
        UInt16.ofNat_uInt8ToNat]
      rfl
  | draw column row height =>
      rw [execute?, State.drawSprite?_eq_some]
      rfl
  | pointGlyph source =>
      have small := (state.register source).toNat_lt
      rw [execute?, product?_eq_some (by simp only [glyphHeight]; omega)]
      rfl
  | storeDecimal source =>
      rw [execute?, Memory.writeBlock?_eq_some]
      rfl
  | saveRegisters last =>
      rw [execute?, State.registersThrough?_eq_some]
      simp only [Option.bind_eq_bind, Option.bind_some,
        Memory.writeBlock?_eq_some]
      rfl
  | loadRegisters last =>
      rw [execute?, State.fillRegisters?_eq_some]
      rfl
  | _ => rfl

end Instruction

end ChipEight
