/-!
# Memory

Four kibibytes of bytes.  Addresses are sixteen bits wide and fold into the
memory modulo its size, so every access is in range; consecutive accesses
count in sixteen bits and therefore run over the end to address zero.
-/

namespace ChipEight

/-- The bytes of the machine's memory. -/
structure Memory where
  bytes : Vector UInt8 4096

/-- Memories are compared byte by byte. -/
instance : DecidableEq Memory := fun first second =>
  decidable_of_iff (first.bytes.toList = second.bytes.toList) <| by
    obtain ⟨firstBytes⟩ := first
    obtain ⟨secondBytes⟩ := second
    simp [← Vector.toList_inj]

/-- A byte string with another laid over it from an offset on, as far as it reaches. -/
def overwrite : Nat → List UInt8 → List UInt8 → List UInt8
  | _, _, [] => []
  | start + 1, program, byte :: rest => byte :: overwrite start program rest
  | 0, [], bytes => bytes
  | 0, value :: program, _ :: rest => value :: overwrite 0 program rest

@[simp]
theorem length_overwrite (start : Nat) (program bytes : List UInt8) :
    (overwrite start program bytes).length = bytes.length := by
  fun_induction overwrite start program bytes <;> simp_all

/-- Only the bytes from the offset on that the upper string reaches are replaced. -/
theorem getElem?_overwrite (start : Nat) (program bytes : List UInt8) (place : Nat) :
    (overwrite start program bytes)[place]? =
      if place < bytes.length ∧ start ≤ place ∧ place - start < program.length then
        program[place - start]?
      else bytes[place]? := by
  fun_induction overwrite start program bytes generalizing place with
  | case1 => simp
  | case2 start program byte rest hypothesis =>
    cases place with
    | zero => simp
    | succ place => simp [hypothesis]
  | case3 => simp
  | case4 value program byte rest hypothesis =>
    cases place with
    | zero => simp
    | succ place => simp [hypothesis]

namespace Memory

/-- The address where programs are placed and where execution starts. -/
def programStart : Nat := 0x200

/-- The longest program that fits between `programStart` and the end. -/
def programLimit : Nat := 4096 - programStart

theorem slot_lt (address : UInt16) : address.toNat % 4096 < 4096 :=
  Nat.mod_lt address.toNat (by decide)

/-- The cell that a sixteen-bit address names. -/
def slot (address : UInt16) : Fin 4096 :=
  ⟨address.toNat % 4096, slot_lt address⟩

/-- The byte at an address. -/
def read (memory : Memory) (address : UInt16) : UInt8 :=
  memory.bytes[slot address]

/-- The memory with one byte replaced. -/
def write (memory : Memory) (address : UInt16) (value : UInt8) : Memory :=
  ⟨memory.bytes.set (slot address) value⟩

/-- The bytes at `count` consecutive addresses. -/
def readBlock (memory : Memory) (address : UInt16) (count : Nat) : List UInt8 :=
  (List.range count).map fun offset => memory.read (address + UInt16.ofNat offset)

/-- The memory with consecutive bytes replaced, in ascending order. -/
def writeBlock (memory : Memory) (address : UInt16) : List UInt8 → Memory
  | [] => memory
  | value :: rest => (memory.write address value).writeBlock (address + 1) rest

/-- The memory with a byte string laid over it from `start` on. -/
def overlay (memory : Memory) (start : Nat) (program : List UInt8) : Memory :=
  ⟨⟨(overwrite start program memory.bytes.toList).toArray, by simp⟩⟩

/-- A byte is read back from every address that names the written cell. -/
@[simp]
theorem read_write
    (memory : Memory) (written address : UInt16) (value : UInt8) :
    (memory.write written value).read address =
      if slot written = slot address then value else memory.read address := by
  by_cases same : slot written = slot address
  · simp [read, write, same]
  · have separate : (slot written).val ≠ (slot address).val :=
      fun equality => same (Fin.ext equality)
    simp [read, write, same, Vector.getElem_set_ne, separate]

/-- A block is as long as asked for, also over the end of memory. -/
@[simp]
theorem length_readBlock (memory : Memory) (address : UInt16) (count : Nat) :
    (memory.readBlock address count).length = count := by
  simp [readBlock]

/-- An overlay changes exactly the cells that its byte string reaches. -/
theorem getElem_overlay
    (memory : Memory) (start : Nat) (program : List UInt8) (cell : Fin 4096) :
    (memory.overlay start program).bytes[cell] =
      if start ≤ cell.val then (program[cell.val - start]?).getD memory.bytes[cell]
      else memory.bytes[cell] := by
  have bound := cell.isLt
  have entry := getElem?_overwrite start program memory.bytes.toList cell.val
  have place : cell.val < (overwrite start program memory.bytes.toList).length := by
    simp
  rw [List.getElem?_eq_getElem place] at entry
  apply Option.some.inj
  refine Eq.trans ?_ (entry.trans ?_)
  · simp [overlay]
  · by_cases below : start ≤ cell.val <;>
      by_cases reached : cell.val - start < program.length <;>
        simp [below, reached]

end Memory

end ChipEight
