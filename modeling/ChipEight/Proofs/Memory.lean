import ChipEight.Memory.Basic

/-!
# Memory at folded addresses

Sixteen-bit addresses fold into the memory, and so do the sums by which
consecutive bytes are reached: because the memory's size divides the range
of addresses, it makes no difference that the sums wrap.  A block no longer
than the memory does not run into itself, so every byte written is the byte
found there afterwards (`byteAt_writeBlock`), and no byte outside the block
changes (`byteAt_writeBlock_of_outside`).
-/

namespace ChipEight.Memory

/-- The byte at an address of any size, folded into the memory. -/
def byteAt (memory : Memory) (address : Nat) : UInt8 :=
  memory.bytes[address % 4096]

theorem read_eq_byteAt (memory : Memory) (address : UInt16) :
    memory.read address = memory.byteAt address.toNat :=
  rfl

variable {memory : Memory} {address : UInt16} {values : List UInt8}
  {place offset : Nat}

theorem byteAt_congr
    {first second : Nat} (same : first % 4096 = second % 4096) :
    memory.byteAt first = memory.byteAt second := by
  simp only [byteAt, same]

/-- Reading past the end continues at the start, also where addresses wrap. -/
theorem read_add (memory : Memory) (address : UInt16) (offset : Nat) :
    memory.read (address + UInt16.ofNat offset) =
      memory.byteAt (address.toNat + offset) := by
  rw [read_eq_byteAt]
  apply byteAt_congr
  simp only [UInt16.toNat_add, UInt16.toNat_ofNat']
  omega

/-- A block reads on over the end of memory at its start. -/
theorem getElem?_readBlock
    (memory : Memory) (address : UInt16) (count offset : Nat) :
    (memory.readBlock address count)[offset]? =
      if offset < count then some (memory.byteAt (address.toNat + offset))
      else none := by
  by_cases inRange : offset < count
  · simp [readBlock, inRange, read_add]
  · simp [readBlock, inRange]

/-! ## Writing blocks -/

theorem byteAt_cell (memory : Memory) (cell : Fin 4096) :
    memory.byteAt cell.val = memory.bytes.get cell := by
  simp only [byteAt, Nat.mod_eq_of_lt cell.isLt]
  rfl

/-- A write shows at all places that fold to its address, and nowhere else. -/
theorem byteAt_write
    (memory : Memory) (address : UInt16) (value : UInt8) (place : Nat) :
    (memory.write address value).byteAt place =
      if address.toNat % 4096 = place % 4096 then value
      else memory.byteAt place := by
  simp only [byteAt, write, Vector.getElem_set]
  rfl

/-- A block write leaves the bytes alone that no address of the block names. -/
theorem byteAt_writeBlock_of_outside
    (outside :
      ∀ offset < values.length,
        (address.toNat + offset) % 4096 ≠ place % 4096) :
    (memory.writeBlock address values).byteAt place =
      memory.byteAt place := by
  induction values generalizing memory address with
  | nil => rfl
  | cons value rest ih =>
      have first : address.toNat % 4096 ≠ place % 4096 :=
        outside 0 (Nat.succ_pos rest.length)
      rw [writeBlock, ih, byteAt_write, if_neg first]
      intro offset inRest
      have later := outside (offset + 1) (Nat.succ_lt_succ inRest)
      have next : (address + 1).toNat = (address.toNat + 1) % 65536 :=
        UInt16.toNat_add address 1
      omega

/--
A block is found where it was written, wherever it runs over an end: it is
too short to come around to its own start.
-/
theorem byteAt_writeBlock
    (short : values.length ≤ 4096) (inBlock : offset < values.length) :
    (memory.writeBlock address values).byteAt (address.toNat + offset) =
      values[offset] := by
  induction values generalizing memory address offset with
  | nil => exact (Nat.not_lt_zero offset inBlock).elim
  | cons value rest ih =>
      have restShort : rest.length < 4096 := short
      have next : (address + 1).toNat = (address.toNat + 1) % 65536 :=
        UInt16.toNat_add address 1
      rw [writeBlock]
      cases offset with
      | zero =>
          rw [Nat.add_zero, byteAt_writeBlock_of_outside, byteAt_write,
            if_pos rfl]
          · rfl
          · intro offset inRest
            omega
      | succ offset =>
          have found :=
            @ih (memory.write address value) (address + 1) offset
              (Nat.le_of_lt restShort) (Nat.lt_of_succ_lt_succ inBlock)
          rw [List.getElem_cons_succ, ← found]
          apply byteAt_congr
          omega

/-- Writing the bytes that a block holds already changes nothing. -/
theorem writeBlock_eq_self
    (held :
      ∀ (offset : Nat) (inBlock : offset < values.length),
        values[offset] = memory.byteAt (address.toNat + offset)) :
    memory.writeBlock address values = memory := by
  induction values generalizing address with
  | nil => rfl
  | cons value rest ih =>
      have same : memory.write address value = memory := by
        have first : value = memory.bytes[slot address] :=
          held 0 (Nat.succ_pos rest.length)
        rw [write, first]
        simp
      rw [writeBlock, same]
      apply ih
      intro offset inRest
      have later := held (offset + 1) (Nat.succ_lt_succ inRest)
      have next : (address + 1).toNat = (address.toNat + 1) % 65536 :=
        UInt16.toNat_add address 1
      rw [List.getElem_cons_succ] at later
      rw [later]
      apply byteAt_congr
      omega

end ChipEight.Memory
