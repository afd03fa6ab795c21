import ChipEight.Screen.Texture
import Mathlib.Data.Fin.VecNotation

/-!
# What textures and their copies hold

A texture lists the channels of the cells' colors, three bytes a cell
(`slice_texture`), so two different colors let the frame be read back from
it.  Copying its rows into a buffer puts each row where its pitch says and
touches nothing else, provided that rows do not overlap and the last one
fits (`blit_eq_some`).  `textures_encode_frames` draws both together.
-/

namespace ChipEight

/-! ## Lists made of pieces of one length -/

section Uniform

variable {α β : Type} {f : α → List β} {width : Nat}

theorem length_flatMap_of_uniform
    (uniform : ∀ a, (f a).length = width) (list : List α) :
    (list.flatMap f).length = width * list.length := by
  induction list with
  | nil => rfl
  | cons first rest ih =>
      rw [List.flatMap_cons, List.length_append, uniform, ih,
        List.length_cons, Nat.mul_succ, Nat.add_comm]

/-- The piece made of an element stands where the pieces before it end. -/
theorem slice_flatMap_of_uniform
    (uniform : ∀ a, (f a).length = width)
    {list : List α} {index : Nat} {a : α}
    (listed : list[index]? = some a) :
    ((list.flatMap f).drop (width * index)).take width = f a := by
  induction list generalizing index with
  | nil => cases listed
  | cons first rest ih =>
      rw [List.flatMap_cons]
      cases index with
      | zero =>
          cases listed
          rw [Nat.mul_zero, List.drop_zero, ← uniform a, List.take_left]
      | succ index =>
          rw [Nat.mul_succ, Nat.add_comm, ← List.drop_drop,
            ← uniform first, List.drop_left, uniform]
          exact ih listed

/-- Slices of one width, one behind another, are a beginning of the list. -/
theorem flatten_slices (list : List α) (width count : Nat) :
    ((List.range count).map fun index =>
        (list.drop (index * width)).take width).flatten =
      list.take (count * width) := by
  induction count with
  | zero => rw [Nat.zero_mul, List.take_zero]; rfl
  | succ count ih =>
      rw [List.range_succ, List.map_append, List.flatten_append, ih,
        Nat.succ_mul, List.take_add]
      simp

end Uniform

theorem getElem?_of_slice
    {α : Type} {list piece : List α} {start width offset : Nat}
    (slice : (list.drop start).take width = piece)
    (within : offset < width) :
    list[start + offset]? = piece[offset]? := by
  rw [← slice, List.getElem?_take, if_pos within, List.getElem?_drop]

/-! ## Channels -/

namespace Rgb

/-- A channel by its number, from red to blue. -/
def channel (color : Rgb) : Fin 3 → UInt8 :=
  ![color.red, color.green, color.blue]

@[simp]
theorem length_channels (color : Rgb) : color.channels.length = 3 :=
  rfl

theorem getElem?_channels (color : Rgb) :
    ∀ number : Fin 3,
      color.channels[number.val]? = some (color.channel number)
  | 0 => rfl
  | 1 => rfl
  | 2 => rfl

theorem channels_inj {first second : Rgb} :
    first.channels = second.channels ↔ first = second := by
  rcases first with ⟨red, green, blue⟩
  rcases second with ⟨otherRed, otherGreen, otherBlue⟩
  simp [channels]

end Rgb

/-! ## Textures -/

/-- The frame with the given cells lit. -/
def Frame.ofCells (lit : Cell → Bool) : Frame :=
  ⟨Vector.ofFn fun row => Vector.ofFn fun column => lit ⟨row, column⟩⟩

@[simp]
theorem Frame.isLit_ofCells (lit : Cell → Bool) (cell : Cell) :
    (ofCells lit).isLit cell = lit cell := by
  simp [isLit, ofCells]

namespace Palette

/-- The frame whose lit cells are those that a texture shows as lit. -/
def frameOf (palette : Palette) (texture : List UInt8) : Frame :=
  .ofCells fun cell =>
    (texture.drop (3 * cell.position)).take 3 ==
      palette.foreground.channels

/-- The texture has the channels of all cells in reading order. -/
theorem texture_eq_flatMap_cells (palette : Palette) (frame : Frame) :
    palette.texture frame =
      frame.cells.flatMap fun lit => (palette.color lit).channels := by
  rw [texture, paint, ← List.flatMap_def, List.flatMap_assoc, Frame.cells,
    List.flatMap_assoc]
  simp only [List.flatMap_map]

theorem length_texture (palette : Palette) (frame : Frame) :
    (palette.texture frame).length = 32 * textureRow := by
  rw [texture_eq_flatMap_cells,
    length_flatMap_of_uniform fun lit => (palette.color lit).length_channels,
    Frame.length_cells]
  rfl

/-- The channels of a cell's color stand at three times its position. -/
theorem slice_texture
    (palette : Palette) (frame : Frame) (cell : Cell) :
    ((palette.texture frame).drop (3 * cell.position)).take 3 =
      (palette.color (frame.isLit cell)).channels := by
  rw [texture_eq_flatMap_cells]
  exact slice_flatMap_of_uniform
    (fun lit => (palette.color lit).length_channels)
    (frame.getElem?_cells cell)

/-- Each channel of each cell stands at its place in the texture. -/
theorem getElem?_texture
    (palette : Palette) (frame : Frame) (cell : Cell) (number : Fin 3) :
    (palette.texture frame)[3 * cell.position + number.val]? =
      some ((palette.color (frame.isLit cell)).channel number) := by
  rw [getElem?_of_slice (palette.slice_texture frame cell) number.isLt,
    Rgb.getElem?_channels]

/-- Two different colors tell lit cells from unlit ones. -/
theorem frameOf_texture
    {palette : Palette}
    (different : palette.foreground ≠ palette.background) (frame : Frame) :
    palette.frameOf (palette.texture frame) = frame := by
  apply Frame.eq_of_isLit_eq
  intro cell
  rw [frameOf, Frame.isLit_ofCells, slice_texture]
  cases frame.isLit cell with
  | true => exact beq_self_eq_true _
  | false =>
      apply beq_false_of_ne
      exact mt Rgb.channels_inj.mp different.symm

end Palette

/-! ## The rows of a texture -/

theorem getElem?_textureLines
    (texture : List UInt8) {row : Nat} (onScreen : row < 32) :
    (textureLines texture)[row]? =
      some ((texture.drop (row * textureRow)).take textureRow) := by
  rw [textureLines, List.getElem?_map, List.getElem?_range onScreen]
  rfl

theorem length_of_mem_textureLines
    {texture line : List UInt8}
    (complete : texture.length = 32 * textureRow)
    (member : line ∈ textureLines texture) :
    line.length = textureRow := by
  rcases List.mem_map.mp member with ⟨row, inRange, rfl⟩
  have onScreen := List.mem_range.mp inRange
  rw [List.length_take, List.length_drop, complete]
  have bound : (row + 1) * textureRow ≤ 32 * textureRow :=
    Nat.mul_le_mul_right _ onScreen
  rw [Nat.succ_mul] at bound
  omega

theorem flatten_textureLines
    {texture : List UInt8} (complete : texture.length = 32 * textureRow) :
    (textureLines texture).flatten = texture := by
  rw [textureLines, flatten_slices, ← complete, List.take_length]

/-! ## Copies of rows into a buffer -/

section Copies

variable {buffer filled : Array UInt8} {offset : Nat} {bytes : List UInt8}

theorem exists_place?_eq_some
    (fits : offset + bytes.length ≤ buffer.size) :
    ∃ filled, place? buffer offset bytes = some filled := by
  rw [place?, if_pos fits]
  exact ⟨_, rfl⟩

theorem size_of_place?_eq_some
    (placed : place? buffer offset bytes = some filled) :
    filled.size = buffer.size := by
  rw [place?] at placed
  split at placed
  · cases placed
    exact Array.size_ofFn
  · cases placed

/-- Bytes put at an offset are read there, and all others stay. -/
theorem getElem?_of_place?_eq_some
    (placed : place? buffer offset bytes = some filled) (index : Nat) :
    filled[index]? =
      if offset ≤ index ∧ index < offset + bytes.length
      then bytes[index - offset]?
      else buffer[index]? := by
  rw [place?] at placed
  split at placed
  · rename_i fits
    cases placed
    rw [Array.getElem?_ofFn]
    by_cases covered : offset ≤ index ∧ index < offset + bytes.length
    · have inside : index - offset < bytes.length := by omega
      rw [dif_pos (by omega : index < buffer.size), if_pos covered,
        if_pos covered.1]
      simp [inside]
    · rw [if_neg covered]
      by_cases within : index < buffer.size
      · rw [dif_pos within, Array.getElem?_eq_getElem within]
        congr 1
        by_cases late : offset ≤ index
        · have past : bytes.length ≤ index - offset := by omega
          rw [if_pos late, List.getElem?_toArray,
            List.getElem?_eq_none past]
          rfl
        · rw [if_neg late]
          rfl
      · rw [dif_neg within, Array.getElem?_eq_none (by omega)]
  · cases placed

/--
Rows of one width that are put a pitch apart, and do not reach into each
other, are all found in the buffer if the last of them fits.  The bytes
outside the rows stay, and the later rows begin behind the whole of each.
-/
theorem foldlM_place?_eq_some
    {pitch width : Nat} (narrow : width ≤ pitch)
    {rows : List (List UInt8)}
    (uniform : ∀ bytes ∈ rows, bytes.length = width)
    (first : Nat) (buffer : Array UInt8)
    (room : ∀ row < rows.length, (first + row) * pitch + width ≤ buffer.size) :
    ∃ filled,
      (rows.zipIdx first).foldlM
          (fun buffer (bytes, row) => place? buffer (row * pitch) bytes)
          buffer =
        some filled ∧
      filled.size = buffer.size ∧
      (∀ row bytes,
        rows[row]? = some bytes →
          ∀ place < width,
            filled[(first + row) * pitch + place]? = bytes[place]?) ∧
      ∀ index,
        (∀ row < rows.length,
          index < (first + row) * pitch ∨
            (first + row) * pitch + width ≤ index) →
          filled[index]? = buffer[index]? := by
  induction rows generalizing first buffer with
  | nil => exact ⟨buffer, rfl, rfl, by simp, fun _ _ => rfl⟩
  | cons bytes rest ih =>
      rcases List.forall_mem_cons.mp uniform with ⟨wide, others⟩
      have fits := room 0 (Nat.succ_pos _)
      rw [Nat.add_zero, ← wide] at fits
      rcases exists_place?_eq_some fits with ⟨begun, placed⟩
      have size := size_of_place?_eq_some placed
      have roomLeft :
          ∀ row < rest.length,
            (first + 1 + row) * pitch + width ≤ begun.size := by
        intro row inRange
        have enough := room (row + 1) (Nat.succ_lt_succ inRange)
        rwa [size, Nat.add_right_comm]
      rcases ih others (first + 1) begun roomLeft with
        ⟨filled, run, sameSize, shown, kept⟩
      refine ⟨filled, ?_, sameSize.trans size, ?_, ?_⟩
      · rw [List.zipIdx_cons, List.foldlM_cons]
        simp only [placed]
        exact run
      · intro row lineBytes listed place within
        cases row with
        | zero =>
            cases listed
            rw [Nat.add_zero, kept, getElem?_of_place?_eq_some placed,
              if_pos (by omega), Nat.add_sub_cancel_left]
            intro row _
            rw [Nat.add_right_comm, Nat.add_mul, Nat.add_mul, Nat.one_mul]
            omega
        | succ row =>
            have later := shown row lineBytes listed place within
            rwa [Nat.add_right_comm] at later
      · intro index outside
        have before := outside 0 (Nat.succ_pos _)
        rw [Nat.add_zero] at before
        rw [kept, getElem?_of_place?_eq_some placed, if_neg (by omega)]
        intro row inRange
        have after := outside (row + 1) (Nat.succ_lt_succ inRange)
        rwa [Nat.add_right_comm]

/-- The lines of a texture fit if the last of them does. -/
theorem blit_textureLines
    {texture : List UInt8} (complete : texture.length = 32 * textureRow)
    {pitch : Nat} (narrow : textureRow ≤ pitch)
    (room : 31 * pitch + textureRow ≤ buffer.size) :
    ∃ filled,
      blit pitch buffer (textureLines texture) = some filled ∧
      filled.size = buffer.size ∧
      (∀ row < 32,
        ∀ place < textureRow,
          filled[row * pitch + place]? =
            texture[row * textureRow + place]?) ∧
      ∀ index,
        (∀ row < 32,
          index < row * pitch ∨ row * pitch + textureRow ≤ index) →
          filled[index]? = buffer[index]? := by
  have count : (textureLines texture).length = 32 := by
    rw [textureLines, List.length_map, List.length_range]
  have fits :
      ∀ row < (textureLines texture).length,
        (0 + row) * pitch + textureRow ≤ buffer.size := by
    intro row inRange
    have bound : row * pitch ≤ 31 * pitch :=
      Nat.mul_le_mul_right pitch (by omega)
    rw [Nat.zero_add]
    omega
  rcases foldlM_place?_eq_some narrow
      (fun line => length_of_mem_textureLines complete) 0 buffer fits with
    ⟨filled, run, size, shown, kept⟩
  refine ⟨filled, run, size, ?_, ?_⟩
  · intro row onScreen place within
    have line := shown row _ (getElem?_textureLines texture onScreen) place within
    rw [Nat.zero_add, List.getElem?_take, if_pos within,
      List.getElem?_drop] at line
    exact line
  · intro index outside
    apply kept
    intro row inRange
    rw [Nat.zero_add]
    exact outside row (by omega)

end Copies

/--
A texture has 6144 bytes, and three of them for each cell are the channels
of the foreground or of the background, as the cell is lit or not.  If these
colors differ, the frame can be read back from the texture, which no other
frame shares.  The lines of a texture are its bytes cut into rows of 192.
Copied into a buffer whose rows start at least that far apart and of which
the last one has room, every line fits, each cell's color is found behind
the start of its row, and the bytes outside the rows stay as they were.
-/
theorem textures_encode_frames (palette : Palette) (frame : Frame) :
    let texture := palette.texture frame
    let color (cell : Cell) : Rgb :=
      if frame.isLit cell then palette.foreground else palette.background
    texture.length = 6144 ∧
      (∀ (cell : Cell) (number : Fin 3),
        texture[3 * (64 * cell.row.val + cell.column.val) + number.val]? =
          some ((color cell).channel number)) ∧
      (palette.foreground ≠ palette.background →
        palette.frameOf texture = frame ∧
          ∀ other, palette.texture other = texture → other = frame) ∧
      (textureLines texture).flatten = texture ∧
      (∀ line ∈ textureLines texture, line.length = 192) ∧
      ∀ (pitch : Nat) (buffer : Array UInt8),
        192 ≤ pitch → 31 * pitch + 192 ≤ buffer.size →
          ∃ filled,
            blit pitch buffer (textureLines texture) = some filled ∧
            filled.size = buffer.size ∧
            (∀ (cell : Cell) (number : Fin 3),
              filled[cell.row.val * pitch + 3 * cell.column.val +
                  number.val]? =
                some ((color cell).channel number)) ∧
            ∀ index,
              (∀ row < 32,
                index < row * pitch ∨ row * pitch + 192 ≤ index) →
                filled[index]? = buffer[index]? := by
  intro texture color
  have complete : texture.length = 32 * textureRow :=
    palette.length_texture frame
  have bytes (cell : Cell) (number : Fin 3) :
      texture[3 * cell.position + number.val]? =
        some ((color cell).channel number) :=
    palette.getElem?_texture frame cell number
  refine
    ⟨complete, bytes, ?_, flatten_textureLines complete,
      fun line => length_of_mem_textureLines complete, ?_⟩
  · intro different
    refine ⟨Palette.frameOf_texture different frame, ?_⟩
    intro other same
    rw [← Palette.frameOf_texture different other, same]
    exact Palette.frameOf_texture different frame
  · intro pitch buffer narrow room
    rcases blit_textureLines complete narrow room with
      ⟨filled, run, size, shown, kept⟩
    refine ⟨filled, run, size, ?_, kept⟩
    intro cell number
    have within : 3 * cell.column.val + number.val < textureRow := by
      have narrowCell := cell.column.isLt
      have channelBound := number.isLt
      rw [textureRow]
      omega
    have place :
        cell.row.val * textureRow + (3 * cell.column.val + number.val) =
          3 * cell.position + number.val := by
      rw [textureRow, Cell.position]
      omega
    rw [Nat.add_assoc, shown cell.row.val cell.row.isLt _ within, place]
    exact bytes cell number

/--
With rows 200 bytes apart the last cell is found at the end of the last row,
and the byte behind the row above it is as before.
-/
theorem textures_encode_frames_in_padded_rows :
    let palette := Palette.standard
    let frame := Frame.blank.flip (.wrapped 31 63)
    let buffer : Array UInt8 := Array.replicate 6392 7
    palette.foreground ≠ palette.background ∧
      palette.frameOf (palette.texture frame) = frame ∧
      192 ≤ 200 ∧ 31 * 200 + 192 ≤ buffer.size ∧
      ∃ filled,
        blit 200 buffer (textureLines (palette.texture frame)) =
            some filled ∧
          filled[31 * 200 + 3 * 63 + 2]? = some 255 ∧
          filled[30 * 200 + 192]? = some 7 := by
  intro palette frame buffer
  have different : palette.foreground ≠ palette.background := by decide
  have narrow : 192 ≤ 200 := by decide
  have size : buffer.size = 6392 := Array.size_replicate
  have room : 31 * 200 + 192 ≤ buffer.size := Nat.le_of_eq size.symm
  rcases textures_encode_frames palette frame with
    ⟨_, _, decoded, _, _, copied⟩
  rcases copied 200 buffer narrow room with ⟨filled, run, _, shown, kept⟩
  have lit : frame.isLit (.wrapped 31 63) = true := by decide +kernel
  have last : filled[31 * 200 + 3 * 63 + 2]? = some 255 := by
    refine (shown (.wrapped 31 63) 2).trans ?_
    simp only [lit]
    rfl
  have padding : filled[30 * 200 + 192]? = some 7 := by
    rw [kept (30 * 200 + 192) (by omega)]
    rw [Array.getElem?_replicate, if_pos (by decide)]
  exact
    ⟨different, (decoded different).1, narrow, room, filled, run, last,
      padding⟩

end ChipEight
