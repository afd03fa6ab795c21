import ChipEight.Instruction.Encoding

/-!
# Reading back instruction words

The fields of a word put the word together again, and the instruction table
leaves no word with two readings.  The main statement,
`decode?_eq_some_iff`, says that a word decodes to an instruction precisely
when it is that instruction's word.
-/

namespace ChipEight

theorem Operator.code_lt (operator : Operator) : operator.code < 16 := by
  cases operator <;> decide

@[simp]
theorem Operator.ofCode?_code (operator : Operator) :
    ofCode? operator.code = some operator := by
  cases operator <;> rfl

theorem Operator.code_of_ofCode? {code : Nat} {operator : Operator}
    (found : ofCode? code = some operator) : operator.code = code := by
  unfold ofCode? at found
  split at found <;> simp_all <;> subst found <;> rfl

namespace Opcode

section

variable {word : UInt16} {family : Nat} {first second : Register}

/--
The fields of a word with two registers are what it was put together from.
-/
theorem fields_of_xyWord {last : Nat}
    (number : word.toNat = Instruction.xyWord family first second last)
    (bound : last < 16) :
    Opcode.family word = family ∧ x word = first ∧ y word = second
      ∧ (n word).val = last := by
  have firstBound := first.isLt
  have secondBound := second.isLt
  simp only [Instruction.xyWord] at number
  refine ⟨?_, Fin.ext ?_, Fin.ext ?_, ?_⟩ <;>
    simp only [Opcode.family, x, y, n, number] <;> omega

theorem fields_of_xkWord {low : Nat}
    (number : word.toNat = Instruction.xkWord family first low)
    (bound : low < 256) :
    Opcode.family word = family ∧ x word = first ∧ kk word = UInt8.ofNat low := by
  have firstBound := first.isLt
  simp only [Instruction.xkWord] at number
  have lowByte : word.toNat % 256 = low := by omega
  refine ⟨?_, Fin.ext ?_, ?_⟩
  · simp only [Opcode.family, number]; omega
  · simp only [x, number]; omega
  · rw [kk, lowByte]

theorem fields_of_address {target : Address}
    (number : word.toNat = Instruction.addressWord family target) :
    Opcode.family word = family ∧ nnn word = target := by
  have bound := target.isLt
  simp only [Instruction.addressWord] at number
  refine ⟨?_, Fin.ext ?_⟩
  · simp only [Opcode.family, number]; omega
  · simp only [nnn, number]; omega

end

end Opcode

namespace Instruction

theorem number_lt (instruction : Instruction) : instruction.number < 65536 := by
  have operatorBound := Operator.code_lt
  have byteBound := UInt8.toNat_lt
  cases instruction with
  | skip condition =>
    cases condition <;> simp only [number, xyWord, xkWord] <;> grind
  | _ => simp only [number, xyWord, xkWord, addressWord]; grind

theorem toNat_encode (instruction : Instruction) :
    instruction.encode.toNat = instruction.number :=
  UInt16.toNat_ofNat_of_lt' instruction.number_lt

/-- Every instruction is read back from its own word. -/
theorem decode?_encode (instruction : Instruction) :
    decode? instruction.encode = some instruction := by
  have word := instruction.toNat_encode
  cases instruction with
  | clear => rfl
  | ret => rfl
  | jump target | call target | setIndex target | jumpOffset target =>
    obtain ⟨family, address⟩ := Opcode.fields_of_address word
    simp [decode?, family, address]
  | skip condition =>
    cases condition with
    | byteIs register value | byteIsNot register value =>
      obtain ⟨family, x, kk⟩ := Opcode.fields_of_xkWord word value.toNat_lt
      simp [decode?, family, x, kk]
    | same first second | differ first second =>
      obtain ⟨family, x, y, n⟩ := Opcode.fields_of_xyWord word (by decide)
      simp [decode?, family, x, y, Fin.ext_iff, n]
    | keyDown register | keyUp register =>
      obtain ⟨family, x, kk⟩ := Opcode.fields_of_xkWord word (by decide)
      simp [decode?, family, x, kk]
  | setByte register value | addByte register value | random register value =>
    obtain ⟨family, x, kk⟩ := Opcode.fields_of_xkWord word value.toNat_lt
    simp [decode?, family, x, kk]
  | combine operator first second =>
    obtain ⟨family, x, y, n⟩ := Opcode.fields_of_xyWord word operator.code_lt
    simp [decode?, family, x, y, n]
  | draw column row height =>
    obtain ⟨family, x, y, n⟩ := Opcode.fields_of_xyWord word height.isLt
    have height : Opcode.n (encode (.draw column row height)) = height := Fin.ext n
    simp [decode?, family, x, y, height]
  | readDelay register | awaitKey register | setDelay register | setSound register
  | addIndex register | pointGlyph register | storeDecimal register
  | saveRegisters register | loadRegisters register =>
    obtain ⟨family, x, kk⟩ := Opcode.fields_of_xkWord word (by decide)
    simp [decode?, family, x, kk, ofMiscellaneous?]

theorem number_of_ofMiscellaneous? {register : Register} {low : Nat}
    {instruction : Instruction}
    (found : ofMiscellaneous? register low = some instruction) :
    instruction.number = xkWord 0xF register low := by
  unfold ofMiscellaneous? at found
  split at found <;> simp_all <;> subst found <;> rfl

/-- A word is put together from its family, its digits and its last digit. -/
theorem xyWord_fields (word : UInt16) :
    xyWord (Opcode.family word) (Opcode.x word) (Opcode.y word) (Opcode.n word).val
      = word.toNat := by
  have bound := word.toNat_lt
  simp only [xyWord, Opcode.family, Opcode.x, Opcode.y, Opcode.n]
  omega

/-- A word is put together from its family, its register digit and its low byte. -/
theorem xkWord_fields (word : UInt16) :
    xkWord (Opcode.family word) (Opcode.x word) (Opcode.kk word).toNat
      = word.toNat := by
  have bound := word.toNat_lt
  simp only [xkWord, Opcode.family, Opcode.x, Opcode.kk, UInt8.toNat_ofNat']
  omega

/-- A word is put together from its family and its address. -/
theorem addressWord_fields (word : UInt16) :
    addressWord (Opcode.family word) (Opcode.nnn word) = word.toNat := by
  have bound := word.toNat_lt
  simp only [addressWord, Opcode.family, Opcode.nnn]
  omega

/-- No two words decode to one instruction: it has the number of its word. -/
theorem number_of_decode? {word : UInt16} {instruction : Instruction}
    (decoded : decode? word = some instruction) :
    instruction.number = word.toNat := by
  have xy := xyWord_fields word
  have xk := xkWord_fields word
  have address := addressWord_fields word
  unfold decode? at decoded
  split at decoded
  case h_1 =>
    split at decoded
    · simp_all; subst decoded; rfl
    · split at decoded
      · simp_all; subst decoded; rfl
      · simp at decoded
  case h_9 family =>
    obtain ⟨operator, found, rfl⟩ := Option.map_eq_some_iff.1 decoded
    rw [family] at xy
    simpa [number, Operator.code_of_ofCode? found] using xy
  case h_6 family | h_10 family =>
    rw [family] at xy
    split at decoded
    · rename_i last
      rw [last] at xy
      cases decoded
      exact xy
    · simp at decoded
  case h_15 family =>
    rw [family] at xk
    split at decoded
    · rename_i low
      rw [low] at xk
      cases decoded
      exact xk
    · split at decoded
      · rename_i low
        rw [low] at xk
        cases decoded
        exact xk
      · simp at decoded
  case h_16 family =>
    rw [family] at xk
    rw [number_of_ofMiscellaneous? decoded, xk]
  case h_17 => simp at decoded
  case h_2 family | h_3 family | h_11 family | h_12 family =>
    cases decoded
    rw [family] at address
    exact address
  case h_14 family =>
    cases decoded
    rw [family] at xy
    exact xy
  case h_4 family | h_5 family | h_7 family | h_8 family | h_13 family =>
    cases decoded
    rw [family] at xk
    exact xk

/-- Decoding accepts exactly the words of the instruction table. -/
theorem decode?_eq_some_iff {word : UInt16} {instruction : Instruction} :
    decode? word = some instruction ↔ word = instruction.encode := by
  constructor
  · intro decoded
    apply UInt16.toNat_inj.1
    rw [toNat_encode, number_of_decode? decoded]
  · intro equality
    rw [equality, decode?_encode]

/-- A word decodes to the one instruction that has its number. -/
theorem decode?_eq_some_iff_number
    {word : UInt16} {instruction : Instruction} :
    decode? word = some instruction ↔ word.toNat = instruction.number := by
  rw [decode?_eq_some_iff, ← UInt16.toNat_inj, toNat_encode]

end Instruction

end ChipEight
