import ChipEight.Instruction.RoundTrip

/-!
# The instruction table

The table of instruction words as a table: a row fixes some of the four
hexadecimal digits and leaves the others to operands.  Decoding accepts
exactly the words of the table (`decode?_eq_none_iff`), and it takes only
`00EE` for a return, only `2nnn` for a call and only `Fx0A` for a key wait.
No word matches two rows, so the row of a word names its instruction
(`mnemonic_eq_iff`).
-/

namespace ChipEight

/-- A row of the instruction table, with nothing for an operand's digit. -/
structure WordPattern where
  first : Option Nat
  second : Option Nat
  third : Option Nat
  fourth : Option Nat
  deriving DecidableEq

/-- Whether a word has the digits that a row fixes. -/
def WordPattern.Matches (pattern : WordPattern) (word : UInt16) : Prop :=
  (∀ digit ∈ pattern.first, word.toNat / 4096 = digit) ∧
    (∀ digit ∈ pattern.second, word.toNat / 256 % 16 = digit) ∧
    (∀ digit ∈ pattern.third, word.toNat / 16 % 16 = digit) ∧
    (∀ digit ∈ pattern.fourth, word.toNat % 16 = digit)

/-- The thirty-four rows of the instruction table. -/
def instructionTable : List WordPattern := [
  ⟨some 0x0, some 0x0, some 0xE, some 0x0⟩,
  ⟨some 0x0, some 0x0, some 0xE, some 0xE⟩,
  ⟨some 0x1, none, none, none⟩,
  ⟨some 0x2, none, none, none⟩,
  ⟨some 0x3, none, none, none⟩,
  ⟨some 0x4, none, none, none⟩,
  ⟨some 0x5, none, none, some 0x0⟩,
  ⟨some 0x6, none, none, none⟩,
  ⟨some 0x7, none, none, none⟩,
  ⟨some 0x8, none, none, some 0x0⟩,
  ⟨some 0x8, none, none, some 0x1⟩,
  ⟨some 0x8, none, none, some 0x2⟩,
  ⟨some 0x8, none, none, some 0x3⟩,
  ⟨some 0x8, none, none, some 0x4⟩,
  ⟨some 0x8, none, none, some 0x5⟩,
  ⟨some 0x8, none, none, some 0x6⟩,
  ⟨some 0x8, none, none, some 0x7⟩,
  ⟨some 0x8, none, none, some 0xE⟩,
  ⟨some 0x9, none, none, some 0x0⟩,
  ⟨some 0xA, none, none, none⟩,
  ⟨some 0xB, none, none, none⟩,
  ⟨some 0xC, none, none, none⟩,
  ⟨some 0xD, none, none, none⟩,
  ⟨some 0xE, none, some 0x9, some 0xE⟩,
  ⟨some 0xE, none, some 0xA, some 0x1⟩,
  ⟨some 0xF, none, some 0x0, some 0x7⟩,
  ⟨some 0xF, none, some 0x0, some 0xA⟩,
  ⟨some 0xF, none, some 0x1, some 0x5⟩,
  ⟨some 0xF, none, some 0x1, some 0x8⟩,
  ⟨some 0xF, none, some 0x1, some 0xE⟩,
  ⟨some 0xF, none, some 0x2, some 0x9⟩,
  ⟨some 0xF, none, some 0x3, some 0x3⟩,
  ⟨some 0xF, none, some 0x5, some 0x5⟩,
  ⟨some 0xF, none, some 0x6, some 0x5⟩]

/-- The names of the instructions, in the order of their rows. -/
def rowNames : List String := [
  "CLS", "RET", "JP", "CALL", "SE", "SNE", "SE", "LD", "ADD",
  "LD", "OR", "AND", "XOR", "ADD", "SUB", "SHR", "SUBN", "SHL",
  "SNE", "LD", "JP", "RND", "DRW", "SKP", "SKNP",
  "LD", "LD", "LD", "LD", "ADD", "LD", "LD", "LD", "LD"]

/-- The rows of the instruction table, each with the name it stands for. -/
def namedRows : List (WordPattern × String) :=
  instructionTable.zip rowNames

/-- Whether two rows fix one of the digits differently. -/
def WordPattern.Differs (first second : WordPattern) : Prop :=
  (∃ digit ∈ first.first, ∃ other ∈ second.first, digit ≠ other) ∨
    (∃ digit ∈ first.second, ∃ other ∈ second.second, digit ≠ other) ∨
    (∃ digit ∈ first.third, ∃ other ∈ second.third, digit ≠ other) ∨
    (∃ digit ∈ first.fourth, ∃ other ∈ second.fourth, digit ≠ other)

instance (first second : WordPattern) : Decidable (first.Differs second) :=
  inferInstanceAs (Decidable (_ ∨ _))

/-- No word matches two rows that differ. -/
theorem WordPattern.Differs.not_matches
    {first second : WordPattern} {word : UInt16}
    (differ : first.Differs second)
    (matched : first.Matches word) :
    ¬ second.Matches word := by
  rcases matched with ⟨one, two, three, four⟩
  rintro ⟨otherOne, otherTwo, otherThree, otherFour⟩
  rcases differ with
    ⟨digit, fixed, other, otherFixed, different⟩ |
    ⟨digit, fixed, other, otherFixed, different⟩ |
    ⟨digit, fixed, other, otherFixed, different⟩ |
    ⟨digit, fixed, other, otherFixed, different⟩
  · exact different ((one _ fixed).symm.trans (otherOne _ otherFixed))
  · exact different ((two _ fixed).symm.trans (otherTwo _ otherFixed))
  · exact different ((three _ fixed).symm.trans (otherThree _ otherFixed))
  · exact different ((four _ fixed).symm.trans (otherFour _ otherFixed))

/-- A word matches at most one row. -/
theorem eq_of_mem_namedRows
    {row other : WordPattern × String} {word : UInt16}
    (listed : row ∈ namedRows) (otherListed : other ∈ namedRows)
    (matched : row.1.Matches word) (otherMatched : other.1.Matches word) :
    row = other := by
  have separate :
      ∀ row ∈ namedRows, ∀ other ∈ namedRows,
        row = other ∨ row.1.Differs other.1 := by
    decide +kernel
  rcases separate row listed other otherListed with same | differ
  · exact same
  · exact (differ.not_matches matched otherMatched).elim

/-- Whether a word is in the instruction table. -/
def Listed (word : UInt16) : Prop :=
  ∃ pattern ∈ instructionTable, pattern.Matches word

namespace Opcode

variable {word : UInt16} {family : Nat}

theorem matches_of_addressWord {target : Address}
    (number : word.toNat = Instruction.addressWord family target) :
    WordPattern.Matches ⟨some family, none, none, none⟩ word := by
  have bound := target.isLt
  simp only [Instruction.addressWord] at number
  simp [WordPattern.Matches]
  omega

theorem matches_of_xkWord {register : Register} {low : Nat}
    (number : word.toNat = Instruction.xkWord family register low)
    (bound : low < 256) :
    WordPattern.Matches ⟨some family, none, none, none⟩ word ∧
      WordPattern.Matches
        ⟨some family, none, some (low / 16), some (low % 16)⟩ word := by
  have registerBound := register.isLt
  simp only [Instruction.xkWord] at number
  simp [WordPattern.Matches]
  omega

theorem matches_of_xyWord {first second : Register} {last : Nat}
    (number : word.toNat = Instruction.xyWord family first second last)
    (bound : last < 16) :
    WordPattern.Matches ⟨some family, none, none, none⟩ word ∧
      WordPattern.Matches ⟨some family, none, none, some last⟩ word := by
  have firstBound := first.isLt
  have secondBound := second.isLt
  simp only [Instruction.xyWord] at number
  simp [WordPattern.Matches]
  omega

end Opcode

namespace Instruction

/-- The word of an instruction matches a row with the instruction's name. -/
theorem exists_row_encode (instruction : Instruction) :
    ∃ pattern,
      (pattern, instruction.mnemonic) ∈ namedRows ∧
        pattern.Matches instruction.encode := by
  have number := instruction.toNat_encode
  cases instruction with
  | clear =>
      exact ⟨⟨some 0x0, some 0x0, some 0xE, some 0x0⟩, by decide,
        by simp [WordPattern.Matches, number]; decide⟩
  | ret =>
      exact ⟨⟨some 0x0, some 0x0, some 0xE, some 0xE⟩, by decide,
        by simp [WordPattern.Matches, number]; decide⟩
  | jump target | call target | setIndex target | jumpOffset target =>
      exact ⟨_, by simp [namedRows, instructionTable, rowNames, mnemonic],
        Opcode.matches_of_addressWord number⟩
  | skip condition =>
      rw [mnemonic]
      cases condition with
      | byteIs register value | byteIsNot register value =>
          refine ⟨_, ?_, (Opcode.matches_of_xkWord number value.toNat_lt).1⟩
          simp [namedRows, instructionTable, rowNames, Condition.mnemonic]
      | same first second | differ first second =>
          refine ⟨_, ?_, (Opcode.matches_of_xyWord number (by decide)).2⟩
          simp [namedRows, instructionTable, rowNames, Condition.mnemonic]
      | keyDown register | keyUp register =>
          refine ⟨_, ?_, (Opcode.matches_of_xkWord number (by decide)).2⟩
          simp [namedRows, instructionTable, rowNames, Condition.mnemonic]
  | setByte register value | addByte register value | random register value =>
      exact ⟨_, by simp [namedRows, instructionTable, rowNames, mnemonic],
        (Opcode.matches_of_xkWord number value.toNat_lt).1⟩
  | combine operator first second =>
      refine ⟨_, ?_, (Opcode.matches_of_xyWord number operator.code_lt).2⟩
      cases operator <;>
        simp [namedRows, instructionTable, rowNames, mnemonic,
          Operator.mnemonic, Operator.code]
  | draw column row height =>
      exact ⟨_, by simp [namedRows, instructionTable, rowNames, mnemonic],
        (Opcode.matches_of_xyWord number height.isLt).1⟩
  | _ =>
      exact ⟨_, by simp [namedRows, instructionTable, rowNames, mnemonic],
        (Opcode.matches_of_xkWord number (by decide)).2⟩

theorem listed_encode (instruction : Instruction) :
    Listed instruction.encode := by
  rcases instruction.exists_row_encode with ⟨pattern, named, matched⟩
  exact ⟨pattern, (List.of_mem_zip named).1, matched⟩

theorem not_listed_of_decode?_eq_none
    {word : UInt16}
    (undecodable : decode? word = none) :
    ¬ Listed word := by
  simp only [Listed, instructionTable, List.mem_cons, List.not_mem_nil,
    or_false, exists_eq_or_imp, exists_eq_left, WordPattern.Matches,
    Option.mem_def, Option.some.injEq, forall_eq', reduceCtorEq,
    false_implies, implies_true, true_and, and_true]
  unfold decode? at undecodable
  split at undecodable
  case h_1 family =>
    have digit : word.toNat / 4096 = 0 := family
    have notClear : word.toNat ≠ 224 := by
      intro equal
      simp [show word = 224 from UInt16.toNat_inj.mp equal] at undecodable
    have notRet : word.toNat ≠ 238 := by
      intro equal
      simp [show word = 238 from UInt16.toNat_inj.mp equal] at undecodable
    omega
  case h_6 family | h_10 family =>
    have digit : word.toNat / 4096 = _ := family
    have last : word.toNat % 16 ≠ 0 := by
      intro equal
      simp [Opcode.n, equal] at undecodable
    omega
  case h_9 family =>
    have digit : word.toNat / 4096 = 8 := family
    have last : Operator.ofCode? (word.toNat % 16) = none :=
      Option.map_eq_none_iff.mp undecodable
    unfold Operator.ofCode? at last
    split at last
    case h_10 =>
      simp only [imp_false] at *
      omega
    all_goals simp at last
  case h_15 family =>
    have digit : word.toNat / 4096 = 14 := family
    have notDown : word.toNat % 256 ≠ 0x9E := by
      intro equal
      simp [Opcode.kk, equal] at undecodable
    have notUp : word.toNat % 256 ≠ 0xA1 := by
      intro equal
      simp [Opcode.kk, equal] at undecodable
    omega
  case h_16 family =>
    have digit : word.toNat / 4096 = 15 := family
    have low : (Opcode.kk word).toNat = word.toNat % 256 := by
      simp [Opcode.kk]
    rw [low] at undecodable
    unfold ofMiscellaneous? at undecodable
    split at undecodable
    case h_10 =>
      simp only [imp_false] at *
      omega
    all_goals simp at undecodable
  case h_17 =>
    have bound := word.toNat_lt
    simp only [imp_false, Opcode.family] at *
    omega
  all_goals simp at undecodable

theorem listed_of_decode?
    {word : UInt16} {instruction : Instruction}
    (decoded : decode? word = some instruction) :
    Listed word := by
  rw [decode?_eq_some_iff.mp decoded]
  exact instruction.listed_encode

/-- Exactly the words of the table decode. -/
theorem decode?_eq_none_iff {word : UInt16} :
    decode? word = none ↔ ¬ Listed word := by
  constructor
  · exact not_listed_of_decode?_eq_none
  · intro unlisted
    cases decoded : decode? word with
    | none => rfl
    | some instruction => exact (unlisted (listed_of_decode? decoded)).elim

/-- The name of a decoded instruction is that of the row of its word. -/
theorem mnemonic_eq_iff
    {word : UInt16} {instruction : Instruction}
    (decoded : decode? word = some instruction) (name : String) :
    instruction.mnemonic = name ↔
      ∃ pattern, (pattern, name) ∈ namedRows ∧ pattern.Matches word := by
  rw [decode?_eq_some_iff.mp decoded]
  rcases instruction.exists_row_encode with ⟨pattern, named, matched⟩
  constructor
  · rintro rfl
    exact ⟨pattern, named, matched⟩
  · rintro ⟨other, otherNamed, otherMatched⟩
    have same := eq_of_mem_namedRows named otherNamed matched otherMatched
    exact congrArg Prod.snd same

theorem decode?_eq_ret_iff {word : UInt16} :
    decode? word = some .ret ↔ word = 0x00EE :=
  decode?_eq_some_iff

/-- The calls are the words that begin with the digit two. -/
theorem decode?_eq_call_iff {word : UInt16} :
    (∃ target, decode? word = some (.call target)) ↔
      word.toNat / 4096 = 2 := by
  constructor
  · rintro ⟨target, decoded⟩
    have equation := number_of_decode? decoded
    have bound := target.isLt
    simp only [number, addressWord] at equation
    omega
  · intro family
    exact ⟨Opcode.nnn word, by simp [decode?, Opcode.family, family]⟩

theorem decode?_eq_awaitKey_iff {word : UInt16} {target : Register} :
    decode? word = some (.awaitKey target) ↔
      word.toNat = 0xF00A + 256 * target.val := by
  rw [decode?_eq_some_iff_number]
  simp only [number, xkWord]
  omega

theorem decode?_of_family_random {word : UInt16}
    (family : word.toNat / 4096 = 0xC) :
    decode? word = some (.random (Opcode.x word) (Opcode.kk word)) := by
  simp [decode?, Opcode.family, family]

theorem family_of_decode?_random {word : UInt16}
    {target : Register} {mask : UInt8}
    (decoded : decode? word = some (.random target mask)) :
    word.toNat / 4096 = 0xC := by
  have equation := number_of_decode? decoded
  have targetBound := target.isLt
  have maskBound := mask.toNat_lt
  simp only [number, xkWord] at equation
  omega

end Instruction

end ChipEight
