import ChipEight.Instruction.Encoding
import ChipEight.Journal
import Mathlib.Data.List.Basic
import Mathlib.Data.Set.Function

/-!
# Reading the journal back

A line of the journal begins with its level, and the facts that it reports
are separated by characters that occur in none of them.  Hexadecimal and
decimal numbers can be read back, so a line shows the counter, the word, the
registers, the index and the depth of an instruction, the register of a wait
and the key that ends it.  `Event.line_injOn` states that different events of
a run have different lines.
-/

namespace ChipEight

/-! ## Texts between marks -/

section Marks

variable {α : Type} {mark : α} {first second rest others : List α}

/-- What stands before the first mark and what follows it can be told apart. -/
theorem eq_and_eq_of_append_cons_eq
    (unmarked : mark ∉ first)
    (unmarked' : mark ∉ second)
    (same : first ++ mark :: rest = second ++ mark :: others) :
    first = second ∧ rest = others := by
  induction first generalizing second with
  | nil =>
      cases second with
      | nil => exact ⟨rfl, (List.cons.inj same).2⟩
      | cons head tail =>
          have marked : mark = head := (List.cons.inj same).1
          exact (unmarked' (marked ▸ List.mem_cons_self)).elim
  | cons head tail ih =>
      cases second with
      | nil =>
          have marked : head = mark := (List.cons.inj same).1
          exact (unmarked (marked ▸ List.mem_cons_self)).elim
      | cons head' tail' =>
          rcases List.cons.inj same with ⟨rfl, tails⟩
          rcases ih (fun member => unmarked (List.mem_cons_of_mem _ member))
              (fun member => unmarked' (List.mem_cons_of_mem _ member))
              tails with
            ⟨rfl, after⟩
          exact ⟨rfl, after⟩

/-- Joined texts that lack the first mark of the separator can be told apart. -/
theorem eq_of_intercalate_eq
    {separator : List α} {texts texts' : List (List α)}
    (length : texts.length = texts'.length)
    (unmarked : ∀ text ∈ texts, mark ∉ text)
    (unmarked' : ∀ text ∈ texts', mark ∉ text)
    (same :
      (mark :: separator).intercalate texts =
        (mark :: separator).intercalate texts') :
    texts = texts' := by
  induction texts generalizing texts' with
  | nil => exact (List.length_eq_zero_iff.mp length.symm).symm
  | cons text texts ih =>
      cases texts' with
      | nil => cases length
      | cons text' texts' =>
          rcases List.forall_mem_cons.mp unmarked with ⟨free, others⟩
          rcases List.forall_mem_cons.mp unmarked' with ⟨free', others'⟩
          have lengths : texts.length = texts'.length := Nat.succ.inj length
          cases texts with
          | nil =>
              cases List.length_eq_zero_iff.mp lengths.symm
              simpa using same
          | cons next texts =>
              cases texts' with
              | nil => cases lengths
              | cons next' texts' =>
                  simp only [List.intercalate_cons_cons, List.append_assoc,
                    List.cons_append] at same
                  rcases eq_and_eq_of_append_cons_eq free free' same with
                    ⟨rfl, after⟩
                  exact congrArg (text :: ·)
                    (ih lengths others others' (List.append_cancel_left after))

theorem notMem_intercalate
    {separator : List α} {texts : List (List α)}
    (separate : mark ∉ separator)
    (unmarked : ∀ text ∈ texts, mark ∉ text) :
    mark ∉ separator.intercalate texts := by
  induction texts with
  | nil => exact List.not_mem_nil
  | cons text texts ih =>
      rcases List.forall_mem_cons.mp unmarked with ⟨free, others⟩
      cases texts with
      | nil => simpa using free
      | cons next texts =>
          rw [List.intercalate_cons_cons]
          simp only [List.mem_append, not_or]
          exact ⟨⟨free, separate⟩, ih others⟩

end Marks

/-! ## Numbers -/

namespace Hex

/-- The value of an upper-case hexadecimal digit. -/
def valueOf (character : Char) : Nat :=
  if character.isDigit then character.toNat - '0'.toNat
  else character.toNat - 'A'.toNat + 10

/-- The number that hexadecimal digits denote, the most significant first. -/
def number (text : List Char) : Nat :=
  text.foldl (fun total character => 16 * total + valueOf character) 0

theorem valueOf_digit {value : Nat} (small : value < 16) :
    valueOf (digit value) = value := by
  revert value
  decide

theorem number_concat (text : List Char) (character : Char) :
    number (text ++ [character]) = 16 * number text + valueOf character := by
  rw [number, List.foldl_append]
  rfl

/-- Hexadecimal digits are read back to the number they stand for. -/
theorem number_digits (value : Nat) : number (digits value) = value := by
  fun_induction digits value with
  | case1 value small =>
      rw [← List.nil_append [digit value], number_concat, valueOf_digit small]
      exact Nat.zero_add value
  | case2 value large ih =>
      rw [number_concat, ih, valueOf_digit (Nat.mod_lt value (by decide))]
      exact Nat.div_add_mod value 16

theorem number_replicate_zero_append (count : Nat) (text : List Char) :
    number (List.replicate count '0' ++ text) = number text := by
  induction count with
  | zero => rfl
  | succ count ih => exact ih

theorem toList_upper (width value : Nat) :
    (upper width value).toList =
      List.replicate (width - (digits value).length) '0' ++ digits value :=
  String.toList_ofList

theorem number_upper (width value : Nat) :
    number (upper width value).toList = value := by
  rw [toList_upper, number_replicate_zero_append, number_digits]

/-- A number can be read back from its hexadecimal text of any width. -/
theorem eq_of_toList_upper_eq
    {width first second : Nat}
    (same : (upper width first).toList = (upper width second).toList) :
    first = second := by
  rw [← number_upper width first, same, number_upper]

theorem exists_digit_eq_of_mem_digits
    {value : Nat} {character : Char}
    (member : character ∈ digits value) :
    ∃ small < 16, digit small = character := by
  fun_induction digits value with
  | case1 value small =>
      exact ⟨value, small, (List.mem_singleton.mp member).symm⟩
  | case2 value large ih =>
      rcases List.mem_append.mp member with before | last
      · exact ih before
      · exact ⟨value % 16, Nat.mod_lt value (by decide),
          (List.mem_singleton.mp last).symm⟩

/-- Hexadecimal text holds nothing but hexadecimal digits. -/
theorem notMem_upper
    {mark : Char}
    (noDigit : ∀ small < 16, digit small ≠ mark)
    (width value : Nat) :
    mark ∉ (upper width value).toList := by
  intro member
  rw [toList_upper] at member
  rcases List.mem_append.mp member with filler | inDigits
  · exact noDigit 0 (by decide) (List.eq_of_mem_replicate filler).symm
  · rcases exists_digit_eq_of_mem_digits inDigits with ⟨small, below, equal⟩
    exact noDigit small below equal

end Hex

/-- A number can be read back from its decimal digits. -/
theorem eq_of_toDigits_eq
    {first second : Nat}
    (same : Nat.toDigits 10 first = Nat.toDigits 10 second) :
    first = second := by
  rw [← Nat.ofDigitChars_ten_toDigits (n := first), same,
    Nat.ofDigitChars_ten_toDigits]

/-! ## Lines -/

/--
Whether an event can come from a run: a report about an instruction names
the one that its word encodes.
-/
def Event.Genuine : Event → Prop
  | .executing snapshot =>
    Instruction.decode? snapshot.opcode = some snapshot.instruction
  | _ => True

namespace Snapshot

variable {first second : Snapshot}

/-- The registers of a snapshot as its text shows them. -/
def registerTexts (snapshot : Snapshot) : List (List Char) :=
  snapshot.registers.toList.map fun value => (Hex.upper 2 value.toNat).toList

/-- The line of an instruction as a list of characters, field by field. -/
theorem toList_text (snapshot : Snapshot) :
    snapshot.text.toList =
      (Hex.upper 3 snapshot.counter.toNat).toList ++ ':' :: ' ' ::
        ((Hex.upper 4 snapshot.opcode.toNat).toList ++ ' ' ::
          ((padded 4 snapshot.instruction.mnemonic).toList ++ " v[".toList ++
            ([',', ' '].intercalate snapshot.registerTexts ++ ']' ::
              ' ' :: 'i' ::
                ((Hex.upper 3 snapshot.index.toNat).toList ++ ' ' ::
                  's' :: 'p' :: Nat.toDigits 10 snapshot.depth.toNat)))) := by
  simp [text, registerTexts, String.toList_append, String.toList_intercalate,
    Nat.toList_repr, Function.comp_def]

/-- A mark that is no digit stands in no register's text. -/
theorem notMem_of_mem_registerTexts
    {mark : Char} {text : List Char} {snapshot : Snapshot}
    (noDigit : ∀ small < 16, Hex.digit small ≠ mark)
    (member : text ∈ snapshot.registerTexts) :
    mark ∉ text := by
  rcases List.mem_map.mp member with ⟨value, _, rfl⟩
  exact Hex.notMem_upper noDigit 2 value.toNat

theorem registers_eq_of_registerTexts_eq
    (same : first.registerTexts = second.registerTexts) :
    first.registers = second.registers := by
  apply Vector.toList_inj.mp
  refine List.map_injective_iff.mpr ?_ same
  intro value other equal
  exact UInt8.toNat_inj.mp (Hex.eq_of_toList_upper_eq equal)

/-- The joined texts of the registers tell each register's value. -/
theorem registers_eq_of_intercalate_eq
    (same :
      [',', ' '].intercalate first.registerTexts =
        [',', ' '].intercalate second.registerTexts) :
    first.registers = second.registers := by
  apply registers_eq_of_registerTexts_eq
  refine eq_of_intercalate_eq ?_ ?_ ?_ same
  · simp [registerTexts]
  · intro text
    exact notMem_of_mem_registerTexts (by decide)
  · intro text
    exact notMem_of_mem_registerTexts (by decide)

/-- The text of a snapshot shows all of it. -/
theorem eq_of_text_eq
    (genuine : Event.Genuine (.executing first))
    (genuine' : Event.Genuine (.executing second))
    (same : first.text = second.text) :
    first = second := by
  have lists := congrArg String.toList same
  rw [toList_text, toList_text] at lists
  have noBracket (snapshot : Snapshot) :
      ']' ∉ [',', ' '].intercalate snapshot.registerTexts :=
    notMem_intercalate (by decide) fun _ =>
      notMem_of_mem_registerTexts (by decide)
  rcases eq_and_eq_of_append_cons_eq (Hex.notMem_upper (by decide) _ _)
      (Hex.notMem_upper (by decide) _ _) lists with
    ⟨counter, lists⟩
  rcases eq_and_eq_of_append_cons_eq (Hex.notMem_upper (by decide) _ _)
      (Hex.notMem_upper (by decide) _ _) (List.cons.inj lists).2 with
    ⟨opcode, lists⟩
  have opcodes : first.opcode = second.opcode :=
    UInt16.toNat_inj.mp (Hex.eq_of_toList_upper_eq opcode)
  have instructions : first.instruction = second.instruction := by
    rw [Event.Genuine, opcodes, genuine'] at genuine
    exact (Option.some.inj genuine).symm
  rw [instructions] at lists
  rcases eq_and_eq_of_append_cons_eq (noBracket first) (noBracket second)
      (List.append_cancel_left lists) with
    ⟨registers, lists⟩
  rcases eq_and_eq_of_append_cons_eq (Hex.notMem_upper (by decide) _ _)
      (Hex.notMem_upper (by decide) _ _)
      (List.cons.inj (List.cons.inj lists).2).2 with
    ⟨index, lists⟩
  have depth :=
    eq_of_toDigits_eq (List.cons.inj (List.cons.inj lists).2).2
  have fields :
      first.counter = second.counter ∧ first.opcode = second.opcode ∧
        first.instruction = second.instruction ∧
        first.registers = second.registers ∧ first.index = second.index ∧
        first.depth = second.depth :=
    ⟨UInt16.toNat_inj.mp (Hex.eq_of_toList_upper_eq counter), opcodes,
      instructions, registers_eq_of_intercalate_eq registers,
      UInt16.toNat_inj.mp (Hex.eq_of_toList_upper_eq index),
      UInt8.toNat_inj.mp depth⟩
  cases first
  cases second
  rw [Snapshot.mk.injEq]
  exact fields

end Snapshot

namespace Event

variable {first second : Event}

theorem text_resetting : resetting.text = "resetting machine" :=
  rfl

theorem text_loaded (size : Nat) :
    (loaded size).text = "loaded " ++ toString size ++ " byte program" :=
  rfl

theorem text_waiting (register : UInt8) :
    (waiting register).text =
      "waiting for a key press into V" ++ Hex.upper 1 register.toNat :=
  rfl

theorem text_resuming (key : Key) (register : UInt8) :
    (resuming key register).text =
      "key " ++ Hex.upper 1 key.val ++ " pressed, resuming into V" ++
        Hex.upper 1 register.toNat :=
  rfl

theorem text_launched (path : String) :
    (launched path).text = "loaded " ++ path :=
  rfl

/-- A line shows the level and the wording of its event. -/
theorem level_eq_and_text_eq_of_line_eq
    (same : first.line = second.line) :
    first.level = second.level ∧ first.text.toList = second.text.toList := by
  have noBlank (event : Event) : ' ' ∉ event.level.label.toList := by
    cases event.level <;> decide
  have toList_line (event : Event) :
      event.line.toList =
        event.level.label.toList ++ ' ' :: event.text.toList := by
    simp [line, String.toList_append]
  have lists := congrArg String.toList same
  rw [toList_line, toList_line] at lists
  rcases eq_and_eq_of_append_cons_eq (noBlank first) (noBlank second) lists
    with ⟨labels, texts⟩
  refine ⟨?_, texts⟩
  revert labels
  cases first.level <;> cases second.level <;> decide

theorem eq_of_loaded_text_eq
    {size size' : Nat}
    (same : (loaded size).text.toList = (loaded size').text.toList) :
    size = size' := by
  have toList_text (size : Nat) :
      (loaded size).text.toList =
        "loaded ".toList ++
          (Nat.toDigits 10 size ++ ' ' :: "byte program".toList) := by
    simp [text_loaded, String.toList_append, Nat.toList_repr]
  have noBlank (size : Nat) : ' ' ∉ Nat.toDigits 10 size := by
    intro member
    exact absurd (Nat.isDigit_of_mem_toDigits (by decide) (by decide) member)
      (by decide)
  rw [toList_text, toList_text, List.append_cancel_left_eq] at same
  exact eq_of_toDigits_eq
    (eq_and_eq_of_append_cons_eq (noBlank size) (noBlank size') same).1

theorem eq_of_waiting_text_eq
    {register register' : UInt8}
    (same : (waiting register).text.toList = (waiting register').text.toList) :
    register = register' := by
  simp only [text_waiting, String.toList_append, List.append_cancel_left_eq]
    at same
  exact UInt8.toNat_inj.mp (Hex.eq_of_toList_upper_eq same)

theorem eq_of_resuming_text_eq
    {key key' : Key} {register register' : UInt8}
    (same :
      (resuming key register).text.toList =
        (resuming key' register').text.toList) :
    key = key' ∧ register = register' := by
  have toList_text (key : Key) (register : UInt8) :
      (resuming key register).text.toList =
        "key ".toList ++ ((Hex.upper 1 key.val).toList ++ ' ' ::
          ("pressed, resuming into V".toList ++
            (Hex.upper 1 register.toNat).toList)) := by
    simp [text_resuming, String.toList_append]
  rw [toList_text, toList_text, List.append_cancel_left_eq] at same
  rcases eq_and_eq_of_append_cons_eq (Hex.notMem_upper (by decide) _ _)
      (Hex.notMem_upper (by decide) _ _) same with
    ⟨keys, rest⟩
  rw [List.append_cancel_left_eq] at rest
  exact
    ⟨Fin.ext (Hex.eq_of_toList_upper_eq keys),
      UInt8.toNat_inj.mp (Hex.eq_of_toList_upper_eq rest)⟩

/--
Different events of a run have different lines.  Events of different kinds
differ in their levels or in the first letters of their texts.
-/
theorem line_injOn : Set.InjOn line {event | event.Genuine} := by
  intro first genuine second genuine' same
  rcases level_eq_and_text_eq_of_line_eq same with ⟨levels, texts⟩
  have initials := congrArg List.head? texts
  cases first <;> cases second
  case resetting.resetting => rfl
  case silent.silent => rfl
  case loaded.loaded size size' => rw [eq_of_loaded_text_eq texts]
  case executing.executing snapshot snapshot' =>
    rw [Snapshot.eq_of_text_eq genuine genuine' (String.toList_inj.mp texts)]
  case waiting.waiting register register' =>
    rw [eq_of_waiting_text_eq texts]
  case resuming.resuming key register key' register' =>
    rcases eq_of_resuming_text_eq texts with ⟨rfl, rfl⟩
    rfl
  case launched.launched path path' =>
    simp only [text_launched, String.toList_append,
      List.append_cancel_left_eq] at texts
    rw [String.toList_inj.mp texts]
  all_goals first
    | (cases levels; done)
    | simp [text_resetting, text_loaded, text_waiting, text_resuming,
        String.toList_append] at initials

/-- The events of a run can be told from their lines. -/
theorem eq_of_map_line_eq
    {events others : List Event}
    (genuine : ∀ event ∈ events, event.Genuine)
    (genuine' : ∀ event ∈ others, event.Genuine)
    (same : events.map line = others.map line) :
    events = others := by
  induction events generalizing others with
  | nil => exact (List.map_eq_nil_iff.mp same.symm).symm
  | cons event events ih =>
      cases others with
      | nil => cases same
      | cons other others =>
          rcases List.forall_mem_cons.mp genuine with ⟨now, later⟩
          rcases List.forall_mem_cons.mp genuine' with ⟨now', later'⟩
          rcases List.cons.inj same with ⟨lines, rest⟩
          rw [line_injOn now now' lines, ih later later' rest]

end Event

end ChipEight
