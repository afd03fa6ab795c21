import ChipEight.CommandLine.Parse
import ChipEight.Launch
import ChipEight.Proofs.Loading
import ChipEight.Proofs.Numerals

/-!
# The scale and the window

A command line may choose every scale but zero, and no scale is held back
because the scaled screen does not fit in thirty-two bits.  The window of a
fitting scale has exactly the size of the scaled screen; from `67108864` on
its width cannot be computed and the launch panics.  Both are
`window_is_scaled_screen_or_launch_panics`, for every reader of command lines
that reads its counts as documented, as `Options.parse` does.
-/

namespace ChipEight

/-! ## What readers yield -/

section Yields

variable {α β ε ε' : Type}

/-- Whether the result of a reader, if there is one, has a property. -/
def Yields (property : α → Prop) (reader : Except ε α) : Prop :=
  ∀ result, reader = .ok result → property result

namespace Yields

variable {property : α → Prop} {other : β → Prop} {reader : Except ε α}

theorem ok {result : α} (holds : property result) :
    Yields property (.ok result : Except ε α) := by
  rintro _ ⟨⟩
  exact holds

theorem trivial : Yields (fun _ => True) reader :=
  fun _ _ => True.intro

theorem error (cause : ε) : Yields property (.error cause : Except ε α) :=
  nofun

/-- A reader that reads on from a good result yields what the rest yields. -/
theorem bind
    {next : α → Except ε β}
    (first : Yields property reader)
    (rest : ∀ result, property result → Yields other (next result)) :
    Yields other (reader >>= next) := by
  cases reader with
  | error cause => exact error cause
  | ok result => exact rest result (first result rfl)

theorem map
    {change : α → β}
    (first : Yields property reader)
    (changes : ∀ result, property result → other (change result)) :
    Yields other (reader.map change) := by
  cases reader with
  | error cause => exact error cause
  | ok result => exact ok (changes result (first result rfl))

theorem mapError
    (first : Yields property reader) (rename : ε → ε') :
    Yields property (reader.mapError rename) := by
  cases reader with
  | error cause => exact error (rename cause)
  | ok result => exact ok (first result rfl)

/-- What every step keeps, a whole run of steps keeps. -/
theorem foldlM
    {step : β → α → Except ε β} {start : β}
    (keeps : ∀ value a, other value → Yields other (step value a))
    (holds : other start) (list : List α) :
    Yields other (list.foldlM step start) := by
  induction list generalizing start with
  | nil => exact ok holds
  | cons a rest ih =>
      rw [List.foldlM_cons]
      exact bind (keeps start a holds) fun _ => ih

end Yields

end Yields

/-! ## Counts are not zero -/

namespace Draft

/-- Whether neither count has been chosen as zero. -/
structure Counted (draft : Draft) : Prop where
  speed : draft.speed ≠ some 0
  scale : draft.scale ≠ some 0

variable {draft : Draft}

/-- A number above zero that fits in a word is not zero as a word either. -/
theorem ofNat_ne_zero
    {number : Nat} (positive : number ≠ 0) (within : number ≤ 4294967295) :
    UInt32.ofNat number ≠ 0 := by
  intro zero
  have value := congrArg UInt32.toNat zero
  rw [UInt32.toNat_ofNat_of_lt' (Nat.lt_succ_of_le within)] at value
  exact positive value

/-- A count is read from the numerals of the numbers above zero. -/
theorem readCount_of_denotes
    {text : String} {number : Nat}
    (denotes : Numeral.Denotes text.toList number)
    (positive : number ≠ 0) (within : number ≤ 4294967295) :
    readCount text = .ok (UInt32.ofNat number) := by
  rw [readCount, Numeral.read_eq_ok_iff.mpr ⟨denotes, within⟩]
  exact if_neg positive

theorem readCount_yields (text : String) :
    Yields (· ≠ 0) (readCount text) := by
  rw [readCount]
  cases read : Numeral.read 4294967295 text.toList with
  | error cause => exact .error _
  | ok number =>
      have within := (Numeral.read_eq_ok_iff.mp read).2
      dsimp only
      split
      · exact .error _
      · rename_i positive
        exact .ok (ofNat_ne_zero positive within)

theorem Counted.set
    (counted : draft.Counted) (name : ValueOption) (text : String) :
    Yields Counted (draft.set name text) := by
  cases name with
  | speed =>
      refine (readCount_yields text).map fun speed nonzero => ?_
      exact ⟨fun zero => nonzero (Option.some.inj zero), counted.scale⟩
  | scale =>
      refine (readCount_yields text).map fun scale nonzero => ?_
      exact ⟨counted.speed, fun zero => nonzero (Option.some.inj zero)⟩
  | scheme | foreground | background =>
      exact Yields.trivial.map fun _ _ => ⟨counted.speed, counted.scale⟩

theorem Counted.setOnce
    (counted : draft.Counted) (name : ValueOption) (text : String) :
    Yields Counted (draft.setOnce name text) := by
  rw [Draft.setOnce]
  split
  · exact .error _
  · exact (counted.set name text).mapError UsageError.badValue

theorem Counted.raise (counted : draft.Counted) (flag : Flag) :
    Yields Counted (draft.raise flag) := by
  cases flag with
  | help => exact .error _
  | verbose => exact .ok ⟨counted.speed, counted.scale⟩
  | wrapRows =>
      rw [Draft.raise]
      split
      · exact .error _
      · exact .ok ⟨counted.speed, counted.scale⟩

theorem getD_ne_zero
    {count : Option UInt32} {standard : UInt32}
    (nonzero : count ≠ some 0) (standardNonzero : standard ≠ 0) :
    count.getD standard ≠ 0 := by
  cases count with
  | none => exact standardNonzero
  | some value => exact fun zero => nonzero (congrArg some zero)

/-- The counts that are left out are filled in with standards above zero. -/
theorem Counted.finish (counted : draft.Counted) :
    Yields
      (fun options => options.speed ≠ 0 ∧ options.scale ≠ 0)
      draft.finish := by
  rw [Draft.finish]
  cases draft.program with
  | none => exact .error _
  | some program =>
      exact .ok
        ⟨getD_ne_zero counted.speed (by decide),
          getD_ne_zero counted.scale (by decide)⟩

end Draft

namespace Reading

variable {reading : Reading}

/-- Whether neither count has been chosen as zero. -/
def Counted (reading : Reading) : Prop :=
  reading.draft.Counted

theorem Counted.resolve (counted : reading.Counted) :
    Yields Draft.Counted reading.resolve := by
  rw [Reading.resolve]
  cases reading.pending with
  | nothing => exact .ok counted
  | option name value =>
      cases value with
      | none => exact .error _
      | some text => exact Draft.Counted.setOnce counted name text
  | program path =>
      dsimp only
      split
      · exact .error _
      · exact .ok ⟨counted.speed, counted.scale⟩

theorem Counted.await (counted : reading.Counted) (pending : Pending) :
    Yields Counted (reading.await pending) :=
  counted.resolve.map fun _ resolved => resolved

theorem Counted.takeFlag (counted : reading.Counted) (flag : Flag) :
    Yields Counted (reading.takeFlag flag) :=
  counted.resolve.bind fun _ resolved =>
    (resolved.raise flag).bind fun _ raised => .ok raised

theorem Counted.takeOption
    (counted : reading.Counted) (name : ValueOption) (value : String) :
    Yields Counted (reading.takeOption name value) :=
  counted.resolve.bind fun _ resolved =>
    (resolved.setOnce name value).bind fun _ chosen => .ok chosen

theorem Counted.takeLong
    (counted : reading.Counted) (name : String) (value : Option String) :
    Yields Counted (reading.takeLong name value) := by
  unfold Reading.takeLong
  split
  · exact .error _
  · exact .error _
  · exact counted.takeFlag _
  · exact counted.takeOption _ _
  · exact counted.await _

theorem Counted.takeLetter (counted : reading.Counted) (letter : Char) :
    Yields Counted (reading.takeLetter letter) := by
  rw [Reading.takeLetter]
  split
  · exact .error _
  · exact counted.takeFlag _

theorem Counted.takePlain (counted : reading.Counted) (text : String) :
    Yields Counted (reading.takePlain text) := by
  rw [Reading.takePlain]
  split
  · exact .error _
  · exact (counted.await _).map fun _ awaited => awaited

/-- No argument chooses a count as zero. -/
theorem Counted.take (counted : reading.Counted) (argument : String) :
    Yields Counted (reading.take argument) := by
  rw [Reading.take]
  split
  · exact counted.takePlain argument
  · split
    · exact .ok counted
    · exact counted.takeLong _ _
    · exact .foldlM (fun _ letter kept => kept.takeLetter letter) counted _
    · exact .ok counted
    · exact counted.takePlain _

end Reading

namespace Options

/-- No accepted command line chooses a count as zero. -/
theorem parse_yields (arguments : List String) :
    Yields
      (fun options => options.speed ≠ 0 ∧ options.scale ≠ 0)
      (parse arguments) := by
  have start : Reading.start.Counted := ⟨nofun, nofun⟩
  have read :=
    Yields.foldlM (fun _ argument kept => kept.take argument) start arguments
  exact read.bind fun _ kept =>
    kept.resolve.bind fun _ resolved => resolved.finish

end Options

/-! ## Every other scale is accepted -/

/-- Text that begins with a digit stands for itself. -/
theorem ArgumentShape.ofText_of_isDigit
    {text : String} {first : Char} {rest : List Char}
    (begins : text.toList = first :: rest)
    (digit : first.isDigit = true) :
    ofText text = .plain text := by
  have noDash : first ≠ '-' := by
    rintro rfl
    revert digit
    decide
  rw [ofText, begins]
  split
  · rename_i terminator
    cases terminator
    exact (noDash rfl).elim
  · rename_i long
    cases long
    exact (noDash rfl).elim
  · rename_i short
    cases short
    exact (noDash rfl).elim
  · rfl

theorem ArgumentShape.ofText_toDigits (number : Nat) :
    ofText (String.ofList (Nat.toDigits 10 number)) =
      .plain (String.ofList (Nat.toDigits 10 number)) := by
  cases digits : Nat.toDigits 10 number with
  | nil => exact (Nat.toDigits_ne_nil digits).elim
  | cons first rest =>
      have member : first ∈ Nat.toDigits 10 number := by
        rw [digits]
        exact List.mem_cons_self
      exact ofText_of_isDigit String.toList_ofList
        (Nat.isDigit_of_mem_toDigits (by decide) (by decide) member)

theorem Draft.readCount_toDigits {count : UInt32} (nonzero : count ≠ 0) :
    readCount (String.ofList (Nat.toDigits 10 count.toNat)) = .ok count := by
  have denotes := Numeral.denotes_toDigits count.toNat
  rw [← String.toList_ofList (l := Nat.toDigits 10 count.toNat)] at denotes
  have positive : count.toNat ≠ 0 := fun zero =>
    nonzero (UInt32.toNat_inj.mp zero)
  have within := Nat.le_of_lt_succ count.toNat_lt
  rw [readCount_of_denotes denotes positive within, UInt32.ofNat_toNat]

namespace Reading

variable {draft next : Draft} {name : ValueOption} {text value : String}

/-- An option that takes a value takes the next argument. -/
theorem take_value
    (plain : ArgumentShape.ofText text = .plain text)
    (draft : Draft) (name : ValueOption) (seen : Bool) :
    take ⟨draft, .option name none, seen, false⟩ text =
      .ok ⟨draft, .option name (some text), seen, false⟩ := by
  rw [take, plain]
  rfl

/-- An option with its value is set when the program's path is read. -/
theorem take_program
    (plain : ArgumentShape.ofText text = .plain text)
    (resolved : draft.setOnce name value = .ok next) :
    take ⟨draft, .option name (some value), false, false⟩ text =
      .ok ⟨next, .program text, true, false⟩ := by
  let reading : Reading := ⟨draft, .option name (some value), false, false⟩
  have checked : reading.resolve = .ok next := resolved
  calc
    reading.take text = reading.takePlain text := by
      rw [take, plain]
      rfl
    _ = .ok ⟨next, .program text, true, false⟩ := by
      rw [takePlain, await, checked]
      rfl

end Reading

namespace Options

/-- The options of a command line that chooses a scale and nothing else. -/
def ofScale (program : String) (scale : UInt32) : Options where
  program := program
  speed := Config.standard.speed
  wrapRows := false
  scheme := .blackWhite
  foreground := none
  background := none
  scale := scale
  verbosity := 0

/-- The digits of every scale but zero are accepted as the scale. -/
theorem parse_scale {scale : UInt32} (nonzero : scale ≠ 0) :
    parse ["--scale", String.ofList (Nat.toDigits 10 scale.toNat), "r.ch8"] =
      .ok (ofScale "r.ch8" scale) := by
  let chosen : Draft := { Draft.empty with scale := some scale }
  have plain := ArgumentShape.ofText_toDigits scale.toNat
  have count := Draft.readCount_toDigits nonzero
  generalize String.ofList (Nat.toDigits 10 scale.toNat) = text at *
  have awaited :
      Reading.start.take "--scale" =
        .ok ⟨.empty, .option .scale none, false, false⟩ := by
    decide
  have resolved : Draft.empty.setOnce .scale text = .ok chosen := by
    rw [Draft.setOnce, Draft.set, count]
    rfl
  have path : ArgumentShape.ofText "r.ch8" = .plain "r.ch8" := by decide
  have completed := Reading.take_program path resolved
  simp only [parse, List.foldlM_cons, List.foldlM_nil, awaited,
    Reading.take_value plain, completed, bind, Except.bind]
  rfl

end Options

/-! ## Readers of command lines -/

/--
What is documented of a reader of command lines: the counts that it accepts
are words from one on, and it accepts the digits of every such word as the
scale.
-/
structure ReadsCounts {ε : Type} (parse : List String → Except ε Options) :
    Prop where
  counts :
    ∀ arguments,
      Yields
        (fun options => options.speed ≠ 0 ∧ options.scale ≠ 0)
        (parse arguments)
  accepts :
    ∀ scale : UInt32,
      scale ≠ 0 →
        ∃ options,
          parse
              ["--scale", String.ofList (Nat.toDigits 10 scale.toNat),
                "r.ch8"] =
              .ok options ∧
            options.scale = scale

/-- The reader of this command reads its counts as documented. -/
theorem Options.readsCounts_parse : ReadsCounts parse where
  counts := parse_yields
  accepts _ nonzero := ⟨_, parse_scale nonzero, rfl⟩

/-! ## Windows -/

/-- A product is given exactly if it is the product of the numbers. -/
theorem checkedProduct_eq_some_iff {left right product : UInt32} :
    checkedProduct left right = some product ↔
      product.toNat = left.toNat * right.toNat := by
  have value := UInt32.toNat_mul left right
  rw [checkedProduct]
  split
  · rename_i fits
    rw [Nat.mod_eq_of_lt fits] at value
    rw [Option.some_inj, ← UInt32.toNat_inj, value]
    exact eq_comm
  · rename_i overflows
    constructor
    · rintro ⟨⟩
    · intro product_eq
      exact (overflows (product_eq ▸ product.toNat_lt)).elim

namespace WindowSize

variable {scale : UInt32} {size : WindowSize}

/-- A size is asked for exactly if it is the scaled screen's. -/
theorem ofScale?_eq_some_iff :
    ofScale? scale = some size ↔
      size.width.toNat = 64 * scale.toNat ∧
        size.height.toNat = 32 * scale.toNat := by
  rcases size with ⟨width, height⟩
  simp only [ofScale?, Option.bind_eq_bind, Option.bind_eq_some_iff,
    checkedProduct_eq_some_iff, Option.pure_def, Option.some.injEq,
    mk.injEq]
  constructor
  · rintro ⟨_, scaledWidth, _, scaledHeight, rfl, rfl⟩
    exact ⟨scaledWidth, scaledHeight⟩
  · rintro ⟨scaledWidth, scaledHeight⟩
    exact ⟨width, scaledWidth, height, scaledHeight, rfl, rfl⟩

/-- The width is the first side to overflow. -/
theorem ofScale?_eq_none_iff :
    ofScale? scale = none ↔ 67108864 ≤ scale.toNat := by
  rcases Nat.lt_or_ge scale.toNat 67108864 with fits | overflows
  · have width : 64 * scale.toNat < 4294967296 := by omega
    have height : 32 * scale.toNat < 4294967296 := by omega
    have asked : ofScale? scale = some ⟨64 * scale, 32 * scale⟩ :=
      ofScale?_eq_some_iff.mpr
        ⟨(UInt32.toNat_mul 64 scale).trans (Nat.mod_eq_of_lt width),
          (UInt32.toNat_mul 32 scale).trans (Nat.mod_eq_of_lt height)⟩
    rw [asked]
    simp [Nat.not_le.mpr fits]
  · refine iff_of_true (Option.eq_none_iff_forall_ne_some.mpr ?_) overflows
    intro size asked
    have scaledWidth := (ofScale?_eq_some_iff.mp asked).1
    have bound := size.width.toNat_lt
    omega

end WindowSize

namespace Launch

variable {scale : UInt32}

theorem openWindow_eq_failed_iff {size : WindowSize} :
    openWindow scale = .failed (.window size) ↔
      WindowSize.ofScale? scale = some size := by
  rw [openWindow]
  cases WindowSize.ofScale? scale <;> simp

theorem openWindow_eq_panicked_iff :
    openWindow scale = .panicked ↔ WindowSize.ofScale? scale = none := by
  rw [openWindow]
  cases WindowSize.ofScale? scale <;> simp

/-- A launch with nothing wrong before the window ends at the window. -/
theorem ending_run_of_fits
    {config : Config} {program : Array UInt8}
    (paced : config.speed ≠ 0)
    (fits : program.size ≤ Memory.programLimit)
    (scale : UInt32) (random : RandomStream) (path : String) :
    (run config scale random path (some program)).ending =
      openWindow scale := by
  have positive : 0 < config.speed := UInt32.pos_iff_ne_zero.mpr paced
  rw [run, prepare, Pacer.ofSpeed, dif_pos positive]
  dsimp only
  rw [Machine.loadFile, Machine.load_of_fits fits]

end Launch

/--
A scale of thirty-two bits can be chosen unless it is zero.  Whatever the
command line, a launch with a loadable program asks for a window exactly if
its width and height are 64 and 32 times the chosen scale as numbers, and it
panics exactly if the scale is `67108864` or more.
-/
theorem window_is_scaled_screen_or_launch_panics
    {ε : Type} {parse : List String → Except ε Options}
    (reads : ReadsCounts parse) :
    (∀ scale : UInt32,
      (∃ arguments options,
          parse arguments = .ok options ∧ options.scale = scale) ↔
        scale ≠ 0) ∧
      ∀ arguments options,
        parse arguments = .ok options →
          ∀ random (program : Array UInt8),
            program.size ≤ 3584 →
              let ending := (options.launch random (some program)).ending
              let scale := options.scale.toNat
              (∀ size : WindowSize,
                  ending = .failed (.window size) ↔
                    size.width.toNat = 64 * scale ∧
                      size.height.toNat = 32 * scale) ∧
                (ending = .panicked ↔ 67108864 ≤ scale) := by
  refine ⟨?_, ?_⟩
  · intro scale
    constructor
    · rintro ⟨arguments, options, accepted, rfl⟩
      exact (reads.counts arguments options accepted).2
    · intro nonzero
      exact ⟨_, reads.accepts scale nonzero⟩
  · intro arguments options accepted random program fits ending scale
    have paced : options.config.speed ≠ 0 :=
      (reads.counts arguments options accepted).1
    have opened : ending = Launch.openWindow options.scale :=
      Launch.ending_run_of_fits paced fits options.scale random _
    rw [opened]
    exact
      ⟨fun _ =>
        Launch.openWindow_eq_failed_iff.trans WindowSize.ofScale?_eq_some_iff,
        Launch.openWindow_eq_panicked_iff.trans
          WindowSize.ofScale?_eq_none_iff⟩

/-- The scale `10` opens a window, and the scale `67108864` panics. -/
theorem launch_opens_window_at_ten :
    ∃ small large,
      Options.parse ["--scale", "10", "r.ch8"] = .ok small ∧
        Options.parse ["--scale", "67108864", "r.ch8"] = .ok large ∧
        ∀ random,
          (small.launch random (some #[0x12, 0x00])).ending =
              .failed (.window ⟨640, 320⟩) ∧
            (large.launch random (some #[0x12, 0x00])).ending =
              .panicked := by
  have law := window_is_scaled_screen_or_launch_panics Options.readsCounts_parse
  have accepted :
      Options.parse ["--scale", "10", "r.ch8"] =
          .ok (Options.ofScale "r.ch8" 10) ∧
        Options.parse ["--scale", "67108864", "r.ch8"] =
          .ok (Options.ofScale "r.ch8" 67108864) := by
    decide +kernel
  refine ⟨_, _, accepted.1, accepted.2, ?_⟩
  intro random
  have small := law.2 _ _ accepted.1 random #[0x12, 0x00] (by decide)
  have large := law.2 _ _ accepted.2 random #[0x12, 0x00] (by decide)
  exact ⟨(small.1 ⟨640, 320⟩).mpr (by decide), large.2.mpr (by decide)⟩

/--
The scale `67108864` is accepted, but its launch panics: no window is as wide
as the scaled screen.
-/
theorem accepted_scale_panics :
    ∃ options,
      Options.parse ["--scale", "67108864", "r.ch8"] = .ok options ∧
        options.scale.toNat = 67108864 ∧
        (∀ random,
          (options.launch random (some #[0x12, 0x00])).ending = .panicked) ∧
        ∀ size : WindowSize, size.width.toNat ≠ 64 * options.scale.toNat := by
  refine ⟨Options.ofScale "r.ch8" 67108864, ?_, rfl, fun _ => rfl, ?_⟩
  · decide +kernel
  · intro size
    exact Nat.ne_of_lt size.width.toNat_lt

end ChipEight
