import ChipEight.CommandLine.Arguments
import ChipEight.CommandLine.Options
import ChipEight.CommandLine.Usage

/-!
# Reading a command line

Arguments are read from left to right.  An option that takes its value from
the next argument, and the program's path, stay pending until the next
argument that is understood, or until the end; only then are they checked.
An argument that is not understood is therefore reported before anything
wrong with the pending one.
-/

namespace ChipEight

/-- What the arguments read so far have chosen. -/
structure Draft where
  program : Option String
  speed : Option UInt32
  scale : Option UInt32
  scheme : Option Scheme
  foreground : Option Rgb
  background : Option Rgb
  wrapRows : Bool
  verbosity : UInt8
  deriving DecidableEq

/-- What has been read but not checked yet. -/
inductive Pending
  | nothing
  /-- An option with its value, once that has been read. -/
  | option (name : ValueOption) (value : Option String)
  | program (path : String)
  deriving DecidableEq

/-- A command line between two arguments. -/
structure Reading where
  draft : Draft
  pending : Pending
  /-- Whether a program's path has been read. -/
  programSeen : Bool
  /-- Whether the terminator has been read. -/
  trailing : Bool
  deriving DecidableEq

/-- The long name of an option that takes a value. -/
def ValueOption.name : ValueOption → String
  | speed => "speed"
  | scale => "scale"
  | scheme => "color-scheme"
  | foreground => "foreground"
  | background => "background"

namespace Draft

/-- Nothing chosen. -/
def empty : Draft :=
  ⟨none, none, none, none, none, none, false, 0⟩

/-- Whether an option has been given. -/
def has (draft : Draft) : ValueOption → Bool
  | .speed => draft.speed.isSome
  | .scale => draft.scale.isSome
  | .scheme => draft.scheme.isSome
  | .foreground => draft.foreground.isSome
  | .background => draft.background.isSome

/-- A positive number of thirty-two bits, with an optional plus sign. -/
def readCount (text : String) : Except ValueError UInt32 :=
  match Numeral.read 4294967295 text.toList with
  | .ok value => if value = 0 then .error (.number text) else .ok (UInt32.ofNat value)
  | .error _ => .error (.number text)

/-- Sets an option from the text of its value. -/
def set (draft : Draft) (name : ValueOption) (text : String) : Except ValueError Draft :=
  match name with
  | .speed => (readCount text).map fun speed => { draft with speed := some speed }
  | .scale => (readCount text).map fun scale => { draft with scale := some scale }
  | .scheme =>
    ((Scheme.parse text).mapError .scheme).map fun scheme =>
      { draft with scheme := some scheme }
  | .foreground =>
    ((Rgb.parse text).mapError .color).map fun color =>
      { draft with foreground := some color }
  | .background =>
    ((Rgb.parse text).mapError .color).map fun color =>
      { draft with background := some color }

/-- Sets an option that must not have been given before. -/
def setOnce (draft : Draft) (name : ValueOption) (text : String) :
    Except UsageError Draft :=
  if draft.has name then .error (.repeated name.name)
  else (draft.set name text).mapError .badValue

/-- Applies a flag.  Only the verbosity may be raised repeatedly; it stops at 255. -/
def raise (draft : Draft) : Flag → Except UsageError Draft
  | .help => .error .help
  | .verbose =>
    .ok { draft with
      verbosity := if draft.verbosity = 255 then 255 else draft.verbosity + 1 }
  | .wrapRows =>
    if draft.wrapRows then .error (.repeated "wrap-y")
    else .ok { draft with wrapRows := true }

/-- The options of a finished command line. -/
def finish (draft : Draft) : Except UsageError Options :=
  match draft.program with
  | none => .error .missingProgram
  | some program =>
    .ok {
      program
      speed := draft.speed.getD Config.standard.speed
      wrapRows := draft.wrapRows
      scheme := draft.scheme.getD .blackWhite
      foreground := draft.foreground
      background := draft.background
      scale := draft.scale.getD standardScale
      verbosity := draft.verbosity }

end Draft

namespace Reading

/-- Nothing read. -/
def start : Reading :=
  ⟨.empty, .nothing, false, false⟩

/-- Checks what is pending and adds it to what was chosen. -/
def resolve (reading : Reading) : Except UsageError Draft :=
  match reading.pending with
  | .nothing => .ok reading.draft
  | .option _ none => .error .missingValue
  | .option name (some text) => reading.draft.setOnce name text
  | .program path =>
    if path.isEmpty then .error .missingValue
    else .ok { reading.draft with program := some path }

/-- Checks what is pending and leaves something else pending. -/
def await (reading : Reading) (pending : Pending) : Except UsageError Reading :=
  reading.resolve.map fun draft => { reading with draft, pending }

/-- Checks what is pending and then applies a flag. -/
def takeFlag (reading : Reading) (flag : Flag) : Except UsageError Reading := do
  let draft ← reading.resolve
  let draft ← draft.raise flag
  return { reading with draft, pending := .nothing }

/-- Checks what is pending and then sets an option. -/
def takeOption (reading : Reading) (name : ValueOption) (value : String) :
    Except UsageError Reading := do
  let draft ← reading.resolve
  let draft ← draft.setOnce name value
  return { reading with draft, pending := .nothing }

/-- Reads a long option. -/
def takeLong (reading : Reading) (name : String) (value : Option String) :
    Except UsageError Reading :=
  match OptionName.ofLong? name, value with
  | none, _ => .error (.unknownArgument ("--" ++ name))
  | some (.flag _), some _ => .error (.unneededValue ("--" ++ name))
  | some (.flag flag), none => reading.takeFlag flag
  | some (.value option), some text => reading.takeOption option text
  | some (.value option), none => reading.await (.option option none)

/-- Reads one letter of a group of short options. -/
def takeLetter (reading : Reading) (letter : Char) : Except UsageError Reading :=
  match Flag.ofShort? letter with
  | none => .error (.unknownArgument (String.ofList ['-', letter]))
  | some flag => reading.takeFlag flag

/-- Reads an argument that stands for itself. -/
def takePlain (reading : Reading) (text : String) : Except UsageError Reading :=
  if reading.programSeen then .error (.unknownArgument text)
  else
    (reading.await (.program text)).map fun reading =>
      { reading with programSeen := true }

/-- Reads one argument. -/
def take (reading : Reading) (argument : String) : Except UsageError Reading :=
  if reading.trailing then reading.takePlain argument
  else
    match ArgumentShape.ofText argument, reading.pending with
    | .terminator, _ => .ok { reading with trailing := true }
    | .long name value, _ => reading.takeLong name value
    | .short letters, _ => letters.foldlM takeLetter reading
    | .plain text, .option name none =>
      .ok { reading with pending := .option name (some text) }
    | .plain text, _ => reading.takePlain text

end Reading

/-- Reads the arguments after the program's own name. -/
def Options.parse (arguments : List String) : Except UsageError Options := do
  let reading ← arguments.foldlM Reading.take .start
  let draft ← reading.resolve
  draft.finish

end ChipEight
