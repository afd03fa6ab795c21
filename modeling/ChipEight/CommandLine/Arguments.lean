import ChipEight.Text.Numeral

/-!
# Arguments

The shapes that one argument of a command line can have, and the named
options.  An argument that starts with a dash is read as options, except a
dash alone; two dashes alone end the options.
-/

namespace ChipEight

/-- The options that take a value. -/
inductive ValueOption
  | speed
  | scale
  | scheme
  | foreground
  | background
  deriving DecidableEq

/-- The options that take none. -/
inductive Flag
  | wrapRows
  | verbose
  | help
  deriving DecidableEq

/-- An option by its long name. -/
inductive OptionName
  | value (name : ValueOption)
  | flag (name : Flag)
  deriving DecidableEq

/-- What one argument is, before it is known what it means. -/
inductive ArgumentShape
  /-- Two dashes alone. -/
  | terminator
  /-- A long option, with the text after its equals sign if it has one. -/
  | long (name : String) (value : Option String)
  /-- Short options run together behind one dash. -/
  | short (letters : List Char)
  | plain (text : String)
  deriving DecidableEq

/-- Every option with its long name. -/
def optionNames : List (String × OptionName) := [
  ("speed", .value .speed),
  ("scale", .value .scale),
  ("color-scheme", .value .scheme),
  ("foreground", .value .foreground),
  ("background", .value .background),
  ("wrap-y", .flag .wrapRows),
  ("verbose", .flag .verbose),
  ("help", .flag .help)]

/-- The option with a long name. -/
def OptionName.ofLong? (name : String) : Option OptionName :=
  optionNames.lookup name

/-- The flag with a short name. -/
def Flag.ofShort? (letter : Char) : Option Flag :=
  if letter = 'v' then some .verbose else if letter = 'h' then some .help else none

/-- A long option cut at its first equals sign. -/
def ArgumentShape.ofLong (text : List Char) : ArgumentShape :=
  let name := String.ofList (text.takeWhile (· != '='))
  match text.dropWhile (· != '=') with
  | [] => .long name none
  | _ :: value => .long name (some (String.ofList value))

/-- The shape of an argument. -/
def ArgumentShape.ofText (text : String) : ArgumentShape :=
  match text.toList with
  | ['-', '-'] => .terminator
  | '-' :: '-' :: name => .ofLong name
  | '-' :: letter :: letters => .short (letter :: letters)
  | _ => .plain text

end ChipEight
