import ChipEight.Screen.Palette

/-!
# Usage errors

Why a command line is refused, including the request for help, which also
ends the program before it starts.
-/

namespace ChipEight

/-- Why the text of a value is refused. -/
inductive ValueError
  /-- Not a whole number from one to the largest of thirty-two bits. -/
  | number (text : String)
  | scheme (cause : SchemeError)
  | color (cause : ColorError)
  deriving DecidableEq

/-- Why a command line is refused. -/
inductive UsageError
  | help
  | unknownArgument (text : String)
  /-- An option without its value, or an empty program path. -/
  | missingValue
  | unneededValue (text : String)
  | badValue (cause : ValueError)
  | repeated (name : String)
  | missingProgram
  deriving DecidableEq

/-- The wording of a refused value. -/
def ValueError.message : ValueError → String
  | number text => "'" ++ text ++ "' is not a number from 1 to 4294967295"
  | scheme cause => cause.message
  | color cause => cause.message

/-- The wording of a usage error. -/
def UsageError.message : UsageError → String
  | help => "help was asked for"
  | unknownArgument text => "unexpected argument '" ++ text ++ "'"
  | missingValue => "a value is required"
  | unneededValue text => "no value is taken by '" ++ text ++ "'"
  | badValue cause => "invalid value: " ++ cause.message
  | repeated name => "'" ++ name ++ "' cannot be used more than once"
  | missingProgram => "a program to run is required"

end ChipEight
