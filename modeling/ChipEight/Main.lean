import ChipEight.CommandLine.Parse
import ChipEight.Launch
import ChipEight.Random.ChaCha

/-!
# The command

Reads the command line and the program file, launches the program, and
prints what was reported and how the launch ended.
-/

namespace ChipEight

/-- How the command is used. -/
def helpText : String :=
  "Run a Chip-8 program in a window.\n\n"
    ++ "Arguments: [OPTIONS] ROM\n\n"
    ++ "  --speed N            instructions per tick\n"
    ++ "  --wrap-y             continue sprites at the top of the screen\n"
    ++ "  --color-scheme NAME  black-white, white-black, grays, gameboy or blue-white\n"
    ++ "  --foreground R,G,B   color of lit cells\n"
    ++ "  --background R,G,B   color of unlit cells\n"
    ++ "  --scale N            window pixels per cell\n"
    ++ "  -v, --verbose        report more; may be repeated\n"
    ++ "  -h, --help           show this text"

/-- The bytes of a file, if it can be read. -/
def readProgram? (path : String) : IO (Option (Array UInt8)) :=
  try
    let bytes ← IO.FS.readBinFile path
    return some bytes.data
  catch _ => return none

/-- A seed that the host draws. -/
def drawSeed : IO UInt64 := do
  let bytes ← IO.getRandomBytes 8
  return bytes.data.foldl (fun seed byte => seed * 256 + byte.toUInt64) 0

/-- Launches a program and prints how that went. -/
def runCommand (options : Options) : IO UInt32 := do
  let contents ← readProgram? options.program
  let random := ChaCha.stream (← drawSeed)
  let launch := options.launch random contents
  for event in launch.events do
    if options.shows event then IO.eprintln event.line
  for line in launch.ending.lines do
    IO.eprintln line
  return launch.ending.exitCode

/-- Does what the arguments ask for, and answers the exit code. -/
def runArguments (arguments : List String) : IO UInt32 := do
  match Options.parse arguments with
  | .ok options => runCommand options
  | .error .help =>
    IO.println helpText
    return 0
  | .error refusal =>
    IO.eprintln ("error: " ++ refusal.message)
    return 2

end ChipEight

/-- The command's entry. -/
def main (arguments : List String) : IO UInt32 :=
  ChipEight.runArguments arguments
