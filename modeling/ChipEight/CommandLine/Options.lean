import ChipEight.Journal
import ChipEight.Machine.Cycle
import ChipEight.Screen.Palette

/-!
# Options

What a command line chooses, with the choices that it leaves out filled in.
-/

namespace ChipEight

/-- The choices of a command line. -/
structure Options where
  program : String
  speed : UInt32
  wrapRows : Bool
  scheme : Scheme
  foreground : Option Rgb
  background : Option Rgb
  scale : UInt32
  verbosity : UInt8
  deriving DecidableEq

/-- The number of window pixels per cell when none is chosen. -/
def standardScale : UInt32 := 10

/-- The least important level that is shown at a verbosity. -/
def shownLevel (verbosity : UInt8) : Level :=
  if verbosity = 0 then .warn
  else if verbosity = 1 then .info
  else if verbosity = 2 then .debug
  else .trace

namespace Options

/-- The least important level that these options show. -/
def level (options : Options) : Level :=
  shownLevel options.verbosity

/-- Whether these options show an event. -/
def shows (options : Options) (event : Event) : Bool :=
  decide (event.level.rank ≤ options.level.rank)

/-- The machine's settings. -/
def config (options : Options) : Config where
  wrapRows := options.wrapRows
  speed := options.speed

/-- The colors of the screen. -/
def palette (options : Options) : Palette :=
  options.scheme.palette.override options.foreground options.background

end Options

end ChipEight
