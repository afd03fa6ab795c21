import ChipEight.CommandLine.Options
import ChipEight.Screen.Window
import ChipEight.Session

/-!
# Launching a program

A launch sets up a paced session for a program file and then opens the
window.  The speed is checked before the program is read, and the program
before the window is opened.  There is no window system here, so a launch
with nothing else wrong ends at the window.  A window too large for its size
to be computed is never asked for: that launch panics.
-/

namespace ChipEight

/-- Why a program does not come to run. -/
inductive LaunchError
  | pace (cause : PaceError)
  | program (path : String) (cause : LoadError)
  | window (size : WindowSize)
  deriving DecidableEq

/-- The causes of a failed launch, the outermost first. -/
def LaunchError.chain : LaunchError → List String
  | pace cause => [cause.message]
  | program path cause => ["unable to start " ++ path, cause.message]
  | window _ => ["unable to open window"]

/-- How a launch ends. -/
inductive LaunchEnd
  | failed (cause : LaunchError)
  /-- A side of the window overflowed while it was computed. -/
  | panicked
  deriving DecidableEq

namespace LaunchEnd

/-- The exit code of a launch that ends so. -/
def exitCode : LaunchEnd → UInt32
  | failed _ => 1
  | panicked => 101

/-- What is printed when a launch ends so. -/
def lines : LaunchEnd → List String
  | failed cause => cause.chain.map ("Error: " ++ ·)
  | panicked => ["attempt to multiply with overflow"]

end LaunchEnd

/-- What came of setting up a session, and what was reported on the way. -/
structure Preparation where
  result : Except LaunchError Session
  events : List Event

/-- What a launch reported, and how it ended. -/
structure Launch where
  events : List Event
  ending : LaunchEnd

namespace Launch

/-- Sets up a paced session with a program in memory. -/
def prepare
    (config : Config) (random : RandomStream) (path : String)
    (contents : Option (Array UInt8)) : Preparation :=
  match Pacer.ofSpeed config.speed with
  | .error cause => ⟨.error (.pace cause), []⟩
  | .ok pacer =>
    let loading := (Machine.create config random).loadFile path contents
    match loading.result with
    | .error cause => ⟨.error (.program path cause), loading.events⟩
    | .ok () =>
      ⟨.ok ⟨loading.machine, some pacer⟩, loading.events ++ [.launched path]⟩

/-- Asks for the window of a scale, which no host here opens. -/
def openWindow (scale : UInt32) : LaunchEnd :=
  match WindowSize.ofScale? scale with
  | some size => .failed (.window size)
  | none => .panicked

/-- Sets up a session for a program file and opens its window. -/
def run
    (config : Config) (scale : UInt32) (random : RandomStream)
    (path : String) (contents : Option (Array UInt8)) : Launch :=
  let preparation := prepare config random path contents
  match preparation.result with
  | .error cause => ⟨preparation.events, .failed cause⟩
  | .ok _ => ⟨preparation.events, openWindow scale⟩

end Launch

/-- Launches the program of these options, whose file has these contents. -/
def Options.launch
    (options : Options) (random : RandomStream)
    (contents : Option (Array UInt8)) : Launch :=
  .run options.config options.scale random options.program contents

end ChipEight
