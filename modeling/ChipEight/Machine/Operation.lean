import ChipEight.Machine.Cycle

/-!
# Operations

Everything that a host can do to a machine, as one type.  `perform` says
what an operation answers, which machine it leaves and what it reports; an
operation that fails leaves the machine as it was.  `after` is the machine
after any sequence of operations.
-/

namespace ChipEight

/-- One thing that a host can do to a machine. -/
inductive Operation
  | cycle
  | countDown
  | load (program : Array UInt8)
  /-- Loads a file, given its contents if it could be read. -/
  | loadFile (path : String) (contents : Option (Array UInt8))
  | press (code : UInt8)
  | release (code : UInt8)
  | releaseAll
  | reset
  deriving DecidableEq

/-- Why an operation fails. -/
inductive Failure
  | fault (cause : Fault)
  | load (cause : LoadError)
  deriving DecidableEq

/-- What an operation answers. -/
inductive Answer
  | done
  | status (status : Status)
  deriving DecidableEq

/-- The wording of a failure. -/
def Failure.message : Failure → String
  | fault cause => cause.message
  | load cause => cause.message

namespace Machine

/-- Counts both timers down once. -/
def countDown (machine : Machine) : Machine :=
  { machine with state := machine.state.countDown }

/-- Starts a new session; held keys and the random stream stay. -/
def reset (machine : Machine) : Machine :=
  { machine with state := .initial }

/-- Places a program in memory, or refuses one that is too large. -/
def load (machine : Machine) (program : Array UInt8) : Outcome LoadError Unit :=
  match machine.state.load program with
  | .ok state => ⟨.ok (), { machine with state := state }, [.loaded program.size]⟩
  | .error refusal => ⟨.error refusal, machine, []⟩

/-- Places the contents of a file in memory, if the file could be read. -/
def loadFile
    (machine : Machine) (path : String) (contents : Option (Array UInt8)) :
    Outcome LoadError Unit :=
  match contents with
  | some program => machine.load program
  | none => ⟨.error (.unreadable path), machine, []⟩

/-- Records that a key went down. -/
def press (machine : Machine) (code : UInt8) : Machine :=
  { machine with keypad := machine.keypad.press code }

/-- Records that a key came up. -/
def release (machine : Machine) (code : UInt8) : Machine :=
  { machine with keypad := machine.keypad.release code }

/-- Records that every key came up. -/
def releaseAll (machine : Machine) : Machine :=
  { machine with keypad := machine.keypad.releaseAll }

/-- What an operation does to a machine. -/
def perform (machine : Machine) : Operation → Outcome Failure Answer
  | .cycle => machine.cycle.map .fault .status
  | .countDown => ⟨.ok .done, machine.countDown, []⟩
  | .load program => (machine.load program).map .load fun () => .done
  | .loadFile path contents => (machine.loadFile path contents).map .load fun () => .done
  | .press code => ⟨.ok .done, machine.press code, []⟩
  | .release code => ⟨.ok .done, machine.release code, []⟩
  | .releaseAll => ⟨.ok .done, machine.releaseAll, []⟩
  | .reset => ⟨.ok .done, machine.reset, [.resetting]⟩

/-- The machine after a sequence of operations, failed ones included. -/
def after (machine : Machine) (operations : List Operation) : Machine :=
  operations.foldl (fun machine operation => (machine.perform operation).machine) machine

end Machine

end ChipEight
