import ChipEight.Pacing.Pacer

/-!
# Sessions

A session is a machine together with the pacer that drives it, if one was
set up.  An `Action` is one thing that a host can do to a session, and `act`
says what it does: its reply or setback, the session after it, what it
asked of the screen and the speaker, and what it reported.
-/

namespace ChipEight

/-- One thing that a host can do to a session. -/
inductive Action
  /-- Operates the machine directly. -/
  | operate (operation : Operation)
  /-- Replaces the pacer by a new one of the given speed. -/
  | pace (speed : UInt32)
  | tick
  | poll (now : Instant)
  deriving DecidableEq

/-- What a successful action replies. -/
inductive Reply
  | answer (answer : Answer)
  /-- Whether a poll ran a tick. -/
  | fired (ticked : Bool)
  deriving DecidableEq

/-- Why an action fails. -/
inductive Setback
  | failure (cause : Failure)
  | pace (cause : PaceError)
  /-- A tick was wanted, but no pacer is set up. -/
  | unpaced
  deriving DecidableEq

/-- The wording of a setback. -/
def Setback.message : Setback → String
  | failure cause => cause.message
  | pace cause => cause.message
  | unpaced => "no pacer is set up"

/-- A machine and its pacer. -/
structure Session where
  machine : Machine
  pacer : Option Pacer

/-- What an action did. -/
structure Response where
  result : Except Setback Reply
  session : Session
  requests : List Request
  events : List Event

namespace Session

/-- A session on a new machine, not paced yet. -/
def create (config : Config) (random : RandomStream) : Session :=
  ⟨.create config random, none⟩

/-- The response to an operation on the machine. -/
def ofOutcome (session : Session) (outcome : Outcome Failure Answer) : Response where
  result := (outcome.result.map .answer).mapError .failure
  session := { session with machine := outcome.machine }
  requests := []
  events := outcome.events

/-- The response to a tick. -/
def ofTick {answer : Type} (reply : answer → Reply) (tick : Tick answer) : Response where
  result := (tick.result.map reply).mapError fun fault => .failure (.fault fault)
  session := ⟨tick.machine, some tick.pacer⟩
  requests := tick.requests
  events := tick.events

/-- The response to an action that is refused and changes nothing. -/
def refuse (session : Session) (setback : Setback) : Response :=
  ⟨.error setback, session, [], []⟩

/-- What an action does to a session. -/
def act (session : Session) : Action → Response
  | .operate operation => session.ofOutcome (session.machine.perform operation)
  | .pace speed =>
    match Pacer.ofSpeed speed with
    | .ok pacer => ⟨.ok (.answer .done), { session with pacer := some pacer }, [], []⟩
    | .error refusal => session.refuse (.pace refusal)
  | .tick =>
    match session.pacer with
    | some pacer => ofTick (fun () => .answer .done) (pacer.tick session.machine)
    | none => session.refuse .unpaced
  | .poll now =>
    match session.pacer with
    | some pacer => ofTick .fired (pacer.poll session.machine now)
    | none => session.refuse .unpaced

/-- The session after a sequence of actions, failed ones included. -/
def after (session : Session) (actions : List Action) : Session :=
  actions.foldl (fun session action => (session.act action).session) session

end Session

end ChipEight
