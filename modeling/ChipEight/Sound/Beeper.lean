import ChipEight.Journal

/-!
# The beeper

The beeper switches the host's audio device when the tone changes and leaves
it alone while the tone stays as it is.  Without a device it only remembers
the tone.
-/

namespace ChipEight

/-- What an audio device is doing. -/
inductive DeviceStatus
  | paused
  | playing
  deriving DecidableEq

/-- What an audio device can be told. -/
inductive DeviceCommand
  | resume
  | pause
  deriving DecidableEq

/-- The status that a command leads to. -/
def DeviceCommand.status : DeviceCommand → DeviceStatus
  | resume => .playing
  | pause => .paused

/-- The tone last set, and the device that plays it if there is one. -/
structure Beeper where
  device : Option DeviceStatus
  playing : Bool
  deriving DecidableEq

namespace Beeper

/-- A beeper on the device that the host offers; a new device is paused. -/
def create (available : Bool) : Beeper where
  device := if available then some .paused else none
  playing := false

/-- What creating a beeper reports. -/
def creationEvents (available : Bool) : List Event :=
  if available then [] else [.silent]

/-- What setting the tone tells the device, if it tells it anything. -/
def command? (beeper : Beeper) (on : Bool) : Option DeviceCommand :=
  if on = beeper.playing || beeper.device.isNone then none
  else some (if on then .resume else .pause)

/-- The beeper after the tone was set. -/
def setTone (beeper : Beeper) (on : Bool) : Beeper where
  device := ((beeper.command? on).map DeviceCommand.status).or beeper.device
  playing := on

end Beeper

end ChipEight
