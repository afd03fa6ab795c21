/-!
# The square wave

A tone as a sequence of samples.  The phase runs from zero to one in every
period; the first half of a period is high and the second low.
-/

namespace ChipEight

/-- A tone: how far the phase moves per sample, and where it is. -/
structure SquareWave where
  increment : Float32
  phase : Float32

/-- The part of a number after the point, with the number's sign. -/
def fraction (value : Float32) : Float32 :=
  let magnitude := value.abs - value.abs.floor
  if value.toBits >>> 31 == 1 then -magnitude else magnitude

namespace SquareWave

/-- The frequency of the tone in hertz. -/
def toneHertz : Float32 := 440

/-- The tone on a device that plays `rate` samples a second. -/
def ofRate (rate : Int32) (phase : Float32) : SquareWave where
  increment := toneHertz / rate.toFloat32
  phase := phase

/-- Whether the next sample is high, and the tone after it. -/
def next (wave : SquareWave) : Bool × SquareWave :=
  (decide (wave.phase < 0.5),
    { wave with phase := fraction (wave.phase + wave.increment) })

/-- The next samples, collected behind `earlier` in reverse, and the tone after them. -/
def fillFrom (earlier : List Bool) : Nat → SquareWave → List Bool × SquareWave
  | 0, wave => (earlier.reverse, wave)
  | count + 1, wave => fillFrom (wave.next.1 :: earlier) count wave.next.2

/-- The next `count` samples, and the tone after them. -/
def fill (wave : SquareWave) (count : Nat) : List Bool × SquareWave :=
  fillFrom [] count wave

end SquareWave

end ChipEight
