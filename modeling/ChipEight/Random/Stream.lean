/-!
# Random streams

A random stream is an infinite sequence of words, fixed when the machine is
built, with the position of the next unused word.  Using a word moves the
position by one and changes nothing else, so the sequence and the position
together say which values were drawn.
-/

namespace ChipEight

/-- A fixed sequence of words and how many of them have been used. -/
structure RandomStream where
  words : Nat → UInt32
  position : Nat

namespace RandomStream

/-- The byte that the next draw yields: the low byte of the next word. -/
def byte (stream : RandomStream) : UInt8 :=
  (stream.words stream.position).toUInt8

/-- The stream after one word was used. -/
def next (stream : RandomStream) : RandomStream :=
  { stream with position := stream.position + 1 }

/-- The stream that repeats the given bytes, or zero if there are none. -/
def cycling (bytes : Array UInt8) : RandomStream where
  words position := ((bytes[position % bytes.size]?).getD 0).toUInt32
  position := 0

end RandomStream

end ChipEight
