import ChipEight.Random.Stream

/-!
# The seeded random stream

A 64-bit seed is stretched to a 256-bit key by a linear congruential
sequence with permuted output, and the key drives the ChaCha block function
with twelve rounds.  Word `i` of the stream is word `i % 16` of block
`i / 16`.
-/

namespace ChipEight.ChaCha

/-- The sixteen words on which the rounds work. -/
abbrev Block := Vector UInt32 16

/-- A word rotated towards its high end. -/
def rotateLeft (word amount : UInt32) : UInt32 :=
  (word <<< amount) ||| (word >>> (32 - amount))

/-- A word rotated towards its low end. -/
def rotateRight (word amount : UInt32) : UInt32 :=
  (word >>> amount) ||| (word <<< (32 - amount))

theorem place_lt (number : Nat) : number % 16 < 16 :=
  Nat.mod_lt number (by decide)

/-- The place of a word in a block, counted modulo sixteen. -/
def place (number : Nat) : Fin 16 :=
  ⟨number % 16, place_lt number⟩

/-- Mixes the words of a block at four places. -/
def quarterRound (block : Block) (first second third fourth : Nat) : Block :=
  let a := block[place first]
  let b := block[place second]
  let c := block[place third]
  let d := block[place fourth]
  let a := a + b
  let d := rotateLeft (d ^^^ a) 16
  let c := c + d
  let b := rotateLeft (b ^^^ c) 12
  let a := a + b
  let d := rotateLeft (d ^^^ a) 8
  let c := c + d
  let b := rotateLeft (b ^^^ c) 7
  (((block.set (place first) a).set (place second) b).set (place third) c).set
    (place fourth) d

/-- Mixes the four columns of a block and then its four diagonals. -/
def doubleRound (block : Block) : Block :=
  let block := quarterRound block 0 4 8 12
  let block := quarterRound block 1 5 9 13
  let block := quarterRound block 2 6 10 14
  let block := quarterRound block 3 7 11 15
  let block := quarterRound block 0 5 10 15
  let block := quarterRound block 1 6 11 12
  let block := quarterRound block 2 7 8 13
  quarterRound block 3 4 9 14

/-- Applies a number of double rounds. -/
def mix : Nat → Block → Block
  | 0, block => block
  | rounds + 1, block => mix rounds (doubleRound block)

/-- The words that open every block. -/
def constants : Vector UInt32 4 :=
  #v[0x61707865, 0x3320646E, 0x79622D32, 0x6B206574]

/-- The words that close a block: its number, low half first, and two zeros. -/
def blockNumber (number : UInt64) : Vector UInt32 4 :=
  #v[number.toUInt32, (number >>> 32).toUInt32, 0, 0]

/-- The block before mixing. -/
def initialBlock (key : Vector UInt32 8) (number : UInt64) : Block :=
  constants ++ key ++ blockNumber number

/-- The output words of one block. -/
def block (key : Vector UInt32 8) (number : UInt64) : Block :=
  let initial := initialBlock key number
  (mix 6 initial).zipWith (· + ·) initial

/-- The next state of the sequence that stretches a seed. -/
def stretch (state : UInt64) : UInt64 :=
  state * 6364136223846793005 + 11634580027462260723

/-- The key word drawn from one state of that sequence. -/
def keyWord (state : UInt64) : UInt32 :=
  rotateRight (((state >>> 18) ^^^ state) >>> 27).toUInt32 (state >>> 59).toUInt32

/-- The state of that sequence after a number of steps. -/
def stretched (seed : UInt64) : Nat → UInt64
  | 0 => seed
  | steps + 1 => stretch (stretched seed steps)

/-- The key of a seed. -/
def key (seed : UInt64) : Vector UInt32 8 :=
  Vector.ofFn fun place => keyWord (stretched seed (place.val + 1))

/-- The random stream of a seed. -/
def stream (seed : UInt64) : RandomStream :=
  let key := key seed
  { words := fun position =>
      (block key (UInt64.ofNat (position / 16)))[place position]
    position := 0 }

end ChipEight.ChaCha
