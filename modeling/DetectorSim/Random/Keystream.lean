/-!
The ChaCha keystream with twelve rounds: an endless sequence of words, sixteen in
each block, determined by a key of eight words. The block number fills two words
of the state, and the stream number is zero.
-/

namespace DetectorSim.Random

/-- The words of a block. -/
abbrev Block := Vector UInt32 16

/-- The words of a key. -/
abbrev Key := Vector UInt32 8

/-- Rotates a word to the left. -/
def rotateLeft (w : UInt32) (n : UInt32) : UInt32 :=
  (w <<< n) ||| (w >>> (32 - n))

/-- Mixes four words of a block. -/
def quarterRound (s : Block) (a b c d : Fin 16) : Block :=
  let s := s.set a (s[a] + s[b])
  let s := s.set d (rotateLeft (s[d] ^^^ s[a]) 16)
  let s := s.set c (s[c] + s[d])
  let s := s.set b (rotateLeft (s[b] ^^^ s[c]) 12)
  let s := s.set a (s[a] + s[b])
  let s := s.set d (rotateLeft (s[d] ^^^ s[a]) 8)
  let s := s.set c (s[c] + s[d])
  s.set b (rotateLeft (s[b] ^^^ s[c]) 7)

/-- One round down the columns and one along the diagonals. -/
def doubleRound (s : Block) : Block :=
  let s := quarterRound s 0 4 8 12
  let s := quarterRound s 1 5 9 13
  let s := quarterRound s 2 6 10 14
  let s := quarterRound s 3 7 11 15
  let s := quarterRound s 0 5 10 15
  let s := quarterRound s 1 6 11 12
  let s := quarterRound s 2 7 8 13
  quarterRound s 3 4 9 14

/-- The state of a block before mixing: constants, key, block number and stream number. -/
def initialBlock (key : Key) (number : UInt64) : Block :=
  #v[0x61707865, 0x3320646e, 0x79622d32, 0x6b206574,
    key[0], key[1], key[2], key[3], key[4], key[5], key[6], key[7],
    number.toUInt32, (number >>> 32).toUInt32, 0, 0]

/-- The words of a block: twelve rounds over the initial state, added to it. -/
def block (key : Key) (number : UInt64) : Block :=
  let start := initialBlock key number
  let mixed := (List.range 6).foldl (fun s _ => doubleRound s) start
  start.zipWith (· + ·) mixed

/-- Rotates a word to the right. -/
def rotateRight (w : UInt32) (n : UInt32) : UInt32 :=
  (w >>> n) ||| (w <<< (32 - n))

/-- Advances the generator from which keys are filled. -/
def nextKeyState (state : UInt64) : UInt64 :=
  state * 6364136223846793005 + 11634580027462260723

/-- The key word that a state of the generator yields. -/
def keyWord (state : UInt64) : UInt32 :=
  rotateRight (((state >>> 18) ^^^ state) >>> 27).toUInt32 (state >>> 59).toUInt32

/-- The state of the generator after a number of steps. -/
def keyState (seed : UInt64) : Nat → UInt64
  | 0 => seed
  | n + 1 => nextKeyState (keyState seed n)

/-- The key that a seed stands for. -/
def keyOfSeed (seed : UInt64) : Key :=
  Vector.ofFn fun i => keyWord (keyState seed (i + 1))

/-- The seed of an event: the run seed moved along by the index and mixed. -/
def eventSeed (seed index : UInt64) : UInt64 :=
  let z := seed + (index + 1) * 0x9e3779b97f4a7c15
  let z := (z ^^^ (z >>> 30)) * 0xbf58476d1ce4e5b9
  let z := (z ^^^ (z >>> 27)) * 0x94d049bb133111eb
  z ^^^ (z >>> 31)

end DetectorSim.Random
