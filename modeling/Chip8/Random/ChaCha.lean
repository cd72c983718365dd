import Chip8.Nibble

/-!
Random bytes by the ChaCha block function with twelve rounds: a key of eight words and a counter
give sixteen words of keystream, and the bytes are the low bytes of these words. A seed is spread
over a key.
-/

namespace Chip8.ChaCha

abbrev Key := Vector UInt32 8

namespace Key

/-- All words zero. -/
def zero : Key := Vector.replicate 8 0

def advanceSeed (state : UInt64) : UInt64 := state * 6364136223846793005 + 11634580027462260723

/-- The key word that a state of the seed sequence gives. -/
def seedWord (state : UInt64) : UInt32 :=
  let x := (((state >>> 18) ^^^ state) >>> 27).toUInt32
  let n := (state >>> 59).toUInt32
  (x >>> n) ||| (x <<< (32 - n))

/-- The state of the seed sequence after a number of steps. -/
def seedState (seed : UInt64) : Nat → UInt64
  | 0 => seed
  | n + 1 => advanceSeed (seedState seed n)

def ofSeed (seed : UInt64) : Key := Vector.ofFn fun i => seedWord (seedState seed (i + 1))

end Key

abbrev Block := Bank UInt32

/-- Turns the bits of a word to the left. -/
def rotateLeft (w : UInt32) (n : UInt32) : UInt32 := (w <<< n) ||| (w >>> (32 - n))

/-- One step of a quarter round: `a += b`, then `d ^= a`, then `d` turns by `n`. -/
def mix (s : Block) (a b d : Nat) (n : UInt32) : Block :=
  let s := s.set (.ofNat a) (s.nth a + s.nth b)
  s.set (.ofNat d) (rotateLeft (s.nth d ^^^ s.nth a) n)

def quarterRound (s : Block) (a b c d : Nat) : Block :=
  let s := mix s a b d 16
  let s := mix s c d b 12
  let s := mix s a b d 8
  mix s c d b 7

/-- A round over the columns, then one over the diagonals. -/
def doubleRound (s : Block) : Block :=
  let s := quarterRound s 0 4 8 12
  let s := quarterRound s 1 5 9 13
  let s := quarterRound s 2 6 10 14
  let s := quarterRound s 3 7 11 15
  let s := quarterRound s 0 5 10 15
  let s := quarterRound s 1 6 11 12
  let s := quarterRound s 2 7 8 13
  quarterRound s 3 4 9 14

/-- The constants, the key, the counter and a stream number of zero. -/
def initial (key : Key) (counter : UInt64) : Block :=
  #v[0x61707865, 0x3320646E, 0x79622D32, 0x6B206574,
    key[0], key[1], key[2], key[3], key[4], key[5], key[6], key[7],
    counter.toUInt32, (counter >>> 32).toUInt32, 0, 0]

def rounds : Nat → Block → Block
  | 0, s => s
  | n + 1, s => rounds n (doubleRound s)

def block (key : Key) (counter : UInt64) : Block :=
  (rounds 6 (initial key counter)).zipWith (· + ·) (initial key counter)

/-- The bytes that a key gives. -/
def stream (key : Key) (n : Nat) : UInt8 := ((block key (UInt64.ofNat (n / 16))).nth n).toUInt8

end Chip8.ChaCha
