/-!
# A keyed stream of random words

ChaCha with twelve rounds, read as a function from positions to words: a generator is a key and a
position, and the word at a position is computed from the two alone.

* `Generator.ofSeed`: the generator of a 64-bit seed, at the start of its stream.
* `Generator.word`, `Generator.next`: the word at the position, and the step to the next.
-/

namespace StoryBlanks.Random

/-- Sixteen words, the state of a block. -/
abbrev Block := Vector UInt32 16

/-! ## Rounds -/

/-- The word turned left by `n` bits, for `n` from 1 to 31. -/
def rotateLeft (x n : UInt32) : UInt32 := (x <<< n) ||| (x >>> (32 - n))

/-- Add `b` to `a`, then mix `a` into `d` and turn `d`. -/
def mix (a b d : Fin 16) (turn : UInt32) (s : Block) : Block :=
  let s := s.set a (s[a] + s[b])
  s.set d (rotateLeft (s[d] ^^^ s[a]) turn)

/-- The quarter round on four words. -/
def quarterRound (a b c d : Fin 16) (s : Block) : Block :=
  mix c d b 7 (mix a b d 8 (mix c d b 12 (mix a b d 16 s)))

/-- A round on the columns and one on the diagonals. -/
def doubleRound (s : Block) : Block :=
  let s := quarterRound 0 4 8 12 s
  let s := quarterRound 1 5 9 13 s
  let s := quarterRound 2 6 10 14 s
  let s := quarterRound 3 7 11 15 s
  let s := quarterRound 0 5 10 15 s
  let s := quarterRound 1 6 11 12 s
  let s := quarterRound 2 7 8 13 s
  quarterRound 3 4 9 14 s

/-! ## Blocks -/

/-- Eight words. -/
abbrev Key := Vector UInt32 8

/-- The words that open every block. -/
def constants : Vector UInt32 4 := #v[0x61707865, 0x3320646e, 0x79622d32, 0x6b206574]

/-- The state from which a block is computed: the constants, the key, a counter of 64 bits, and two
words that stay zero. -/
def initial (key : Key) (counter : Nat) : Block :=
  constants ++ key ++ #v[UInt32.ofNat counter, UInt32.ofNat (counter / UInt32.size), 0, 0]

/-- Six double rounds, and the state they began with added to what they made. -/
def block (key : Key) (counter : Nat) : Block :=
  let start := initial key counter
  Vector.zipWith (· + ·) (Nat.repeat doubleRound 6 start) start

/-! ## Keys -/

/-- One step of the sequence that keys are taken from. -/
def advance (s : UInt64) : UInt64 := s * 6364136223846793005 + 11634580027462260723

/-- The word that an element of the sequence gives. -/
def keyWord (s : UInt64) : UInt32 :=
  let x := (((s >>> 18) ^^^ s) >>> 27).toUInt32
  let turn := (s >>> 59).toUInt32
  if turn = 0 then x else rotateLeft x (32 - turn)

/-- The key of a seed. -/
def keyOfSeed (seed : Nat) : Key :=
  Vector.ofFn fun i => keyWord (Nat.repeat advance (i.val + 1) (UInt64.ofNat seed))

/-! ## Generators -/

/-- A place in the stream of a key. -/
structure Generator where
  key : Key
  position : Nat := 0

namespace Generator

/-- The start of the stream of a seed. -/
def ofSeed (seed : Nat) : Generator := { key := keyOfSeed seed }

/-- The word at the position. -/
def word (g : Generator) : UInt32 :=
  (block g.key (g.position / 16)).get ⟨g.position % 16, Nat.mod_lt _ (by decide)⟩

/-- The next position. -/
def next (g : Generator) : Generator := { g with position := g.position + 1 }

/-- How many words the stream has before its counter begins again. -/
def period : Nat := UInt64.size * 16

end Generator

end StoryBlanks.Random
