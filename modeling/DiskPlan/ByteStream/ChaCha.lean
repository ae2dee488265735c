import DiskPlan.ByteStream

/-!
# The ChaCha stream of a seed

A 64-bit seed is stretched to a key of eight words by a linear congruential step with an output
permutation; the stream is the key stream of ChaCha with twelve rounds under that key, with a 64-bit
block counter from zero and a nonce of zero, each block's sixteen words in little-endian order.
-/
namespace DiskPlan.ByteStream

/-! ## The key of a seed -/

/-- One step of the seed's linear congruential sequence. -/
def seedStep (state : UInt64) : UInt64 := state * 6364136223846793005 + 11634580027462260723

/-- The word that a state of the sequence gives: its xor-folded high bits, rotated right by its top
five bits. -/
def seedWord (state : UInt64) : UInt32 :=
  let folded := (((state >>> 18) ^^^ state) >>> 27).toUInt32
  let turn := (state >>> 59).toUInt32
  (folded >>> turn) ||| (folded <<< ((32 - turn) % 32))

/-- The next `n` key words after a state. -/
def keyWords : Nat → UInt64 → List UInt32
  | 0, _ => []
  | n + 1, state => seedWord (seedStep state) :: keyWords n (seedStep state)

/-! ## The block function -/

/-- A word turned left by `n` bits. -/
def rotateLeft (w : UInt32) (n : UInt32) : UInt32 := (w <<< n) ||| (w >>> (32 - n))

/-- Mixes the words at four places of a block. -/
def quarterRound (b : Vector UInt32 16) (i j k l : Fin 16) : Vector UInt32 16 :=
  let a₁ := b[i] + b[j]
  let d₁ := rotateLeft (b[l] ^^^ a₁) 16
  let c₁ := b[k] + d₁
  let b₁ := rotateLeft (b[j] ^^^ c₁) 12
  let a₂ := a₁ + b₁
  let d₂ := rotateLeft (d₁ ^^^ a₂) 8
  let c₂ := c₁ + d₂
  let b₂ := rotateLeft (b₁ ^^^ c₂) 7
  (((b.set i a₂).set j b₂).set k c₂).set l d₂

/-- The places that the quarter rounds of a double round mix: the columns, then the diagonals. -/
def quarters : List (Fin 16 × Fin 16 × Fin 16 × Fin 16) :=
  [(0, 4, 8, 12), (1, 5, 9, 13), (2, 6, 10, 14), (3, 7, 11, 15),
    (0, 5, 10, 15), (1, 6, 11, 12), (2, 7, 8, 13), (3, 4, 9, 14)]

/-- Two rounds: every column, then every diagonal. -/
def doubleRound (b : Vector UInt32 16) : Vector UInt32 16 :=
  quarters.foldl (fun b q => quarterRound b q.1 q.2.1 q.2.2.1 q.2.2.2) b

/-- The block before its rounds: the constant words, the key, the block's number and the nonce. -/
def initialBlock (key : List UInt32) (number : Nat) : Vector UInt32 16 :=
  let words := [0x61707865, 0x3320646e, 0x79622d32, 0x6b206574] ++ key
    ++ [UInt32.ofNat number, UInt32.ofNat (number / 4294967296), 0, 0]
  Vector.ofFn fun i => words.getD i 0

/-- The words of a block of the key stream: twelve rounds, added to what they started from. -/
def block (key : List UInt32) (number : Nat) : Vector UInt32 16 :=
  let start := initialBlock key number
  let mixed := (List.range 6).foldl (fun b _ => doubleRound b) start
  Vector.ofFn fun i => start[i] + mixed[i]

/-- Byte `i` of a word, the lowest first. -/
def wordByte (w : UInt32) (i : Nat) : UInt8 := (w >>> UInt32.ofNat (8 * i)).toUInt8

/-- The stream of a seed. -/
def seeded (seed : UInt64) : ByteStream :=
  let key := keyWords 8 seed
  { byte := fun i =>
      wordByte ((block key (i / 64))[(⟨i % 64 / 4, by omega⟩ : Fin 16)]) (i % 4) }

end DiskPlan.ByteStream
