/-!
# Byte streams

An endless sequence of bytes with a position.  Drawing takes the bytes from the position on and
moves it, so that successive draws are consecutive, disjoint chunks of the one sequence.
-/
namespace DiskPlan

/-- An endless sequence of bytes and how many of them have been drawn. -/
structure ByteStream where
  /-- The byte at each position. -/
  byte : Nat → UInt8
  /-- The position of the next byte. -/
  position : Nat := 0

namespace ByteStream

/-- The bytes `first`, `first + 1`, … modulo 256. -/
def counting (first : Nat) : ByteStream := { byte := fun i => UInt8.ofNat (first + i) }

/-- The given bytes over and over; zeros when none are given. -/
def cycle (bytes : List UInt8) : ByteStream :=
  { byte := fun i => bytes.getD (i % bytes.length) 0 }

/-- The `n` bytes at position `start`. -/
def chunk (s : ByteStream) (start n : Nat) : List UInt8 :=
  (List.range' start n).map s.byte

/-- Takes the next `n` bytes. -/
def draw (n : Nat) : StateM ByteStream (List UInt8) := fun s =>
  (s.chunk s.position n, { s with position := s.position + n })

@[simp] theorem length_chunk (s : ByteStream) (start n : Nat) : (s.chunk start n).length = n := by
  simp [chunk]

end ByteStream
end DiskPlan
