import DiskPlan.ByteStream

/-!
# Identifiers

New identifiers are made of bytes drawn from a stream: a random UUID takes sixteen, of which only
the version and variant bits are fixed; the serial number of a FAT filesystem takes four.
-/
namespace DiskPlan.Identifier

/-- The two lower-case hexadecimal digits of a byte. -/
def hexByte (b : UInt8) : List Char :=
  [Nat.digitChar (b.toNat / 16), Nat.digitChar (b.toNat % 16)]

/-- Bytes in hexadecimal. -/
def hex (bytes : List UInt8) : List Char := bytes.flatMap hexByte

/-- The number of bytes of a UUID. -/
def uuidLength : Nat := 16

/-- The number of bytes of a FAT serial number. -/
def serialLength : Nat := 4

/-- Sets the version bits of a UUID to four, random, and the variant bits to the usual one. -/
def stamp (bytes : List UInt8) : List UInt8 :=
  (bytes.modify 6 fun b => (b &&& 0x0f) ||| 0x40).modify 8 fun b => (b &&& 0x3f) ||| 0x80

/-- The text of a UUID: its bytes in groups of four, two, two, two and six. -/
def uuidText (bytes : List UInt8) : String :=
  let group (start n : Nat) := hex ((bytes.drop start).take n)
  String.ofList (group 0 4 ++ '-' :: group 4 2 ++ '-' :: group 6 2 ++ '-' :: group 8 2
    ++ '-' :: group 10 6)

/-- Draws a random UUID. -/
def drawUuid : StateM ByteStream String := do
  return uuidText (stamp (← ByteStream.draw uuidLength))

/-- Draws a FAT serial number. -/
def drawSerial : StateM ByteStream String := do
  return String.ofList (hex (← ByteStream.draw serialLength))

end DiskPlan.Identifier
