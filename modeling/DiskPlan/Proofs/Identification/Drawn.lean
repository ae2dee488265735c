import DiskPlan.Identifier
import Mathlib.Tactic.Common
import Mathlib.Tactic.IntervalCases

/-!
# Drawn identifiers

What the text of an identifier tells of the bytes that it is drawn from.  A FAT serial number is its
four bytes in hexadecimal.  A random UUID is sixteen bytes in hexadecimal, its digits in groups
between hyphens, and these are the drawn bytes but for the six bits that make up the version and the
variant (`Kind.isMadeOf_text`).
-/
namespace DiskPlan

namespace ByteStream

/-- The stream with the next `n` bytes drawn. -/
def skip (s : ByteStream) (n : Nat) : ByteStream := { s with position := s.position + n }

@[simp] lemma skip_skip (s : ByteStream) (m n : Nat) : (s.skip m).skip n = s.skip (m + n) := by
  rw [skip, skip, skip, Nat.add_assoc]

end ByteStream

namespace Identifier

/-! ## Bytes in hexadecimal -/

/-- Digits show bytes in lower-case hexadecimal: there are two for each byte, that of its upper half
and that of its lower half. -/
inductive IsHexOf : List Char → List UInt8 → Prop where
  | nil : IsHexOf [] []
  | cons {b : UInt8} {bytes : List UInt8} {upper lower : Char} {digits : List Char}
    (hupper : "0123456789abcdef".toList[b.toNat / 16]? = some upper)
    (hlower : "0123456789abcdef".toList[b.toNat % 16]? = some lower)
    (h : IsHexOf digits bytes) : IsHexOf (upper :: lower :: digits) (b :: bytes)

lemma getElem?_hexDigits {n : Nat} (h : n < 16) :
    "0123456789abcdef".toList[n]? = some (Nat.digitChar n) := by
  have hall : ∀ n < 16, "0123456789abcdef".toList[n]? = some (Nat.digitChar n) := by decide
  exact hall n h

lemma isHexOf_hex (bytes : List UInt8) : IsHexOf (hex bytes) bytes := by
  induction bytes with
  | nil => exact .nil
  | cons b bytes ih =>
    have hb := b.toNat_lt
    exact .cons (getElem?_hexDigits (by omega)) (getElem?_hexDigits (by omega)) ih

lemma IsHexOf.length_eq {digits : List Char} {bytes : List UInt8} (h : IsHexOf digits bytes) :
    digits.length = 2 * bytes.length := by
  induction h with
  | nil => rfl
  | cons _ _ _ ih => rw [List.length_cons, List.length_cons, List.length_cons, ih, Nat.mul_succ]

lemma hex_append (bytes bytes' : List UInt8) : hex (bytes ++ bytes') = hex bytes ++ hex bytes' :=
  List.flatMap_append

/-! ## Digits in groups -/

/-- A text shows digits in groups of eight, four, four, four and twelve, with hyphens between the
groups. -/
def IsGroupingOf (text digits : List Char) : Prop :=
  ∃ groups : List (List Char), groups.map List.length = [8, 4, 4, 4, 12]
    ∧ digits = groups.flatten ∧ text = ['-'].intercalate groups

/-- Sixteen bytes are in the groups of a UUID one after the other. -/
lemma isGroupingOf_uuidText {bytes : List UInt8} (h : bytes.length = 16) :
    IsGroupingOf (uuidText bytes).toList (hex bytes) := by
  -- each group begins where the one before it ends, and the last one ends with the bytes
  have hsplit (start n : Nat) :
      (bytes.drop start).take n ++ bytes.drop (start + n) = bytes.drop start := by
    rw [← List.drop_drop, List.take_append_drop]
  have hlast : (bytes.drop 10).take 6 = bytes.drop 10 :=
    List.take_of_length_le (by rw [List.length_drop, h])
  have hgroups : (bytes.drop 0).take 4 ++ ((bytes.drop 4).take 2 ++ ((bytes.drop 6).take 2
      ++ ((bytes.drop 8).take 2 ++ (bytes.drop 10).take 6))) = bytes := by
    rw [hlast, hsplit 8 2, hsplit 6 2, hsplit 4 2, hsplit 0 4, List.drop_zero]
  refine ⟨[hex ((bytes.drop 0).take 4), hex ((bytes.drop 4).take 2), hex ((bytes.drop 6).take 2),
    hex ((bytes.drop 8).take 2), hex ((bytes.drop 10).take 6)], ?_, ?_, ?_⟩
  · simp only [List.map_cons, List.map_nil, (isHexOf_hex _).length_eq, List.length_take,
      List.length_drop, h]
    rfl
  · conv_lhs => rw [← hgroups]
    simp only [hex_append, List.flatten_cons, List.flatten_nil, List.append_nil]
  · simp only [uuidText, String.toList_ofList, List.intercalate_cons_cons,
      List.intercalate_singleton, List.append_assoc, List.cons_append, List.nil_append]

/-! ## Stamped bytes -/

/-- Bytes are stamped when they are the drawn ones but for the version, which is the upper half of
byte 6 and reads 0100, and the variant, which is the upper two bits of byte 8 and reads 10. -/
def IsStamped (stamped bytes : List UInt8) : Prop :=
  stamped.length = bytes.length ∧ ∀ i b, bytes[i]? = some b →
    ∃ b', stamped[i]? = some b' ∧ ∀ j < 8, b'.toNat.testBit j =
      if i = 6 ∧ 4 ≤ j then decide (j = 6)
      else if i = 8 ∧ 6 ≤ j then decide (j = 7)
      else b.toNat.testBit j

lemma testBit_version (b : UInt8) {j : Nat} (h : j < 8) :
    ((b &&& 0x0f) ||| 0x40).toNat.testBit j =
      if 4 ≤ j then decide (j = 6) else b.toNat.testBit j := by
  have hkept : (0x0f : UInt8).toNat.testBit j = decide (j < 4) := by interval_cases j <;> decide
  have hset : (0x40 : UInt8).toNat.testBit j = decide (j = 6) := by interval_cases j <;> decide
  rw [UInt8.toNat_or, UInt8.toNat_and, Nat.testBit_or, Nat.testBit_and, hkept, hset]
  split
  · next hge => simp [Nat.not_lt.mpr hge]
  · next hlt => simp [Nat.not_le.mp hlt, show j ≠ 6 by omega]

lemma testBit_variant (b : UInt8) {j : Nat} (h : j < 8) :
    ((b &&& 0x3f) ||| 0x80).toNat.testBit j =
      if 6 ≤ j then decide (j = 7) else b.toNat.testBit j := by
  have hkept : (0x3f : UInt8).toNat.testBit j = decide (j < 6) := by interval_cases j <;> decide
  have hset : (0x80 : UInt8).toNat.testBit j = decide (j = 7) := by interval_cases j <;> decide
  rw [UInt8.toNat_or, UInt8.toNat_and, Nat.testBit_or, Nat.testBit_and, hkept, hset]
  split
  · next hge => simp [Nat.not_lt.mpr hge]
  · next hlt => simp [Nat.not_le.mp hlt, show j ≠ 7 by omega]

lemma isStamped_stamp (bytes : List UInt8) : IsStamped (stamp bytes) bytes := by
  refine ⟨by rw [stamp, List.length_modify, List.length_modify], fun i b hb => ?_⟩
  rw [stamp, List.getElem?_modify, List.getElem?_modify, hb]
  refine ⟨_, rfl, fun j hj => ?_⟩
  by_cases hversion : i = 6
  · subst hversion
    simpa using testBit_version b hj
  · by_cases hvariant : i = 8
    · subst hvariant
      simpa using testBit_variant b hj
    · simp [hversion, hvariant, Ne.symm hversion, Ne.symm hvariant]

/-! ## Kinds of identifiers -/

/-- The kinds of identifiers that are drawn. -/
inductive Kind where
  /-- A random UUID. -/
  | uuid
  /-- The serial number of a FAT filesystem. -/
  | serial
  deriving Repr, DecidableEq

namespace Kind

/-- The number of bytes that an identifier is drawn from. -/
def length : Kind → Nat
  | .uuid => 16
  | .serial => 4

/-- The identifier that is made of drawn bytes. -/
def text : Kind → List UInt8 → String
  | .uuid, bytes => uuidText (stamp bytes)
  | .serial, bytes => String.ofList (hex bytes)

/-- Draws an identifier. -/
def draw : Kind → StateM ByteStream String
  | .uuid => drawUuid
  | .serial => drawSerial

lemma run_draw (kind : Kind) (s : ByteStream) :
    kind.draw.run s = (kind.text (s.chunk s.position kind.length), s.skip kind.length) := by
  cases kind with
  | uuid => rfl
  | serial => rfl

/-- Whether an identifier shows the drawn bytes in lower-case hexadecimal: a serial number all of
them as they are, a UUID in groups and stamped. -/
def IsMadeOf (bytes : List UInt8) : Kind → String → Prop
  | .serial, id => IsHexOf id.toList bytes
  | .uuid, id => ∃ stamped digits, IsStamped stamped bytes ∧ IsHexOf digits stamped
      ∧ IsGroupingOf id.toList digits

/-- **An identifier shows the bytes that it is drawn from.** -/
lemma isMadeOf_text (kind : Kind) {bytes : List UInt8} (h : bytes.length = kind.length) :
    kind.IsMadeOf bytes (kind.text bytes) := by
  cases kind with
  | uuid =>
    have hstamped := isStamped_stamp bytes
    exact ⟨stamp bytes, _, hstamped, isHexOf_hex _, isGroupingOf_uuidText (hstamped.1.trans h)⟩
  | serial =>
    rw [text, IsMadeOf, String.toList_ofList]
    exact isHexOf_hex bytes

end Kind
end Identifier
end DiskPlan
