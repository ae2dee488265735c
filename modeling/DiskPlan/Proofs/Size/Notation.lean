import DiskPlan.Size.Notation
import Mathlib.Algebra.GroupWithZero.Nat
import Mathlib.Data.List.TakeDrop
import Mathlib.Data.List.TakeWhile

/-!
# The grammar of sizes

A text denotes a number of bytes when it consists of a decimal number and a unit, with white space
ahead of them, between them and behind them (`Size.Denotes`).  The units are the four decimal and
the four binary ones, and no unit at all (`Size.IsUnit`).

White space, digits and letters are apart from each other, so a text has this form in one way only,
and taking the longest runs finds it (`Size.split?_eq_some_iff`).  Hence a text is read as the size
that it denotes, and where there is none to be read the wording tells which of three causes that has
(`Size.read_decides_grammar`).  In particular the decimal digits of a byte count are read as that
count (`Size.read_toString`).
-/
namespace DiskPlan

/-! ## Kinds of characters -/

namespace Text

/-- The code points of white space. -/
def whiteSpace : List Nat :=
  [0x9, 0xa, 0xb, 0xc, 0xd, 0x20, 0x85, 0xa0, 0x1680, 0x2000, 0x2001, 0x2002, 0x2003, 0x2004,
    0x2005, 0x2006, 0x2007, 0x2008, 0x2009, 0x200a, 0x2028, 0x2029, 0x202f, 0x205f, 0x3000]

lemma isBlank_iff {c : Char} : isBlank c = true ↔ c.toNat ∈ whiteSpace := by
  have hranges : whiteSpace = blankRanges.flatMap fun r => List.range' r.1 (r.2 + 1 - r.1) := rfl
  rw [hranges, isBlank, List.any_eq_true, List.mem_flatMap]
  refine exists_congr fun r => and_congr_right fun _ => ?_
  simp only [Bool.and_eq_true, decide_eq_true_eq, List.mem_range'_1]
  omega

/-- A range of code points that is apart from those of white space has none of it. -/
lemma isBlank_of_apart {lo hi : Nat} (hapart : ∀ r ∈ blankRanges, r.2 < lo ∨ hi < r.1)
    {c : Char} (hlo : lo ≤ c.toNat) (hhi : c.toNat ≤ hi) : isBlank c = false := by
  rw [isBlank, List.any_eq_false]
  intro r hr
  have hr' := hapart r hr
  simp only [Bool.and_eq_true, decide_eq_true_eq]
  omega

lemma isBlank_of_isDigit {c : Char} (h : c.isDigit = true) : isBlank c = false := by
  obtain ⟨hlo, hhi⟩ := Char.isDigit_iff_toNat.mp h
  exact isBlank_of_apart (by decide) hlo hhi

/-- A letter is in one of two ranges. -/
lemma toNat_of_isAlpha {c : Char} (h : c.isAlpha = true) :
    ('A'.toNat ≤ c.toNat ∧ c.toNat ≤ 'Z'.toNat) ∨ ('a'.toNat ≤ c.toNat ∧ c.toNat ≤ 'z'.toNat) := by
  have hranges : (decide ('A'.val ≤ c.val ∧ c.val ≤ 'Z'.val) ||
    decide ('a'.val ≤ c.val) && decide (c.val ≤ 'z'.val)) = true := h
  simpa [UInt32.le_iff_toNat_le] using hranges

lemma isDigit_of_isBlank {c : Char} (h : isBlank c = true) : c.isDigit = false := by
  cases hdigit : c.isDigit with
  | false => rfl
  | true => exact absurd h (by simp [isBlank_of_isDigit hdigit])

lemma isBlank_of_isAlpha {c : Char} (h : c.isAlpha = true) : isBlank c = false := by
  rcases toNat_of_isAlpha h with ⟨hlo, hhi⟩ | ⟨hlo, hhi⟩
  · exact isBlank_of_apart (by decide) hlo hhi
  · exact isBlank_of_apart (by decide) hlo hhi

lemma isAlpha_of_isBlank {c : Char} (h : isBlank c = true) : c.isAlpha = false := by
  cases halpha : c.isAlpha with
  | false => rfl
  | true => exact absurd h (by simp [isBlank_of_isAlpha halpha])

lemma isDigit_of_isAlpha {c : Char} (h : c.isAlpha = true) : c.isDigit = false := by
  rw [Bool.eq_false_iff, ne_eq, Char.isDigit_iff_toNat]
  have hgap : '9'.toNat < 'A'.toNat ∧ '9'.toNat < 'a'.toNat := by decide
  have hletter := toNat_of_isAlpha h
  omega

/-! ## Runs of characters -/

/-- The longest run at the front of a text ends where the test fails. -/
lemma span_eq_iff {p : Char → Bool} {cs run rest : List Char} :
    cs.span p = (run, rest) ↔
      cs = run ++ rest ∧ (∀ c ∈ run, p c = true) ∧ ∀ c ∈ rest.head?, p c = false := by
  rw [List.span_eq_takeWhile_dropWhile, Prod.mk.injEq]
  constructor
  · rintro ⟨rfl, rfl⟩
    refine ⟨List.takeWhile_append_dropWhile.symm, fun c hc => List.mem_takeWhile_imp hc, ?_⟩
    intro c hc
    have hhead := List.head?_dropWhile_not p cs
    rw [Option.mem_def.mp hc] at hhead
    exact hhead
  · rintro ⟨rfl, hrun, hrest⟩
    rw [List.takeWhile_append_of_pos hrun, List.dropWhile_append_of_pos hrun]
    cases rest with
    | nil => simp
    | cons c rest =>
      have hc : p c = false := hrest c rfl
      simp [hc]

/-- Dropping white space leaves what starts with something else. -/
lemma dropBlanks_eq_iff {cs rest : List Char} :
    dropBlanks cs = rest ↔
      ∃ blanks, cs = blanks ++ rest ∧ (∀ c ∈ blanks, isBlank c = true)
        ∧ ∀ c ∈ rest.head?, isBlank c = false := by
  simp only [← span_eq_iff, List.span_eq_takeWhile_dropWhile, Prod.mk.injEq, exists_eq_left']
  rfl

lemma forall_mem_head?_append {P : Char → Prop} {front back : List Char} (hne : front ≠ [])
    (h : ∀ c ∈ front, P c) : ∀ c ∈ (front ++ back).head?, P c := by
  cases front with
  | nil => exact absurd rfl hne
  | cons c cs => simpa using h c List.mem_cons_self

end Text

namespace Size

open Text

/-! ## Units -/

/-- The names of units with their multiples: no name for single bytes, powers of a thousand for the
decimal units and powers of 1024 for the binary ones. -/
inductive IsUnit : String → Nat → Prop
  | byte : IsUnit "" 1
  | decimal {i : Nat} {name : String} (h : ["kB", "MB", "GB", "TB"][i]? = some name) :
    IsUnit name (1000 ^ (i + 1))
  | binary {i : Nat} {name : String} (h : ["KiB", "MiB", "GiB", "TiB"][i]? = some name) :
    IsUnit name (1024 ^ (i + 1))

lemma isUnit_of_mem_units {entry : String × Nat} (h : entry ∈ units) :
    IsUnit entry.1 entry.2 := by
  revert entry
  simp only [units, List.forall_mem_cons, List.not_mem_nil, false_imp_iff, forall_true_iff,
    and_true]
  exact ⟨.byte, .decimal (i := 0) rfl, .binary (i := 0) rfl, .decimal (i := 1) rfl,
    .binary (i := 1) rfl, .decimal (i := 2) rfl, .binary (i := 2) rfl, .decimal (i := 3) rfl,
    .binary (i := 3) rfl⟩

/-- The table of units lists them all. -/
lemma mem_units_iff {name : String} {multiple : Nat} :
    (name, multiple) ∈ units ↔ IsUnit name multiple := by
  refine ⟨isUnit_of_mem_units, ?_⟩
  rintro (_ | h | h)
  · decide
  · have hall : ∀ i (hi : i < 4), (["kB", "MB", "GB", "TB"][i], 1000 ^ (i + 1)) ∈ units := by
      decide
    obtain ⟨hi, rfl⟩ := List.getElem?_eq_some_iff.mp h
    exact hall _ hi
  · have hall : ∀ i (hi : i < 4), (["KiB", "MiB", "GiB", "TiB"][i], 1024 ^ (i + 1)) ∈ units := by
      decide
    obtain ⟨hi, rfl⟩ := List.getElem?_eq_some_iff.mp h
    exact hall _ hi

lemma multiple?_eq_some_iff {unit : List Char} {multiple : Nat} :
    multiple? unit = some multiple ↔ IsUnit (String.ofList unit) multiple := by
  rw [← mem_units_iff]
  constructor
  · intro h
    obtain ⟨front, back, hunits, -⟩ := List.lookup_eq_some_iff.mp h
    simp [hunits]
  · -- no name is listed twice
    have hall : ∀ entry ∈ units, units.lookup entry.1 = some entry.2 := by decide
    exact hall (String.ofList unit, multiple)

lemma isAlpha_of_isUnit {unit : String} {multiple : Nat} (h : IsUnit unit multiple) :
    ∀ c ∈ unit.toList, c.isAlpha = true := by
  have hall : ∀ entry ∈ units, entry.1.toList.all Char.isAlpha = true := by decide
  exact List.all_eq_true.mp (hall (unit, multiple) (mem_units_iff.mpr h))

/-! ## The form of a size -/

/-- A text is some digits and a unit, with white space ahead of them, between them and behind
them. -/
structure HasForm (text digits unit : List Char) : Prop where
  digits_ne_nil : digits ≠ []
  isDigit : ∀ c ∈ digits, c.isDigit = true
  spaced : ∃ ahead between behind, text = ahead ++ digits ++ between ++ unit ++ behind
    ∧ ∀ c ∈ ahead ++ between ++ behind, c.toNat ∈ whiteSpace

/-- A text is split by taking runs of white space, digits, white space, letters and white space. -/
lemma split?_eq_some_iff_span {text digits unit : List Char} :
    split? text = some (digits, unit) ↔
      ∃ rest tail, (dropBlanks text).span Char.isDigit = (digits, rest)
        ∧ (dropBlanks rest).span Char.isAlpha = (unit, tail)
        ∧ digits ≠ [] ∧ dropBlanks tail = [] := by
  rcases hdigits : (dropBlanks text).span Char.isDigit with ⟨run, rest⟩
  rcases hunit : (dropBlanks rest).span Char.isAlpha with ⟨letters, tail⟩
  simp only [split?, hdigits, hunit, Option.ite_none_right_eq_some, Option.some.injEq,
    Prod.mk.injEq]
  constructor
  · rintro ⟨⟨hne, htail⟩, rfl, rfl⟩
    exact ⟨rest, tail, ⟨rfl, rfl⟩, hunit, hne, htail⟩
  · rintro ⟨rest', tail', ⟨rfl, rfl⟩, hunit', hne, htail⟩
    obtain ⟨rfl, rfl⟩ := Prod.mk.inj (hunit.symm.trans hunit')
    exact ⟨⟨hne, htail⟩, rfl, rfl⟩

/-- Letters with white space on both sides are found behind the first of it. -/
lemma exists_span_isAlpha {between unit behind : List Char}
    (hbetween : ∀ c ∈ between, isBlank c = true) (hunit : ∀ c ∈ unit, c.isAlpha = true)
    (hbehind : ∀ c ∈ behind, isBlank c = true) :
    ∃ tail, (dropBlanks (between ++ unit ++ behind)).span Char.isAlpha = (unit, tail)
      ∧ dropBlanks tail = [] := by
  by_cases hnil : unit = []
  · -- without letters the white space is one run
    have hdrop : dropBlanks (between ++ unit ++ behind) = [] := by
      refine dropBlanks_eq_iff.mpr ⟨between ++ behind, by simp [hnil], ?_, by simp⟩
      exact List.forall_mem_append.mpr ⟨hbetween, hbehind⟩
    exact ⟨[], by rw [hdrop, hnil]; rfl, rfl⟩
  · have hdrop : dropBlanks (between ++ unit ++ behind) = unit ++ behind := by
      refine dropBlanks_eq_iff.mpr ⟨between, List.append_assoc _ _ _, hbetween, ?_⟩
      exact forall_mem_head?_append hnil fun c hc => isBlank_of_isAlpha (hunit c hc)
    refine ⟨behind, ?_, dropBlanks_eq_iff.mpr ⟨behind, by simp, hbehind, by simp⟩⟩
    rw [hdrop]
    refine span_eq_iff.mpr ⟨rfl, hunit, fun c hc => ?_⟩
    exact isAlpha_of_isBlank (hbehind c (List.mem_of_mem_head? hc))

/-- **A text is split in the one way in which it has the form of a size.** -/
lemma split?_eq_some_iff {text digits unit : List Char} :
    split? text = some (digits, unit) ↔
      HasForm text digits unit ∧ ∀ c ∈ unit, c.isAlpha = true := by
  rw [split?_eq_some_iff_span]
  constructor
  · rintro ⟨rest, tail, hdigits, hunit, hne, htail⟩
    obtain ⟨hdigits, hisDigit, -⟩ := span_eq_iff.mp hdigits
    obtain ⟨ahead, rfl, hahead, -⟩ := dropBlanks_eq_iff.mp hdigits
    obtain ⟨hunit, hisAlpha, -⟩ := span_eq_iff.mp hunit
    obtain ⟨between, rfl, hbetween, -⟩ := dropBlanks_eq_iff.mp hunit
    obtain ⟨behind, rfl, hbehind, -⟩ := dropBlanks_eq_iff.mp htail
    refine ⟨⟨hne, hisDigit, ahead, between, behind, by simp, ?_⟩, hisAlpha⟩
    simp only [← isBlank_iff, List.forall_mem_append]
    exact ⟨⟨hahead, hbetween⟩, hbehind⟩
  · rintro ⟨⟨hne, hisDigit, ahead, between, behind, rfl, hblanks⟩, hisAlpha⟩
    simp only [← isBlank_iff, List.forall_mem_append] at hblanks
    obtain ⟨⟨hahead, hbetween⟩, hbehind⟩ := hblanks
    obtain ⟨tail, hunit, htail⟩ := exists_span_isAlpha hbetween hisAlpha hbehind
    refine ⟨between ++ unit ++ behind, tail, ?_, hunit, hne, htail⟩
    have hdrop : dropBlanks (ahead ++ digits ++ between ++ unit ++ behind) =
        digits ++ (between ++ unit ++ behind) := by
      refine dropBlanks_eq_iff.mpr ⟨ahead, by simp, hahead, ?_⟩
      exact forall_mem_head?_append hne fun c hc => isBlank_of_isDigit (hisDigit c hc)
    -- the digits end there, since neither white space nor letters go on with one
    have hrest : ∀ c ∈ between ++ unit ++ behind, c.isDigit = false := by
      simp only [List.forall_mem_append]
      exact ⟨⟨fun c hc => isDigit_of_isBlank (hbetween c hc),
        fun c hc => isDigit_of_isAlpha (hisAlpha c hc)⟩,
        fun c hc => isDigit_of_isBlank (hbehind c hc)⟩
    rw [hdrop]
    exact span_eq_iff.mpr ⟨rfl, hisDigit, fun c hc => hrest c (List.mem_of_mem_head? hc)⟩

/-! ## What a text denotes -/

/-- A text denotes a number of bytes when it has the form of a size and the bytes are the decimal
value of its digits times the multiple of its unit. -/
def Denotes (text : String) (bytes : Nat) : Prop :=
  ∃ digits unit multiple, HasForm text.toList digits unit.toList ∧ IsUnit unit multiple
    ∧ bytes = Nat.ofDigitChars 10 digits 0 * multiple

/-- The number of bytes that a text denotes, however large it is. -/
def denoted? (text : String) : Option Nat :=
  (split? text.toList).bind fun parts =>
    (multiple? parts.2).map fun multiple => ofDigits parts.1 * multiple

lemma denoted?_eq_some_iff {text : String} {bytes : Nat} :
    denoted? text = some bytes ↔ Denotes text bytes := by
  simp only [denoted?, Option.bind_eq_some_iff, Option.map_eq_some_iff, Prod.exists,
    split?_eq_some_iff, multiple?_eq_some_iff]
  constructor
  · rintro ⟨digits, unit, ⟨hform, -⟩, multiple, hmultiple, rfl⟩
    exact ⟨digits, String.ofList unit, multiple, by rwa [String.toList_ofList], hmultiple, rfl⟩
  · rintro ⟨digits, unit, multiple, hform, hmultiple, rfl⟩
    refine ⟨digits, unit.toList, ⟨hform, isAlpha_of_isUnit hmultiple⟩, multiple, ?_, rfl⟩
    rwa [String.ofList_toList]

lemma Denotes.unique {text : String} {bytes bytes' : Nat} (h : Denotes text bytes)
    (h' : Denotes text bytes') : bytes = bytes' := by
  rw [← denoted?_eq_some_iff] at h h'
  exact Option.some.inj (h.symm.trans h')

/-- What denotes something has a digit. -/
lemma Denotes.exists_isDigit {text : String} {bytes : Nat} (h : Denotes text bytes) :
    ∃ c ∈ text.toList, c.isDigit = true := by
  obtain ⟨digits, unit, -, ⟨hne, hisDigit, ahead, between, behind, htext, -⟩, -⟩ := h
  obtain ⟨c, hc⟩ := List.exists_mem_of_ne_nil digits hne
  exact ⟨c, by simp [htext, hc], hisDigit c hc⟩

/-! ## Reading -/

/-- Reading looks for a digit, then for what the text denotes, and then at the limit. -/
lemma read_eq (text : String) :
    read text =
      if text.toList.any Char.isDigit then
        match denoted? text with
        | none => .error (.unknownUnit text)
        | some bytes => if bytes < limit then .ok bytes else .error (.outOfRange text)
      else .error (.noNumber text) := by
  simp only [read, denoted?]
  rcases split? text.toList with _ | ⟨digits, unit⟩
  · rfl
  · rcases hmultiple : multiple? unit with _ | multiple
    · simp only [Option.bind_some, hmultiple, Option.map_none]
    · simp only [Option.bind_some, hmultiple, Option.map_some, fit?]
      by_cases hfit : ofDigits digits * multiple < limit
      · rw [if_pos hfit, if_pos hfit]
      · rw [if_neg hfit, if_neg hfit]

/-- What a text is read as: the number of bytes that it denotes, when that is below the limit, and
else one of three causes. -/
inductive IsReadAs (text : String) : Except NotationError Nat → Prop
  | ok {bytes : Nat} : Denotes text bytes → bytes < limit → IsReadAs text (.ok bytes)
  | noNumber : (∀ c ∈ text.toList, c.isDigit = false) → IsReadAs text (.error (.noNumber text))
  | outOfRange {bytes : Nat} : Denotes text bytes → limit ≤ bytes →
    IsReadAs text (.error (.outOfRange text))
  | unknownUnit : (∃ c ∈ text.toList, c.isDigit = true) → (∀ bytes, ¬ Denotes text bytes) →
    IsReadAs text (.error (.unknownUnit text))

lemma isReadAs_read (text : String) : IsReadAs text (read text) := by
  rw [read_eq]
  split
  · next hdigit =>
    rcases hdenoted : denoted? text with _ | bytes
    · refine .unknownUnit (List.any_eq_true.mp hdigit) fun bytes h => ?_
      rw [← denoted?_eq_some_iff, hdenoted] at h
      cases h
    · have hdenotes : Denotes text bytes := denoted?_eq_some_iff.mp hdenoted
      dsimp only
      split
      · next hfit => exact .ok hdenotes hfit
      · next hfit => exact .outOfRange hdenotes (Nat.le_of_not_lt hfit)
  · next hdigit => exact .noNumber (by simpa using hdigit)

/-- There is one thing that a text is read as. -/
lemma IsReadAs.unique {text : String} {r r' : Except NotationError Nat} (h : IsReadAs text r)
    (h' : IsReadAs text r') : r = r' := by
  cases h <;> cases h' <;> grind [Denotes.unique, Denotes.exists_isDigit]

lemma read_eq_iff {text : String} {r : Except NotationError Nat} :
    read text = r ↔ IsReadAs text r :=
  ⟨fun h => h ▸ isReadAs_read text, fun h => (isReadAs_read text).unique h⟩

/-- The decimal digits of a byte count are read as that count. -/
lemma read_toString {n : Nat} (h : n < limit) : read (toString n) = .ok n := by
  have hform : HasForm (toString n).toList (Nat.toDigits 10 n) "".toList :=
    ⟨Nat.toDigits_ne_nil,
      fun c hc => Nat.isDigit_of_mem_toDigits (by decide) (by decide) hc,
      [], [], [], by simp, by simp⟩
  refine read_eq_iff.mpr (.ok ⟨Nat.toDigits 10 n, "", 1, hform, .byte, ?_⟩ h)
  rw [Nat.ofDigitChars_ten_toDigits, Nat.mul_one]

/-! ## Wordings -/

/-- The first letter of a wording tells the cause. -/
lemma head?_message (cause : NotationError) :
    cause.message.toList.head? = some (match cause with
      | .noNumber _ => 't'
      | .unknownUnit _ => 'u'
      | .outOfRange _ => 'd') := by
  unfold NotationError.message
  cases cause with
  | noNumber text => simp
  | unknownUnit text => simp
  | outOfRange text => simp

/-- Different causes are worded differently. -/
lemma message_injective : Function.Injective NotationError.message := by
  intro cause cause' h
  have hfirst := congrArg (fun wording : String => wording.toList.head?) h
  simp only [head?_message, Option.some.injEq] at hfirst
  unfold NotationError.message at h
  cases cause <;> cases cause' <;> simp_all

/-- A text is refused with the given wording. -/
def FailsWith (text wording : String) : Prop :=
  ∃ cause, read text = .error cause ∧ cause.message = wording

lemma failsWith_message_iff (text : String) (cause : NotationError) :
    FailsWith text cause.message ↔ IsReadAs text (.error cause) := by
  simp [FailsWith, message_injective.eq_iff, read_eq_iff]

/-- **A text is read as the size that it denotes.**  It is read when it denotes a number of bytes
below the limit.  Otherwise the wording tells why not, followed by the text: there is no digit in
it, or it denotes a number that reaches the limit, or it has digits and denotes nothing. -/
theorem read_decides_grammar (text : String) :
    (∀ bytes, read text = .ok bytes ↔ Denotes text bytes ∧ bytes < limit)
      ∧ (FailsWith text ("the size string doesn't contain any number: " ++ text) ↔
        ∀ c ∈ text.toList, c.isDigit = false)
      ∧ (FailsWith text ("data size is out of range: " ++ text) ↔
        ∃ bytes, Denotes text bytes ∧ limit ≤ bytes)
      ∧ (FailsWith text ("unknown data size units in string: " ++ text) ↔
        (∃ c ∈ text.toList, c.isDigit = true) ∧ ∀ bytes, ¬ Denotes text bytes) := by
  simp only [read_eq_iff]
  refine ⟨fun bytes => ⟨?_, fun h => .ok h.1 h.2⟩, ?_, ?_, ?_⟩
  · rintro (⟨hdenotes, hfit⟩ | _ | _ | _)
    exact ⟨hdenotes, hfit⟩
  · refine (failsWith_message_iff text (.noNumber text)).trans ⟨?_, .noNumber⟩
    rintro (_ | hdigit | _ | _)
    exact hdigit
  · refine (failsWith_message_iff text (.outOfRange text)).trans
      ⟨?_, fun ⟨bytes, hdenotes, hlarge⟩ => .outOfRange hdenotes hlarge⟩
    rintro (_ | _ | ⟨hdenotes, hlarge⟩ | _)
    exact ⟨_, hdenotes, hlarge⟩
  · refine (failsWith_message_iff text (.unknownUnit text)).trans
      ⟨?_, fun ⟨hdigit, hnone⟩ => .unknownUnit hdigit hnone⟩
    rintro (_ | _ | _ | ⟨hdigit, hnone⟩)
    exact ⟨hdigit, hnone⟩

example : read " 0020 GiB" = .ok 21474836480 := by cbv

end Size
end DiskPlan
