import DiskPlan.Proofs.Paths.Ancestors
import Mathlib.Order.WellFounded

/-!
# Locations and what they hold

A location is a path that is absolute and canonical.  It is the same thing as the list of its names
(`Path.names_ofNames`, `Path.Location.ext_names`), the root having none, and it holds another
location exactly when its names are the first few of that one's (`Path.Location.le_iff`).  So
holding is a partial order on locations.

Whatever holds one path is comparable, since it is a part of the path that ends at a slash
(`Path.holds_or_holds_of_holds`).  Of the locations in a set that hold one path there is therefore a
deepest one: it is longer than all others, and they all hold it (`Path.holds_orders_locations`).
-/
namespace DiskPlan.Path

/-! ## Names and their pieces -/

lemma pieces_eq_singleton {n : List Char} (hn : '/' ∉ n) : pieces n = [n] := by
  induction n with
  | nil => rfl
  | cons c n ih =>
    rw [List.mem_cons, not_or] at hn
    rw [pieces, if_neg (Ne.symm hn.1), ih hn.2]

/-- What is ahead of the first slash is the first piece. -/
lemma pieces_append_slash {n : List Char} (hn : '/' ∉ n) (cs : List Char) :
    pieces (n ++ '/' :: cs) = n :: pieces cs := by
  induction n with
  | nil => rfl
  | cons c n ih =>
    rw [List.mem_cons, not_or] at hn
    rw [List.cons_append, pieces, if_neg (Ne.symm hn.1), ih hn.2]

lemma pieces_append_chars {n : List Char} {ns : List (List Char)} (hn : '/' ∉ n)
    (hns : ∀ n ∈ ns, '/' ∉ n) : pieces (n ++ chars ns) = n :: ns := by
  induction ns generalizing n with
  | nil => rw [chars_nil, List.append_nil, pieces_eq_singleton hn]
  | cons n' ns ih =>
    obtain ⟨hn', hns⟩ := List.forall_mem_cons.mp hns
    rw [chars_cons, pieces_append_slash hn, ih hn' hns]

/-- Names, none of them empty or with a slash, are the names of the path that they lead to. -/
lemma names_ofNames {ns : List (List Char)} (hne : ∀ n ∈ ns, n ≠ []) (hns : ∀ n ∈ ns, '/' ∉ n) :
    names (ofNames ns) = ns := by
  cases ns with
  | nil => rfl
  | cons n ns =>
    have htext : (ofNames (n :: ns)).toList = '/' :: (n ++ chars ns) := by
      rw [ofNames_of_ne_nil (List.cons_ne_nil n ns), String.toList_ofList, chars_cons]
    have hroot : ofNames (n :: ns) ≠ root := by
      intro h
      rw [h] at htext
      have hempty : n ++ chars ns = [] := by simpa [root] using htext
      exact hne n List.mem_cons_self (List.append_eq_nil_iff.mp hempty).1
    obtain ⟨hn, hns⟩ := List.forall_mem_cons.mp hns
    rw [names, if_neg hroot, htext, relative, pieces_append_chars hn hns]

/-- **An absolute and canonical path is the root, or its names with a slash ahead of each.** -/
lemma isAbsolute_and_isCanonical_iff {path : String} :
    (isAbsolute path = true ∧ isCanonical path = true) ↔ path = ofNames (names path)
      ∧ ∀ n ∈ names path, n ≠ [] ∧ n ≠ ['.'] ∧ n ≠ ['.', '.'] ∧ '/' ∉ n := by
  have hisName (n : List Char) : isName n = true ↔ n ≠ [] ∧ n ≠ ['.'] ∧ n ≠ ['.', '.'] := by
    simp [isName, and_assoc]
  constructor
  · rintro ⟨habs, hcan⟩
    refine ⟨(ofNames_names habs).symm, fun n hn => ?_⟩
    obtain ⟨hne, hdot, hdots⟩ := (hisName n).mp (isName_of_mem_names hcan hn)
    exact ⟨hne, hdot, hdots, slash_notMem_of_mem_names hn⟩
  · rintro ⟨hpath, hnames⟩
    constructor
    · rw [hpath]
      cases names path with
      | nil => decide
      | cons n ns =>
        rw [ofNames_of_ne_nil (List.cons_ne_nil n ns), isAbsolute, String.toList_ofList, chars_cons]
        rfl
    · rw [isCanonical, Bool.or_eq_true, beq_iff_eq]
      by_cases hroot : path = root
      · exact .inl hroot
      · rw [names, if_neg hroot] at hnames
        refine .inr (List.all_eq_true.mpr fun n hn => (hisName n).mpr ?_)
        exact ⟨(hnames n hn).1, (hnames n hn).2.1, (hnames n hn).2.2.1⟩

/-! ## What holds one path -/

section HoldsOne

variable {m m' d : String}

/-- What holds a path, but for the root, is a part of it that ends at a slash or at its end. -/
lemma append_slash_prefix_of_holds (h : holds m d = true) (hm : m ≠ root) :
    m.toList ++ ['/'] <+: d.toList ++ ['/'] := by
  simp only [holds, Bool.or_eq_true, beq_iff_eq, List.isPrefixOf_iff_prefix] at h
  rcases h with (rfl | rfl) | h
  · exact List.prefix_refl _
  · exact absurd rfl hm
  · exact h.trans (List.prefix_append _ _)

lemma holds_of_append_slash_prefix (h : m.toList ++ ['/'] <+: d.toList ++ ['/']) :
    holds m d = true := by
  simp only [holds, Bool.or_eq_true, beq_iff_eq, List.isPrefixOf_iff_prefix]
  rcases List.prefix_concat_iff.mp h with heq | hlead
  · exact .inl (.inl (String.toList_inj.mp (List.append_cancel_right heq)))
  · exact .inr hlead

lemma holds_root (d : String) : holds root d = true := by simp [holds]

/-- Of two texts that hold one path, whatever it is, one holds the other. -/
lemma holds_or_holds_of_holds (h : holds m d = true) (h' : holds m' d = true) :
    holds m m' = true ∨ holds m' m = true := by
  by_cases hm : m = root
  · exact .inl (hm ▸ holds_root m')
  · by_cases hm' : m' = root
    · exact .inr (hm' ▸ holds_root m)
    · have hlead := append_slash_prefix_of_holds h hm
      have hlead' := append_slash_prefix_of_holds h' hm'
      exact (List.prefix_or_prefix_of_prefix hlead hlead').imp holds_of_append_slash_prefix
        holds_of_append_slash_prefix

/-- Only the root can be longer than what it holds. -/
lemma utf8ByteSize_le_of_holds (h : holds m d = true) :
    m.utf8ByteSize ≤ d.utf8ByteSize + 1 := by
  by_cases hm : m = root
  · have hroot : root.utf8ByteSize = 1 := by decide
    rw [hm, hroot]
    omega
  · obtain ⟨rest, hrest⟩ := append_slash_prefix_of_holds h hm
    have htext : m ++ "/" ++ String.ofList rest = d ++ "/" := by
      rw [← String.toList_inj]
      simpa using hrest
    have hslash : "/".utf8ByteSize = 1 := by decide
    have hsize := congrArg String.utf8ByteSize htext
    simp only [String.utf8ByteSize_append] at hsize
    omega

end HoldsOne

/-! ## Locations -/

/-- A path that is absolute and canonical. -/
structure Location where
  /-- The text of the path. -/
  path : String
  isAbsolute : isAbsolute path = true
  isCanonical : isCanonical path = true

namespace Location

variable {m m' d : Location}

lemma ne_nil_of_mem_names (m : Location) {n : List Char} (h : n ∈ names m.path) : n ≠ [] := by
  rintro rfl
  exact absurd (isName_of_mem_names m.isCanonical h) (by decide)

/-- A location is known by its names. -/
lemma ext_names (h : names m.path = names m'.path) : m = m' := by
  have hpath : m.path = m'.path := by
    rw [← ofNames_names m.isAbsolute, h, ofNames_names m'.isAbsolute]
  cases m
  cases m'
  cases hpath
  rfl

/-- The order of locations: the one that holds the other comes first. -/
instance : LE Location := ⟨fun m d => holds m.path d.path = true⟩

/-- **A location holds another one when its names are the first few of that one's.** -/
lemma le_iff : m ≤ d ↔ names m.path <+: names d.path := by
  refine (holds_iff_mem_upwards d.isAbsolute m.path).trans (mem_upwards.trans ?_)
  constructor
  · rintro (⟨ms, hms, hpath⟩ | hempty)
    · have hnames : names m.path = ms := by
        rw [← hpath]
        exact names_ofNames (fun n hn => d.ne_nil_of_mem_names (hms.subset hn))
          fun n hn => slash_notMem_of_mem_names (hms.subset hn)
      rwa [hnames]
    · have habs := m.isAbsolute
      rw [hempty] at habs
      exact absurd habs (by decide)
  · exact fun h => .inl ⟨names m.path, h, ofNames_names m.isAbsolute⟩

instance : PartialOrder Location where
  le_refl m := le_iff.mpr (List.prefix_refl _)
  le_trans a b c hab hbc := le_iff.mpr ((le_iff.mp hab).trans (le_iff.mp hbc))
  le_antisymm a b hab hba :=
    ext_names ((le_iff.mp hab).eq_of_length_le (le_iff.mp hba).length_le)

/-- What holds another location has a shorter text. -/
lemma utf8ByteSize_lt (h : m < d) : m.path.utf8ByteSize < d.path.utf8ByteSize := by
  have hlt := utf8ByteSize_ofNames_lt (fun n hn => d.ne_nil_of_mem_names hn) (le_iff.mp h.le)
    fun hnames => h.ne (ext_names hnames)
  rwa [ofNames_names m.isAbsolute, ofNames_names d.isAbsolute] at hlt

/-- Of the locations in a set that hold one path, one is longer than all others, and they hold
it. -/
lemma exists_longest {d : String} {S : Set Location} (hne : S.Nonempty)
    (h : ∀ m ∈ S, holds m.path d = true) :
    ∃ m ∈ S, ∀ m' ∈ S, m' ≠ m →
      m'.path.utf8ByteSize < m.path.utf8ByteSize ∧ holds m'.path m.path = true := by
  -- the lengths are bounded, so there is a location in the set than which none is longer
  have hwf := (measure fun m : Location => d.utf8ByteSize + 1 - m.path.utf8ByteSize).wf
  obtain ⟨m, hm, hmax⟩ := hwf.has_min S hne
  refine ⟨m, hm, fun m' hm' hother => ?_⟩
  rcases holds_or_holds_of_holds (h m' hm') (h m hm) with hle | hle
  · exact ⟨utf8ByteSize_lt (lt_of_le_of_ne hle hother), hle⟩
  · have hlonger := utf8ByteSize_lt (lt_of_le_of_ne hle hother.symm)
    have hbound := utf8ByteSize_le_of_holds (h m' hm')
    have hless : d.utf8ByteSize + 1 - m'.path.utf8ByteSize <
        d.utf8ByteSize + 1 - m.path.utf8ByteSize := by omega
    exact absurd hless (hmax m' hm')

end Location

/-- **Holding is the order of the names.**  A location is the root, or its names with a slash ahead of
each, and of two locations the one holds the other when its names are the first few of the other's.
So a location holds itself, it holds what is held by what it holds, two that hold each other are the
same, and of two that hold one path one holds the other.  Of the locations in a set that hold one
path there is one that is longer than all others, and all others hold it. -/
theorem holds_orders_locations :
    (∀ path, (isAbsolute path = true ∧ isCanonical path = true) ↔ path = ofNames (names path)
        ∧ ∀ n ∈ names path, n ≠ [] ∧ n ≠ ['.'] ∧ n ≠ ['.', '.'] ∧ '/' ∉ n)
      ∧ (∀ m d : Location, holds m.path d.path = true ↔ names m.path <+: names d.path)
      ∧ (∀ m : Location, holds m.path m.path = true)
      ∧ (∀ a b c : Location, holds a.path b.path = true → holds b.path c.path = true →
        holds a.path c.path = true)
      ∧ (∀ a b : Location, holds a.path b.path = true → holds b.path a.path = true → a = b)
      ∧ (∀ (d : String) (a b : Location), holds a.path d = true → holds b.path d = true →
        holds a.path b.path = true ∨ holds b.path a.path = true)
      ∧ ∀ (d : String) (S : Set Location), S.Nonempty → (∀ m ∈ S, holds m.path d = true) →
        ∃ m ∈ S, ∀ m' ∈ S, m' ≠ m →
          m'.path.utf8ByteSize < m.path.utf8ByteSize ∧ holds m'.path m.path = true := by
  refine ⟨fun path => isAbsolute_and_isCanonical_iff, fun m d => Location.le_iff, fun m => ?_,
    fun a b c hab hbc => ?_, fun a b hab hba => ?_, fun d a b => holds_or_holds_of_holds,
    fun d S => Location.exists_longest⟩
  · exact le_refl m
  · exact @le_trans Location _ a b c hab hbc
  · exact @le_antisymm Location _ a b hab hba

/-- `/` and `/var` both hold `/var//lib`, which is no location; the longer one is held by the
other. -/
theorem holds_orders_locations_of_var :
    (∀ m ∈ ({⟨"/", by decide, by decide⟩, ⟨"/var", by decide, by decide⟩} : Set Location),
      holds m.path "/var//lib" = true) ∧
    ∃ m ∈ ({⟨"/", by decide, by decide⟩, ⟨"/var", by decide, by decide⟩} : Set Location),
      ∀ m' ∈ ({⟨"/", by decide, by decide⟩, ⟨"/var", by decide, by decide⟩} : Set Location),
        m' ≠ m → m'.path.utf8ByteSize < m.path.utf8ByteSize ∧ holds m'.path m.path = true := by
  have hholds : ∀ m ∈ ({⟨"/", by decide, by decide⟩, ⟨"/var", by decide, by decide⟩} :
      Set Location), holds m.path "/var//lib" = true := by
    rintro m (rfl | rfl)
    · decide
    · decide
  exact ⟨hholds, holds_orders_locations.2.2.2.2.2.2 "/var//lib" _ ⟨_, .inl rfl⟩ hholds⟩

end DiskPlan.Path
