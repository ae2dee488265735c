import DiskPlan.Proofs.Growth.Owners
import Mathlib.Data.List.Infix

/-!
# The directories above a path

An absolute path is the text of the names on the way to it from the root (`ofNames_names`).  Leaving
off the last name leads to the directory that it is in, and so on up to the root; behind the root
the walk comes to the empty text, which is a beginning of every path (`upwards`).

What holds an absolute path is exactly what this walk passes (`holds_iff_mem_upwards`), and when the
path is canonical the texts on the way get shorter.  So the deepest of some mountpoints that hold it
is the first that the walk comes to (`deepest_eq_find?`).
-/
namespace DiskPlan.Path

/-! ## Names and their text -/

/-- The names on the way from the root to a path. -/
def names (path : String) : List (List Char) :=
  if path = root then [] else pieces (relative path.toList)

/-- The characters of some names, a slash ahead of each. -/
def chars (ns : List (List Char)) : List Char := ns.flatMap ('/' :: ·)

@[simp] lemma chars_nil : chars [] = [] := rfl

@[simp] lemma chars_cons (n : List Char) (ns : List (List Char)) :
    chars (n :: ns) = '/' :: (n ++ chars ns) := rfl

lemma chars_append (ms ns : List (List Char)) : chars (ms ++ ns) = chars ms ++ chars ns :=
  List.flatMap_append

/-- The directory that some names lead to. -/
def ofNames (ns : List (List Char)) : String := if ns = [] then root else String.ofList (chars ns)

@[simp] lemma ofNames_nil : ofNames [] = root := rfl

lemma ofNames_of_ne_nil {ns : List (List Char)} (h : ns ≠ []) :
    ofNames ns = String.ofList (chars ns) := if_neg h

lemma pieces_ne_nil (cs : List Char) : pieces cs ≠ [] := by
  fun_induction pieces cs <;> simp_all

lemma chars_pieces (cs : List Char) : chars (pieces cs) = '/' :: cs := by
  fun_induction pieces cs <;> simp_all

/-- A piece is what stands between slashes. -/
lemma slash_notMem_of_mem_pieces {cs piece : List Char} (h : piece ∈ pieces cs) : '/' ∉ piece := by
  fun_induction pieces cs generalizing piece with
  | case1 => simp_all
  | case2 cs ih =>
    rcases List.mem_cons.mp h with rfl | h
    · simp
    · exact ih h
  | case3 c cs hc hnil ih => exact absurd hnil (pieces_ne_nil cs)
  | case4 c cs hc first rest hpieces ih =>
    rcases List.mem_cons.mp h with rfl | h
    · have hfirst : '/' ∉ first := ih (by simp [hpieces])
      simp [hfirst, Ne.symm hc]
    · exact ih (by simp [hpieces, h])

/-- An absolute path is the text of its names. -/
lemma ofNames_names {path : String} (habs : isAbsolute path = true) :
    ofNames (names path) = path := by
  by_cases hroot : path = root
  · simp [names, hroot]
  · obtain ⟨rest, hrest⟩ := exists_toList_eq_cons habs
    have hnames : names path = pieces rest := by simp [names, hroot, hrest, relative]
    rw [hnames, ofNames_of_ne_nil (pieces_ne_nil rest), chars_pieces, ← hrest,
      String.ofList_toList]

lemma isName_of_mem_names {path : String} (hcan : isCanonical path = true) {n : List Char}
    (h : n ∈ names path) : isName n = true := by
  unfold names at h
  split at h
  · cases h
  · next hroot =>
    have hall : (pieces (relative path.toList)).all isName = true := by
      simpa [isCanonical, hroot] using hcan
    exact List.all_eq_true.mp hall n h

lemma slash_notMem_of_mem_names {path : String} {n : List Char} (h : n ∈ names path) :
    '/' ∉ n := by
  unfold names at h
  split at h
  · cases h
  · exact slash_notMem_of_mem_pieces h

/-! ## Beginnings of the text -/

/-- A text that goes on with a slash and starts with slash-free characters reaches their end. -/
lemma append_slash_prefix_iff {ks n rest : List Char} (hn : '/' ∉ n) :
    ks ++ ['/'] <+: n ++ rest ↔ ∃ ks', ks = n ++ ks' ∧ ks' ++ ['/'] <+: rest := by
  induction n generalizing ks with
  | nil => simp
  | cons c n ih =>
    have hc : c ≠ '/' := fun h => hn (by simp [h])
    have hn' : '/' ∉ n := fun h => hn (List.mem_cons_of_mem c h)
    cases ks with
    | nil => simp [Ne.symm hc]
    | cons k ks => simp [ih hn', and_assoc]

/-- What goes on with a slash in the text of some names is the text of the first few of them. -/
lemma append_slash_prefix_chars_iff {ns : List (List Char)} (hns : ∀ n ∈ ns, '/' ∉ n)
    (key : List Char) :
    key ++ ['/'] <+: chars ns ↔ ∃ ms, ms <+: ns ∧ ms ≠ ns ∧ key = chars ms := by
  induction ns generalizing key with
  | nil => simp
  | cons n ns ih =>
    have hn : '/' ∉ n := hns n (by simp)
    have ih := ih fun n' hn' => hns n' (List.mem_cons_of_mem n hn')
    cases key with
    | nil =>
      -- nothing stands ahead of the first slash
      have hright : ∃ ms, ms <+: n :: ns ∧ ms ≠ n :: ns ∧ [] = chars ms :=
        ⟨[], List.nil_prefix, by simp, rfl⟩
      simp only [hright, iff_true]
      simp
    | cons k ks =>
      constructor
      · intro h
        obtain ⟨rfl, hks⟩ : k = '/' ∧ ks ++ ['/'] <+: n ++ chars ns := by simpa using h
        obtain ⟨ks', rfl, hks'⟩ := (append_slash_prefix_iff hn).mp hks
        obtain ⟨ms, hms, hne, rfl⟩ := (ih ks').mp hks'
        exact ⟨n :: ms, by simpa using hms, by simpa using hne, rfl⟩
      · rintro ⟨ms, hms, hne, hkey⟩
        rcases List.prefix_cons_iff.mp hms with rfl | ⟨ms, rfl, hms'⟩
        · cases hkey
        · obtain ⟨rfl, rfl⟩ : k = '/' ∧ ks = n ++ chars ms := by simpa using hkey
          have hchars : chars ms ++ ['/'] <+: chars ns :=
            (ih _).mpr ⟨ms, hms', fun h => hne (by rw [h]), rfl⟩
          simpa using hchars

/-! ## The walk up -/

/-- A path, the directory that it is in, and so on up to the root; behind it the empty text. -/
def upwards (path : String) : List String := (names path).inits.reverse.map ofNames ++ [""]

lemma mem_upwards {path key : String} :
    key ∈ upwards path ↔ (∃ ms, ms <+: names path ∧ ofNames ms = key) ∨ key = "" := by
  simp [upwards]

lemma toList_of_names_ne_nil {path : String} (habs : isAbsolute path = true)
    (h : names path ≠ []) : path.toList = chars (names path) := by
  rw [← String.toList_ofList (l := chars (names path)), ← ofNames_of_ne_nil h, ofNames_names habs]

example : upwards "/var/lib/db" = ["/var/lib/db", "/var/lib", "/var", "/", ""] := by decide

/-- **What holds an absolute path is what the walk up from it passes.** -/
theorem holds_iff_mem_upwards {path : String} (habs : isAbsolute path = true) (key : String) :
    holds key path = true ↔ key ∈ upwards path := by
  have hns : ∀ n ∈ names path, '/' ∉ n := fun n hn => slash_notMem_of_mem_names hn
  rw [mem_upwards]
  simp only [holds, Bool.or_eq_true, beq_iff_eq, List.isPrefixOf_iff_prefix]
  constructor
  · rintro ((rfl | rfl) | hlead)
    · exact .inl ⟨names key, List.prefix_refl _, ofNames_names habs⟩
    · exact .inl ⟨[], List.nil_prefix, rfl⟩
    · by_cases hroot : names path = []
      · have hpath : path = root := by rw [← ofNames_names habs, hroot, ofNames_nil]
        have hlen : (key.toList ++ ['/']).length ≤ 1 := by
          simpa [hpath, root] using hlead.length_le
        have hkey : key.toList = [] := List.length_eq_zero_iff.mp (by grind)
        exact .inr (String.toList_eq_nil_iff.mp hkey)
      · rw [toList_of_names_ne_nil habs hroot, append_slash_prefix_chars_iff hns] at hlead
        obtain ⟨ms, hms, -, hkey⟩ := hlead
        by_cases hnil : ms = []
        · exact .inr (String.toList_eq_nil_iff.mp (by rw [hkey, hnil, chars_nil]))
        · exact .inl ⟨ms, hms, by rw [ofNames_of_ne_nil hnil, ← hkey, String.ofList_toList]⟩
  · rintro (⟨ms, hms, rfl⟩ | rfl)
    · by_cases hall : ms = names path
      · exact .inl (.inl (by rw [hall, ofNames_names habs]))
      · by_cases hnil : ms = []
        · exact .inl (.inr (by rw [hnil, ofNames_nil]))
        · have hroot : names path ≠ [] := fun h => hall (by simp_all)
          rw [toList_of_names_ne_nil habs hroot, append_slash_prefix_chars_iff hns]
          exact .inr ⟨ms, hms, hall, by rw [ofNames_of_ne_nil hnil, String.toList_ofList]⟩
    · obtain ⟨rest, hrest⟩ := exists_toList_eq_cons habs
      exact .inr (by simp [hrest])

/-! ## The first that the walk comes to -/

/-- Further names, the first of them not empty, are further characters. -/
lemma exists_ofNames_append (ms : List (List Char)) {n : List Char} (hn : n ≠ [])
    (rest : List (List Char)) :
    ∃ more, more ≠ [] ∧ ofNames (ms ++ n :: rest) = ofNames ms ++ String.ofList more := by
  have hne : ms ++ n :: rest ≠ [] := by simp
  by_cases hnil : ms = []
  · refine ⟨n ++ chars rest, by simp [hn], ?_⟩
    rw [ofNames_of_ne_nil hne, hnil, List.nil_append, chars_cons, ← List.singleton_append,
      String.ofList_append]
    rfl
  · refine ⟨chars (n :: rest), by simp, ?_⟩
    rw [ofNames_of_ne_nil hne, ofNames_of_ne_nil hnil, chars_append, String.ofList_append]

/-- The first few of some names, none of them empty, have a shorter text than all of them. -/
lemma utf8ByteSize_ofNames_lt {ms ns : List (List Char)} (hns : ∀ n ∈ ns, n ≠ [])
    (hlead : ms <+: ns) (hne : ms ≠ ns) :
    (ofNames ms).utf8ByteSize < (ofNames ns).utf8ByteSize := by
  obtain ⟨extra, rfl⟩ := hlead
  cases extra with
  | nil => simp at hne
  | cons n rest =>
    obtain ⟨more, hmore, htext⟩ := exists_ofNames_append ms (hns n (by simp)) rest
    have hpos : (String.ofList more).utf8ByteSize ≠ 0 := by
      simpa [String.utf8ByteSize_eq_zero_iff] using hmore
    rw [htext, String.utf8ByteSize_append]
    omega

lemma pairwise_inits {α : Type} (l : List α) :
    l.inits.Pairwise fun before after => before <+: after ∧ before ≠ after := by
  induction l with
  | nil => simp
  | cons a l ih =>
    rw [List.inits_cons, List.pairwise_cons, List.pairwise_map]
    exact ⟨by simp, ih.imp fun h => ⟨by simpa using h.1, by simpa using h.2⟩⟩

lemma ofNames_ne_empty (ns : List (List Char)) : ofNames ns ≠ "" := by
  cases ns with
  | nil => decide
  | cons n ns => simp [ofNames]

/-- On the way up the texts get shorter. -/
lemma pairwise_upwards {path : String} (hcan : isCanonical path = true) :
    (upwards path).Pairwise fun before after => after.utf8ByteSize < before.utf8ByteSize := by
  have hns : ∀ n ∈ names path, n ≠ [] := by
    rintro n hn rfl
    exact absurd (isName_of_mem_names hcan hn) (by decide)
  refine List.pairwise_append.mpr ⟨?_, List.pairwise_singleton _ _, ?_⟩
  · rw [List.pairwise_map, List.pairwise_reverse]
    refine (pairwise_inits (names path)).imp_of_mem fun _ hafter h => ?_
    have hlead := (List.mem_inits _ _).mp hafter
    exact utf8ByteSize_ofNames_lt (fun n hn => hns n (hlead.subset hn)) h.1 h.2
  · intro above habove last hlast
    obtain ⟨ms, -, rfl⟩ := List.mem_map.mp habove
    obtain rfl := List.mem_singleton.mp hlast
    exact Nat.pos_of_ne_zero fun h => ofNames_ne_empty ms (String.utf8ByteSize_eq_zero_iff.mp h)

/-- In a list that gets smaller, the first to pass a test is the greatest to pass it. -/
lemma find?_eq_some_iff_of_decreasing {α : Type} {size : α → Nat} {l : List α}
    (hl : l.Pairwise fun before after => size after < size before) (test : α → Bool) (a : α) :
    l.find? test = some a ↔
      a ∈ l ∧ test a = true ∧ ∀ b ∈ l, test b = true → size b ≤ size a := by
  induction l with
  | nil => simp
  | cons c l ih =>
    obtain ⟨hc, hl⟩ := List.pairwise_cons.mp hl
    by_cases htest : test c = true
    · rw [List.find?_cons_of_pos htest, Option.some.injEq]
      constructor
      · rintro rfl
        refine ⟨by simp, htest, fun b hb _ => ?_⟩
        rcases List.mem_cons.mp hb with rfl | hb
        · exact Nat.le_refl _
        · exact Nat.le_of_lt (hc b hb)
      · rintro ⟨ha, -, hmax⟩
        rcases List.mem_cons.mp ha with rfl | ha
        · rfl
        · exact absurd (hmax c (by simp) htest) (Nat.not_le.mpr (hc a ha))
    · rw [List.find?_cons_of_neg htest, ih hl]
      constructor
      · rintro ⟨ha, hta, hmax⟩
        refine ⟨List.mem_cons_of_mem c ha, hta, fun b hb htb => ?_⟩
        have hne : b ≠ c := fun h => htest (h ▸ htb)
        exact hmax b (List.mem_of_ne_of_mem hne hb) htb
      · rintro ⟨ha, hta, hmax⟩
        have hne : a ≠ c := fun h => htest (h ▸ hta)
        refine ⟨List.mem_of_ne_of_mem hne ha, hta, fun b hb htb => ?_⟩
        exact hmax b (List.mem_cons_of_mem c hb) htb

/-- **The deepest of some mountpoints that hold a path is the first that the walk up comes to.** -/
theorem deepest_eq_find? {path : String} (habs : isAbsolute path = true)
    (hcan : isCanonical path = true) (mountpoints : List String) :
    deepest mountpoints path = (upwards path).find? (· ∈ mountpoints) := by
  refine Option.ext fun m => ?_
  rw [deepest_eq_some_iff habs, find?_eq_some_iff_of_decreasing (pairwise_upwards hcan)]
  -- both sides take the longest of the mountpoints that the walk passes
  simp only [IsOwner, holds_iff_mem_upwards habs, decide_eq_true_eq]
  constructor
  · rintro ⟨hm, hup, hmax⟩
    exact ⟨hup, hm, fun m' hup' hm' => hmax m' hm' hup'⟩
  · rintro ⟨hup, hm, hmax⟩
    exact ⟨hm, hup, fun m' hm' hup' => hmax m' hup' hm'⟩

end DiskPlan.Path
