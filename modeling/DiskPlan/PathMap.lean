/-!
# Maps keyed by paths

A finite map from paths to values, kept as its entries in strictly ascending order of the keys, so
that two maps with the same entries are equal and every walk over a map is in the order of its keys.
Inserting a key that is present replaces its value: the last value wins.
-/
namespace DiskPlan

/-- A finite map from paths to values. -/
structure PathMap (α : Type) where
  /-- The keys with their values. -/
  entries : List (String × α)
  /-- The keys ascend strictly. -/
  ascending : entries.Pairwise fun a b => a.1 < b.1

namespace PathMap

variable {α β : Type}

/-- The entries with `key` set to `value`, at its place in the order. -/
def insertEntry (key : String) (value : α) : List (String × α) → List (String × α)
  | [] => [(key, value)]
  | (k, v) :: rest =>
    if key < k then (key, value) :: (k, v) :: rest
    else if key = k then (key, value) :: rest
    else (k, v) :: insertEntry key value rest

theorem mem_insertEntry {key : String} {value : α} {l : List (String × α)} {e : String × α}
    (h : e ∈ insertEntry key value l) : e = (key, value) ∨ e ∈ l := by
  induction l with
  | nil => exact .inl (List.mem_singleton.1 h)
  | cons entry rest ih =>
    obtain ⟨k, v⟩ := entry
    simp only [insertEntry] at h
    split at h
    · exact List.mem_cons.1 h
    · split at h
      · rcases List.mem_cons.1 h with h | h
        · exact .inl h
        · exact .inr (List.mem_cons_of_mem _ h)
      · rcases List.mem_cons.1 h with rfl | h
        · exact .inr List.mem_cons_self
        · exact (ih h).imp_right (List.mem_cons_of_mem _)

theorem pairwise_insertEntry {key : String} {value : α} {l : List (String × α)}
    (h : l.Pairwise fun a b => a.1 < b.1) :
    (insertEntry key value l).Pairwise fun a b => a.1 < b.1 := by
  induction l with
  | nil => exact List.pairwise_singleton _ _
  | cons entry rest ih =>
    obtain ⟨k, v⟩ := entry
    have hrest := List.pairwise_cons.1 h
    simp only [insertEntry]
    split
    · next hlt =>
      refine List.pairwise_cons.2 ⟨fun e he => ?_, h⟩
      rcases List.mem_cons.1 he with rfl | he
      · exact hlt
      · exact String.lt_trans hlt (hrest.1 e he)
    · next hnlt =>
      split
      · next heq =>
        subst heq
        exact List.pairwise_cons.2 ⟨hrest.1, hrest.2⟩
      · next hne =>
        refine List.pairwise_cons.2 ⟨fun e he => ?_, ih hrest.2⟩
        rcases mem_insertEntry he with rfl | he
        · exact Decidable.byContradiction fun hk =>
            hne (String.le_antisymm (String.not_lt.1 hk) (String.not_lt.1 hnlt))
        · exact hrest.1 e he

/-- A key behind all others is put at the end. -/
theorem insertEntry_of_lt {key : String} {value : α} {l : List (String × α)}
    (h : ∀ e ∈ l, e.1 < key) : insertEntry key value l = l ++ [(key, value)] := by
  induction l with
  | nil => rfl
  | cons entry rest ih =>
    obtain ⟨k, v⟩ := entry
    have hk : k < key := h (k, v) List.mem_cons_self
    have hne : key ≠ k := fun heq => String.lt_irrefl key (heq ▸ hk)
    rw [insertEntry, if_neg (String.lt_asymm hk), if_neg hne,
      ih fun e he => h e (List.mem_cons_of_mem _ he), List.cons_append]

theorem lookup_cons_eq_ite (a k : String) (v : α) (l : List (String × α)) :
    ((k, v) :: l).lookup a = if a = k then some v else l.lookup a := by
  by_cases h : a = k
  · simp [h]
  · rw [List.lookup_cons, beq_eq_false_iff_ne.2 h, if_neg h]

theorem lookup_insertEntry (key k : String) (value : α) (l : List (String × α)) :
    (insertEntry key value l).lookup k = if k = key then some value else l.lookup k := by
  induction l with
  | nil => rw [insertEntry, lookup_cons_eq_ite]
  | cons entry rest ih =>
    obtain ⟨a, v⟩ := entry
    simp only [insertEntry]
    split
    · rw [lookup_cons_eq_ite]
    · split
      · next heq =>
        subst heq
        rw [lookup_cons_eq_ite, lookup_cons_eq_ite]
        split <;> rfl
      · next hne =>
        rw [lookup_cons_eq_ite, lookup_cons_eq_ite, ih]
        by_cases ha : k = a
        · subst ha
          rw [if_pos rfl, if_pos rfl, if_neg (Ne.symm hne)]
        · rw [if_neg ha, if_neg ha]

/-- Among pairs that are made from elements the first element with a key counts. -/
theorem lookup_filterMap {f : β → String} {g : β → Option α} {as : List β}
    (h : ∀ a ∈ as, (g a).isSome) (k : String) :
    (as.filterMap fun a => (g a).map fun v => (f a, v)).lookup k =
      (as.find? fun a => f a == k).bind g := by
  induction as with
  | nil => rfl
  | cons a as ih =>
    obtain ⟨v, hv⟩ := Option.isSome_iff_exists.1 (h a List.mem_cons_self)
    rw [List.filterMap_cons, hv, Option.map_some, lookup_cons_eq_ite, List.find?_cons,
      ih fun a ha => h a (List.mem_cons_of_mem _ ha)]
    by_cases hk : k = f a
    · rw [if_pos hk, beq_iff_eq.2 hk.symm]
      exact hv.symm
    · rw [if_neg hk, beq_eq_false_iff_ne.2 (Ne.symm hk)]

/-- The map without entries. -/
def empty : PathMap α := ⟨[], .nil⟩

instance : Inhabited (PathMap α) := ⟨empty⟩

/-- Sets the value at a key, replacing one that is there. -/
def insert (m : PathMap α) (key : String) (value : α) : PathMap α :=
  ⟨insertEntry key value m.entries, pairwise_insertEntry m.ascending⟩

/-- The value at a key. -/
def get? (m : PathMap α) (key : String) : Option α := m.entries.lookup key

/-- An insertion changes the value at its key only. -/
theorem get?_insert (m : PathMap α) (key k : String) (value : α) :
    (m.insert key value).get? k = if k = key then some value else m.get? k :=
  lookup_insertEntry key k value m.entries

/-- The keys, in ascending order. -/
def keys (m : PathMap α) : List String := m.entries.map (·.1)

/-- The map of a list of pairs; of two pairs with one key the later counts. -/
def ofList (pairs : List (String × α)) : PathMap α :=
  pairs.foldl (fun m p => m.insert p.1 p.2) empty

/-- Of the pairs of a list the last one with a key counts. -/
theorem get?_ofList (pairs : List (String × α)) (key : String) :
    (ofList pairs).get? key = pairs.reverse.lookup key := by
  have hfold (m : PathMap α) : (pairs.foldl (fun m p => m.insert p.1 p.2) m).get? key =
      (pairs.reverse.lookup key).or (m.get? key) := by
    induction pairs generalizing m with
    | nil => rfl
    | cons p ps ih =>
      rw [List.foldl_cons, ih, get?_insert, List.reverse_cons, List.lookup_append, Option.or_assoc,
        lookup_cons_eq_ite]
      split <;> rfl
  rw [ofList, hfold]
  exact Option.or_none

/-- A map has a value at a key when the value is that of the last pair with the key. -/
theorem get?_ofList_eq_some_iff {pairs : List (String × α)} {key : String} {value : α} :
    (ofList pairs).get? key = some value ↔
      ∃ front back, pairs = front ++ (key, value) :: back ∧ ∀ p ∈ back, p.1 ≠ key := by
  rw [get?_ofList, List.lookup_eq_some_iff]
  constructor
  · rintro ⟨before, after, hpairs, hbefore⟩
    refine ⟨after.reverse, before.reverse, ?_, fun p hp => ?_⟩
    · rw [← List.reverse_inj, hpairs]
      simp
    · exact Ne.symm (bne_iff_ne.1 (hbefore p (List.mem_reverse.1 hp)))
  · rintro ⟨front, back, rfl, hback⟩
    refine ⟨back.reverse, front.reverse, by simp, fun p hp => ?_⟩
    exact bne_iff_ne.2 (Ne.symm (hback p (List.mem_reverse.1 hp)))

/-- The keys are those at which there is a value. -/
theorem mem_keys_iff (m : PathMap α) (key : String) : key ∈ m.keys ↔ (m.get? key).isSome := by
  rw [get?, List.lookup_isSome_iff]
  simp [keys]

theorem mem_keys_ofList_iff {pairs : List (String × α)} {key : String} :
    key ∈ (ofList pairs).keys ↔ ∃ p ∈ pairs, p.1 = key := by
  rw [mem_keys_iff, get?_ofList, List.lookup_isSome_iff]
  exact exists_congr fun p => by rw [List.mem_reverse, beq_iff_eq, eq_comm]

theorem ext {a b : PathMap α} (h : a.entries = b.entries) : a = b := by
  cases a
  cases b
  cases h
  rfl

instance [DecidableEq α] : DecidableEq (PathMap α) := fun a b =>
  decidable_of_iff (a.entries = b.entries) ⟨ext, fun h => h ▸ rfl⟩

instance [Repr α] : Repr (PathMap α) := ⟨fun m n => reprPrec m.entries n⟩

end PathMap
end DiskPlan
