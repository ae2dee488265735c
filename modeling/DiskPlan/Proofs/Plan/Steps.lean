import DiskPlan.Layout.Custom
import DiskPlan.Proofs.Size.Exact

/-!
# The steps of a plan

A plan goes through in five steps, none of which can be skipped: the customization is accepted,
there is a default filesystem type, the partitions can be listed, they can be grown, and they can be
placed.  What follows from there, identification, always succeeds.
-/
namespace DiskPlan.Customization

variable {c : Customization} {options : Options}

/-- A layout is what is placed after every step before has succeeded. -/
lemma layOut_eq_ok_iff {placed : Table} :
    c.layOut options = .ok placed ↔
      c.validate = .ok () ∧ ∃ defaultType, options.defaultFsType = some defaultType
        ∧ ∃ drafted, c.draft options defaultType = .ok drafted
        ∧ ∃ grown, (drafted.growDirectories options.requiredSizes).toExcept = .ok grown
        ∧ grown.allocate c.minsize options.mode = .ok placed := by
  rw [layOut, bind_eq_ok_iff]
  constructor
  · rintro ⟨⟨⟩, hvalid, h⟩
    refine ⟨hvalid, ?_⟩
    rcases htype : options.defaultFsType with _ | defaultType
    · rw [htype] at h
      cases h
    · rw [htype] at h
      refine ⟨defaultType, rfl, ?_⟩
      obtain ⟨drafted, hdrafted, h⟩ := bind_eq_ok_iff.mp h
      obtain ⟨grown, hgrown, h⟩ := bind_eq_ok_iff.mp h
      exact ⟨drafted, hdrafted, grown, hgrown, h⟩
  · rintro ⟨hvalid, defaultType, htype, drafted, hdrafted, grown, hgrown, h⟩
    refine ⟨(), hvalid, ?_⟩
    rw [htype]
    exact bind_eq_ok_iff.mpr ⟨drafted, hdrafted, bind_eq_ok_iff.mpr ⟨grown, hgrown, h⟩⟩

/-- A finished table is an identified layout. -/
lemma plan_eq_ok_iff {c : Option Customization} {stream : ByteStream}
    {result : Table × ByteStream} :
    plan c options stream = .ok result ↔
      ∃ placed, (c.getD {}).layOut options = .ok placed
        ∧ result = placed.identify.run stream := by
  rw [plan, bind_eq_ok_iff]
  constructor
  · rintro ⟨placed, hplaced, hresult⟩
    exact ⟨placed, hplaced, (Except.ok.inj hresult).symm⟩
  · rintro ⟨placed, hplaced, rfl⟩
    exact ⟨placed, hplaced, rfl⟩

end DiskPlan.Customization
