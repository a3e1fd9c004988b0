import CallHandle.Proofs.Partners
import Mathlib.Data.List.FinRange

namespace CallHandle

namespace Group

variable {g : Group} {σ : Equiv.Perm (Fin g.members.length)} {c c' : Candidate}

/-- The group with its members in another order: position `i` holds the member from `σ i`. -/
def permute (g : Group) (σ : Equiv.Perm (Fin g.members.length)) : Group :=
  ⟨g.name, List.ofFn fun i => g.members.get (σ i)⟩

/-- The second candidate is the first one after the members are put in the other order. -/
def Moved (g : Group) (σ : Equiv.Perm (Fin g.members.length)) (c c' : Candidate) : Prop :=
  ∃ i, c = ⟨(σ i).val, g.members.get (σ i)⟩ ∧ c' = ⟨i.val, g.members.get (σ i)⟩

/-- The two lists hold the same members, each in the order of its own group. -/
def Relisted (g : Group) (σ : Equiv.Perm (Fin g.members.length)) (cs cs' : List Candidate) : Prop :=
  cs.Sublist g.candidates ∧ cs'.Sublist (g.permute σ).candidates ∧
    Candidate.Paired (g.Moved σ) cs cs'

theorem mem_candidates_iff_get : c ∈ g.candidates ↔ ∃ i, c = ⟨i.val, g.members.get i⟩ := by
  rw [mem_candidates, List.getElem?_eq_some_iff]
  constructor
  · rintro ⟨inside, member⟩
    exact ⟨⟨c.position, inside⟩, by rw [List.get_eq_getElem, member]⟩
  · rintro ⟨i, rfl⟩
    exact ⟨i.isLt, rfl⟩

theorem mem_candidates_permute_iff :
    c' ∈ (g.permute σ).candidates ↔ ∃ i : Fin g.members.length, c' = ⟨i.val, g.members.get (σ i)⟩ := by
  rw [mem_candidates, permute, List.getElem?_ofFn]
  constructor
  · intro h
    split at h
    · rename_i inside
      exact ⟨⟨c'.position, inside⟩, by rw [Option.some.inj h]⟩
    · cases h
  · rintro ⟨i, rfl⟩
    rw [dif_pos i.isLt]

theorem moved_pairing (g : Group) (σ : Equiv.Perm (Fin g.members.length)) :
    Candidate.Pairing (g.Moved σ) := by
  constructor
  · rintro _ _ ⟨i, rfl, rfl⟩
    rfl
  · rintro _ _ _ _ ⟨i, rfl, rfl⟩ ⟨j, rfl, rfl⟩
    exact (Fin.val_inj.trans σ.injective.eq_iff).trans Fin.val_inj.symm

theorem moved_static (h : g.Moved σ c c') : c.overload.isStatic = c'.overload.isStatic := by
  obtain ⟨i, rfl, rfl⟩ := h
  rfl

theorem paired_candidates_permute (g : Group) (σ : Equiv.Perm (Fin g.members.length)) :
    Candidate.Paired (g.Moved σ) g.candidates (g.permute σ).candidates := by
  constructor
  · intro c hc
    obtain ⟨j, rfl⟩ := mem_candidates_iff_get.mp hc
    refine ⟨⟨(σ.symm j).val, g.members.get j⟩, mem_candidates_permute_iff.mpr ⟨σ.symm j, ?_⟩,
      σ.symm j, ?_⟩ <;> simp
  · intro c' hc'
    obtain ⟨i, rfl⟩ := mem_candidates_permute_iff.mp hc'
    exact ⟨⟨(σ i).val, g.members.get (σ i)⟩, mem_candidates_iff_get.mpr ⟨σ i, rfl⟩, i, rfl, rfl⟩

theorem paired_statics_permute (g : Group) (σ : Equiv.Perm (Fin g.members.length)) :
    Candidate.Paired (g.Moved σ) g.statics (g.permute σ).statics :=
  (paired_candidates_permute g σ).filter moved_static

theorem length_statics_permute (g : Group) (σ : Equiv.Perm (Fin g.members.length)) :
    g.statics.length = (g.permute σ).statics.length := by
  have members : (g.permute σ).members.Perm g.members := by
    have := Equiv.Perm.ofFn_comp_perm σ g.members.get
    rwa [List.ofFn_get] at this
  have := (members.filter Overload.isStatic).length_eq
  rw [← map_overload_statics, ← map_overload_statics, List.length_map, List.length_map] at this
  exact this.symm

theorem relisted_unbeaten (T : ClassTable) (g : Group) (σ : Equiv.Perm (Fin g.members.length))
    (target : Signature) :
    g.Relisted σ (g.unbeaten T target) ((g.permute σ).unbeaten T target) := by
  refine ⟨?_, ?_, paired_unbeaten (paired_statics_permute g σ) (g.moved_pairing σ) target⟩
  · exact List.filter_sublist.trans (g.applicable_sublist T target)
  · exact List.filter_sublist.trans ((g.permute σ).applicable_sublist T target)

end Group

/-- **The order of the members does not matter.** Whatever the target and the strategy, a group with its
members in another order has the address that the group has, of the same member at the position it was
moved to, as the same handle and with the same conversion; or it is refused as the group is, and where
the address is ambiguous the same members are listed, in their new order. -/
theorem address_permuted (T : ClassTable) (strategy : Strategy) (g : Group)
    (σ : Equiv.Perm (Fin g.members.length)) (target : AddressTarget) :
    AddressesAgree (g.Moved σ) (g.Relisted σ) (g.address T strategy target)
      ((g.permute σ).address T strategy target) := by
  have names : g.name = (g.permute σ).name := rfl
  apply Group.addresses_agree names (g.moved_pairing σ) (g.paired_statics_permute σ)
    (g.length_statics_permute σ)
  · rintro _ _ ⟨i, rfl, rfl⟩
    rfl
  · exact g.relisted_unbeaten T σ

end CallHandle
