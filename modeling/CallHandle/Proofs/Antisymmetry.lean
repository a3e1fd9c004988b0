import CallHandle.Proofs.ConversionOrder

namespace CallHandle

variable {T : ClassTable}

/-! ## Kinds of widening -/

namespace Widening

theorem identity_applies_iff {a b : Ty} : identity.applies T a b = true ↔ a = b := by
  cases a <;> simp [applies]

theorem reference_applies_iff {a b : Ty} :
    reference.applies T a b = true ↔ ∃ m n, a = .con m ∧ b = .con n ∧ T.Derives m n := by
  cases a <;> cases b <;> simp [applies, ClassTable.isSubclass_iff_derives]

/-- The pointer kind has the widenings of pointers and handles that the identity leaves. -/
theorem pointer_applies_iff {a b : Ty} :
    pointer.applies T a b = true ↔ a.isPointer = true ∧ a ≠ b ∧ a.widens T b = true := by
  cases a <;> cases b <;> simp [applies, Ty.isPointer, Ty.widens]

/-- Only a class above itself is two kinds of widening at once, an identity and a reference. -/
theorem kind_unique (hT : T.Acyclic) {k l : Widening} {a b : Ty} (hk : k.applies T a b = true)
    (hl : l.applies T a b = true) : k = l := by
  have not_reference (h : identity.applies T a b = true) :
      reference.applies T a b = false := by
    obtain rfl := identity_applies_iff.mp h
    rw [Bool.eq_false_iff]
    intro hr
    obtain ⟨m, n, rfl, hn, derives⟩ := reference_applies_iff.mp hr
    obtain rfl := Ty.con.inj hn
    exact hT m derives
  have not_pointer (h : identity.applies T a b = true ∨ reference.applies T a b = true) :
      pointer.applies T a b = false := by
    rw [Bool.eq_false_iff]
    intro hp
    obtain ⟨isPointer, differ, -⟩ := pointer_applies_iff.mp hp
    rcases h with h | h
    · exact differ (identity_applies_iff.mp h)
    · obtain ⟨m, n, rfl, -⟩ := reference_applies_iff.mp h
      cases isPointer
  cases k <;> cases l <;> simp_all

end Widening

theorem acyclic_iff_kind_unique :
    T.Acyclic ↔ ∀ (a b : Ty) (k l : Widening),
      k.applies T a b = true → l.applies T a b = true → k = l := by
  constructor
  · intro hT a b k l
    exact Widening.kind_unique hT
  · intro h name derives
    have identity := Widening.identity_applies_iff (T := T).mpr (rfl : Ty.con name = .con name)
    have reference := Widening.reference_applies_iff.mpr ⟨name, name, rfl, rfl, derives⟩
    cases h _ _ _ _ identity reference

/-! ## Conversions -/

theorem Signature.convert_self (T : ClassTable) (s : Signature) : s.convert T s = .ok .identity := by
  simp [Signature.convert]

/-- **Conversion both ways.** Without a cycle of classes two types that widen to each other are one type,
two handles that convert to each other are one handle and both conversions the identity, and no two
kinds of widening apply to the same types. -/
theorem conversion_antisymm (T : ClassTable) (hT : T.Acyclic) :
    (∀ a b : Ty, a.widens T b = true → b.widens T a = true → a = b) ∧
      (∀ s t : Signature, (s.convert T t).isOk = true → (t.convert T s).isOk = true →
        s = t ∧ s.convert T t = .ok .identity ∧ t.convert T s = .ok .identity) ∧
      ∀ (a b : Ty) (k l : Widening),
        k.applies T a b = true → l.applies T a b = true → k = l := by
  refine ⟨fun a b => Ty.widens_antisymm hT, ?_, acyclic_iff_kind_unique.mp hT⟩
  intro s t hst hts
  rw [Signature.isOk_convert] at hst hts
  obtain rfl := Signature.widens_antisymm hT hst hts
  exact ⟨rfl, s.convert_self T, s.convert_self T⟩

/-- A handle that takes a visitor of dogs converts to one that takes a visitor of animals, so it does not
convert back, and a dog is an object as a reference alone. -/
theorem conversion_of_visitors_one_way :
    let T := (ClassTable.standard.register "Dog" "Animal").register "Animal" "object"
    let taking (first : Ty) : Signature := ⟨[⟨first, .byValue⟩], ⟨.void, .byValue⟩, .managed⟩
    let s := taking (.handle (taking (.con "Dog")))
    let t := taking (.handle (taking (.con "Animal")))
    T.Acyclic ∧ (s.convert T t).isOk = true ∧ (t.convert T s).isOk = false ∧
      Widening.reference.applies T (.con "Dog") (.con "object") = true ∧
      ∀ k : Widening, k.applies T (.con "Dog") (.con "object") = true → k = .reference := by
  intro T taking s t
  have acyclic : T.Acyclic := by decide +kernel
  have forth : (s.convert T t).isOk = true := by decide +kernel
  have up : Widening.reference.applies T (.con "Dog") (.con "object") = true := by decide +kernel
  obtain ⟨-, bothWays, kinds⟩ := conversion_antisymm T acyclic
  refine ⟨acyclic, forth, ?_, up, fun k hk => kinds _ _ k .reference hk up⟩
  rw [Bool.eq_false_iff]
  intro back
  exact absurd (bothWays s t forth back).1 (by decide +kernel)

end CallHandle
