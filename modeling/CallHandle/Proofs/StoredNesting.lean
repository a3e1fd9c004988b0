import CallHandle.Stored.Normal

namespace CallHandle

theorem StoredSignature.sizeOf_param_lt {s : StoredSignature} {d : StoredDescriptor}
    (hd : d ∈ s.params) : sizeOf d.ty < sizeOf (StoredTy.handle s) := by
  obtain ⟨convention, params, ret⟩ := s
  obtain ⟨ty, byRef, modifiers⟩ := d
  have := List.sizeOf_lt_of_mem hd
  simp only [StoredDescriptor.mk.sizeOf_spec, StoredTy.handle.sizeOf_spec,
    StoredSignature.mk.sizeOf_spec] at this ⊢
  omega

theorem StoredSignature.sizeOf_ret_lt (s : StoredSignature) :
    sizeOf s.ret.ty < sizeOf (StoredTy.handle s) := by
  obtain ⟨convention, params, ⟨ty, byRef, modifiers⟩⟩ := s
  simp only [StoredDescriptor.mk.sizeOf_spec, StoredTy.handle.sizeOf_spec,
    StoredSignature.mk.sizeOf_spec]
  omega

@[elab_as_elim, induction_eliminator]
theorem StoredTy.nested {motive : StoredTy → Prop} (named : ∀ name, motive (.named name))
    (ptr : ∀ pointee, motive pointee → motive (.ptr pointee)) (voidPtr : motive .voidPtr)
    (handle : ∀ s : StoredSignature, (∀ d ∈ s.params, motive d.ty) → motive s.ret.ty →
      motive (.handle s))
    (void : motive .void) : ∀ t, motive t
  | .named name => named name
  | .ptr pointee => ptr pointee (nested named ptr voidPtr handle void pointee)
  | .voidPtr => voidPtr
  | .handle s =>
    handle s (fun d _ => nested named ptr voidPtr handle void d.ty)
      (nested named ptr voidPtr handle void s.ret.ty)
  | .void => void
termination_by t => sizeOf t
decreasing_by
  · simp
  · exact StoredSignature.sizeOf_param_lt ‹_›
  · exact StoredSignature.sizeOf_ret_lt s

/-! ## The signatures inside -/

theorem StoredDescriptor.signatures_eq : StoredDescriptor.signatures = fun d => d.ty.signatures := by
  funext d
  cases d
  rfl

theorem StoredSignature.signatures_eq (s : StoredSignature) :
    s.signatures = s :: (s.params.flatMap fun d => d.ty.signatures) ++ s.ret.ty.signatures := by
  obtain ⟨convention, params, ⟨ty, byRef, modifiers⟩⟩ := s
  simp only [StoredSignature.signatures, StoredSignature.signaturesIn_eq_flatMap,
    StoredDescriptor.signatures_eq, List.cons_append]

/-- A property of all signatures inside a stored handle is one of its own signature, of those in the
parameters and of those in the return. -/
theorem StoredSignature.forall_signatures {P : StoredSignature → Prop} {s : StoredSignature} :
    (∀ t ∈ s.signatures, P t) ↔
      P s ∧ (∀ d ∈ s.params, ∀ t ∈ d.ty.signatures, P t) ∧ ∀ t ∈ s.ret.ty.signatures, P t := by
  simp only [s.signatures_eq, List.cons_append, List.mem_cons, List.mem_append, List.mem_flatMap]
  constructor
  · intro h
    exact ⟨h s (.inl rfl), fun d hd t ht => h t (.inr (.inl ⟨d, hd, ht⟩)),
      fun t ht => h t (.inr (.inr ht))⟩
  · rintro ⟨own, params, ret⟩ t (rfl | ⟨d, hd, ht⟩ | ht)
    · exact own
    · exact params d hd t ht
    · exact ret t ht

/-! ## The normal form -/

theorem StoredDescriptor.normalize_eq (d : StoredDescriptor) :
    d.normalize = ⟨d.ty.normalize, d.byRef, d.binding⟩ := by
  cases d
  rfl

theorem StoredSignature.normalize_eq (s : StoredSignature) :
    s.normalize = ⟨s.convention, s.params.map StoredDescriptor.normalize, s.ret.normalize⟩ := by
  rw [← StoredSignature.normalizeParams_eq_map]
  cases s
  rfl

end CallHandle
