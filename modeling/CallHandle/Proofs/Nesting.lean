import CallHandle.Signature

namespace CallHandle

attribute [ext] Param Return Signature

theorem Signature.sizeOf_param_lt {s : Signature} {p : Param} (hp : p ∈ s.params) :
    sizeOf p.ty < sizeOf (Ty.handle s) := by
  obtain ⟨params, ret, convention⟩ := s
  obtain ⟨ty, mode⟩ := p
  have := List.sizeOf_lt_of_mem hp
  simp only [Param.mk.sizeOf_spec, Ty.handle.sizeOf_spec, Signature.mk.sizeOf_spec] at this ⊢
  omega

theorem Signature.sizeOf_ret_lt (s : Signature) : sizeOf s.ret.ty < sizeOf (Ty.handle s) := by
  obtain ⟨params, ⟨ty, mode⟩, convention⟩ := s
  simp only [Return.mk.sizeOf_spec, Ty.handle.sizeOf_spec, Signature.mk.sizeOf_spec]
  omega

@[elab_as_elim, induction_eliminator]
theorem Ty.nested {motive : Ty → Prop} (con : ∀ name, motive (.con name))
    (ptr : ∀ pointee, motive pointee → motive (.ptr pointee)) (voidPtr : motive .voidPtr)
    (handle : ∀ s : Signature, (∀ p ∈ s.params, motive p.ty) → motive s.ret.ty →
      motive (.handle s))
    (void : motive .void) : ∀ t, motive t
  | .con name => con name
  | .ptr pointee => ptr pointee (nested con ptr voidPtr handle void pointee)
  | .voidPtr => voidPtr
  | .handle s =>
    handle s (fun p _ => nested con ptr voidPtr handle void p.ty)
      (nested con ptr voidPtr handle void s.ret.ty)
  | .void => void
termination_by t => sizeOf t
decreasing_by
  · simp
  · exact Signature.sizeOf_param_lt ‹_›
  · exact Signature.sizeOf_ret_lt s

end CallHandle
