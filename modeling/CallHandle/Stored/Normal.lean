import CallHandle.Stored

/-!
The normal form of stored signatures. What binds in a descriptor's modifiers is which markers are
required, so the normal form has each required marker once and nothing that is optional. Two stored
signatures with one normal form mean the same.
-/

namespace CallHandle

/-- Each required marker once. -/
def StoredDescriptor.binding (d : StoredDescriptor) : List Modifier :=
  ([.readOnly, .output].filter d.requires).map fun marker => ⟨marker, true⟩

mutual

def StoredTy.normalize : StoredTy → StoredTy
  | .named name => .named name
  | .ptr pointee => .ptr pointee.normalize
  | .voidPtr => .voidPtr
  | .handle s => .handle s.normalize
  | .void => .void

def StoredDescriptor.normalize : StoredDescriptor → StoredDescriptor
  | ⟨ty, byRef, modifiers⟩ =>
    ⟨ty.normalize, byRef, StoredDescriptor.binding ⟨ty, byRef, modifiers⟩⟩

def StoredSignature.normalize : StoredSignature → StoredSignature
  | ⟨convention, params, ret⟩ =>
    ⟨convention, StoredSignature.normalizeParams params, ret.normalize⟩

def StoredSignature.normalizeParams : List StoredDescriptor → List StoredDescriptor
  | [] => []
  | d :: ds => d.normalize :: StoredSignature.normalizeParams ds

end

theorem StoredSignature.normalizeParams_eq_map (ds : List StoredDescriptor) :
    StoredSignature.normalizeParams ds = ds.map StoredDescriptor.normalize := by
  induction ds with
  | nil => rfl
  | cons d ds ih => simp [StoredSignature.normalizeParams, ih]

/-- A marker is required in the normal form when it is required at all. -/
theorem StoredDescriptor.requires_normalize (d : StoredDescriptor) (marker : Marker) :
    d.normalize.requires marker = d.requires marker := by
  have once (f : Marker → Bool) :
      ((([.readOnly, .output].filter f).map fun m => (⟨m, true⟩ : Modifier)).any
        fun m => m.required && m.marker == marker) = f marker := by
    cases hr : f .readOnly <;> cases ho : f .output <;> cases marker <;>
      simp [hr, ho]
  obtain ⟨ty, byRef, modifiers⟩ := d
  exact once (StoredDescriptor.requires ⟨ty, byRef, modifiers⟩)

end CallHandle
