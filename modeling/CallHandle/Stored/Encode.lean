import CallHandle.Signature
import CallHandle.Stored

/-!
Storing signatures. A mode is stored as the reference flag and at most one required marker, and
handles nested in a signature are stored the same way.
-/

namespace CallHandle

/-- The marker that tells a parameter's mode from a plain reference. -/
def ParamMode.marker? : ParamMode → Option Marker
  | byValue | byRef => none
  | byIn => some .readOnly
  | byOut => some .output

def ReturnMode.marker? : ReturnMode → Option Marker
  | byValue | byRef => none
  | byReadonlyRef => some .readOnly

/-- The modifier list that holds a required marker and nothing else. -/
def Marker.modifiers (marker? : Option Marker) : List Modifier :=
  marker?.toList.map fun marker => ⟨marker, true⟩

mutual

def Ty.store : Ty → StoredTy
  | .con name => .named name
  | .ptr pointee => .ptr pointee.store
  | .voidPtr => .voidPtr
  | .handle s => .handle s.store
  | .void => .void

def Param.store : Param → StoredDescriptor
  | ⟨ty, mode⟩ => ⟨ty.store, mode.isByRef, Marker.modifiers mode.marker?⟩

def Return.store : Return → StoredDescriptor
  | ⟨ty, mode⟩ => ⟨ty.store, mode.isByRef, Marker.modifiers mode.marker?⟩

def Signature.store : Signature → StoredSignature
  | ⟨params, ret, convention⟩ => ⟨convention.code, Signature.storeParams params, ret.store⟩

def Signature.storeParams : List Param → List StoredDescriptor
  | [] => []
  | param :: params => param.store :: Signature.storeParams params

end

theorem Param.store_eq (p : Param) :
    p.store = ⟨p.ty.store, p.mode.isByRef, Marker.modifiers p.mode.marker?⟩ := by
  cases p
  rfl

theorem Return.store_eq (ret : Return) :
    ret.store = ⟨ret.ty.store, ret.mode.isByRef, Marker.modifiers ret.mode.marker?⟩ := by
  cases ret
  rfl

theorem Signature.storeParams_eq_map (params : List Param) :
    Signature.storeParams params = params.map Param.store := by
  induction params with
  | nil => rfl
  | cons p ps ih => simp [Signature.storeParams, ih]

theorem Signature.store_eq (s : Signature) :
    s.store = ⟨s.convention.code, s.params.map Param.store, s.ret.store⟩ := by
  rw [← Signature.storeParams_eq_map]
  cases s
  rfl

end CallHandle
