import CallHandle.Signature

/-!
Changing the conventions of a type at every depth, which leaves all else as it is.
-/

namespace CallHandle

mutual

def Ty.relabel (f : Convention → Convention) : Ty → Ty
  | .con name => .con name
  | .ptr pointee => .ptr (pointee.relabel f)
  | .voidPtr => .voidPtr
  | .handle s => .handle (s.relabel f)
  | .void => .void

def Param.relabel (f : Convention → Convention) : Param → Param
  | ⟨ty, mode⟩ => ⟨ty.relabel f, mode⟩

def Return.relabel (f : Convention → Convention) : Return → Return
  | ⟨ty, mode⟩ => ⟨ty.relabel f, mode⟩

def Signature.relabel (f : Convention → Convention) : Signature → Signature
  | ⟨params, ret, convention⟩ =>
    ⟨Signature.relabelParams f params, ret.relabel f, f convention⟩

def Signature.relabelParams (f : Convention → Convention) : List Param → List Param
  | [] => []
  | param :: params => param.relabel f :: Signature.relabelParams f params

end

theorem Signature.relabelParams_eq_map (f : Convention → Convention) (params : List Param) :
    Signature.relabelParams f params = params.map (Param.relabel f) := by
  induction params with
  | nil => rfl
  | cons p ps ih => simp [Signature.relabelParams, ih]

/-- The convention without the spelling of its name. Its byte stays. -/
def Convention.nameless : Convention → Convention
  | extension tag => extension { tag with name := "" }
  | convention => convention

/-- What is left of a signature when no convention in it is told from another. -/
def Signature.shape (s : Signature) : Signature :=
  s.relabel fun _ => .managed

end CallHandle
