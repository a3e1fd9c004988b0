import CallHandle.Stored.Load

/-!
The rules of stored signatures, as the list of all that a signature breaks: its own byte, then each
parameter and the return, the markers before what is inside the type, then the places where `void`
may not stand. Loading stops at the first.
-/

namespace CallHandle

/-- The bytes a registry knows: those of the built-in conventions, and one for each extension from
the first byte of their range on. -/
def Registry.knows (r : Registry) (code : UInt8) : Bool :=
  [0, 1, 2, 3, 9].contains code.toNat ||
    (Extension.firstCode.toNat ≤ code.toNat &&
      code.toNat < Extension.firstCode.toNat + r.extensions.length)

namespace StoredDescriptor

/-- What is wrong with the markers of a parameter. -/
def paramViolations (index : Nat) (d : StoredDescriptor) : List StorageError :=
  if d.requires .readOnly && d.requires .output then
    [.conflictingMarkers (.parameter index)]
  else if (d.requires .readOnly || d.requires .output) && !d.byRef then
    [.markedValue (.parameter index)]
  else
    []

/-- What is wrong with the markers of a return. -/
def returnViolations (d : StoredDescriptor) : List StorageError :=
  if d.requires .readOnly && d.requires .output then
    [.conflictingMarkers .result]
  else if d.requires .output then
    [.outputReturn]
  else if d.requires .readOnly && !d.byRef then
    [.markedValue .result]
  else
    []

/-- Whether nothing is stored. -/
def isVoid (d : StoredDescriptor) : Bool :=
  d.ty == .void

end StoredDescriptor

namespace StoredSignature

/-- The `void` parameters in order, and a return that is a reference to `void`. -/
def voidViolations (s : StoredSignature) : List FormationError :=
  ((s.params.zipIdx.filter fun (d, _) => d.isVoid).map fun (_, index) => .voidParameter index) ++
    if s.ret.isVoid && s.ret.byRef then [.voidByReference] else []

end StoredSignature

mutual

def StoredTy.violations (r : Registry) : StoredTy → List LoadError
  | .ptr pointee => pointee.violations r
  | .handle s => s.violations r
  | .named _ | .voidPtr | .void => []

def StoredDescriptor.violations (r : Registry) (own : List StorageError) :
    StoredDescriptor → List LoadError
  | ⟨ty, _, _⟩ => own.map .storage ++ ty.violations r

def StoredSignature.violations (r : Registry) : StoredSignature → List LoadError
  | ⟨code, params, ret⟩ =>
    (if r.knows code then [] else [.storage (.unknownConvention code)]) ++
      StoredSignature.violationsIn r 0 params ++
      ret.violations r ret.returnViolations ++
      (StoredSignature.voidViolations ⟨code, params, ret⟩).map .formation

def StoredSignature.violationsIn (r : Registry) (index : Nat) : List StoredDescriptor →
    List LoadError
  | [] => []
  | d :: ds => d.violations r (d.paramViolations index) ++
    StoredSignature.violationsIn r (index + 1) ds

end

end CallHandle
