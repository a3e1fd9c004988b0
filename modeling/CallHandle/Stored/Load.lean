import CallHandle.Convention.Registry
import CallHandle.Signature.Formation
import CallHandle.Stored

/-!
Loading stored signatures. The convention's byte is looked up first, then each descriptor is read
in order, its markers before its type, and last the signature is formed, at every depth alike.
-/

namespace CallHandle

/-- What a stored signature gets wrong as such. -/
inductive StorageError where
  /-- A return carries the output marker. -/
  | outputReturn
  /-- A descriptor carries both markers. -/
  | conflictingMarkers (position : Position)
  /-- A descriptor that is no reference carries a marker. -/
  | markedValue (position : Position)
  /-- No known convention has the byte. -/
  | unknownConvention (code : UInt8)
  deriving DecidableEq

def StorageError.message : StorageError → String
  | outputReturn => "output marker is not allowed on the return type"
  | conflictingMarkers position => "conflicting read-only and output markers on " ++ position.text
  | markedValue position => "passing-mode marker on by-value " ++ position.text
  | unknownConvention code => "unknown calling convention byte " ++ Byte.hex code

/-- Why a stored signature is refused: it is stored wrong, or its descriptors do not form a
signature. -/
inductive LoadError where
  | storage (error : StorageError)
  | formation (error : FormationError)
  deriving DecidableEq

namespace StoredDescriptor

/-- The mode that the markers of a parameter spell. -/
def paramMode (index : Nat) (d : StoredDescriptor) : Except StorageError ParamMode :=
  match d.requires .readOnly, d.requires .output, d.byRef with
  | true, true, _ => .error (.conflictingMarkers (.parameter index))
  | false, false, false => .ok .byValue
  | _, _, false => .error (.markedValue (.parameter index))
  | false, false, true => .ok .byRef
  | true, false, true => .ok .byIn
  | false, true, true => .ok .byOut

/-- The mode that the markers of a return spell. -/
def returnMode (d : StoredDescriptor) : Except StorageError ReturnMode :=
  match d.requires .readOnly, d.requires .output, d.byRef with
  | true, true, _ => .error (.conflictingMarkers .result)
  | false, true, _ => .error .outputReturn
  | false, false, false => .ok .byValue
  | true, false, false => .error (.markedValue .result)
  | false, false, true => .ok .byRef
  | true, false, true => .ok .byReadonlyRef

end StoredDescriptor

/-- The convention of a stored byte. -/
def Registry.load (r : Registry) (code : UInt8) : Except StorageError Convention :=
  match r.ofCode? code with
  | some convention => .ok convention
  | none => .error (.unknownConvention code)

mutual

def StoredTy.load (r : Registry) : StoredTy → Except LoadError Ty
  | .named name => .ok (.con name)
  | .ptr pointee => do return .ptr (← pointee.load r)
  | .voidPtr => .ok .voidPtr
  | .handle s => do return .handle (← s.load r)
  | .void => .ok .void

def StoredDescriptor.loadParam (r : Registry) (index : Nat) : StoredDescriptor →
    Except LoadError Param
  | ⟨ty, byRef, modifiers⟩ => do
    let mode ← (StoredDescriptor.paramMode index ⟨ty, byRef, modifiers⟩).mapError .storage
    return ⟨← ty.load r, mode⟩

def StoredDescriptor.loadReturn (r : Registry) : StoredDescriptor → Except LoadError Return
  | ⟨ty, byRef, modifiers⟩ => do
    let mode ← (StoredDescriptor.returnMode ⟨ty, byRef, modifiers⟩).mapError .storage
    return ⟨← ty.load r, mode⟩

def StoredSignature.load (r : Registry) : StoredSignature → Except LoadError Signature
  | ⟨code, params, ret⟩ => do
    let convention ← (r.load code).mapError .storage
    let params ← StoredSignature.loadParams r 0 params
    let ret ← ret.loadReturn r
    (Signature.make params ret convention).mapError .formation

/-- Parameters in order, the first at position `index`. -/
def StoredSignature.loadParams (r : Registry) (index : Nat) : List StoredDescriptor →
    Except LoadError (List Param)
  | [] => .ok []
  | d :: ds => do
    let param ← d.loadParam r index
    return param :: (← StoredSignature.loadParams r (index + 1) ds)

end

end CallHandle
