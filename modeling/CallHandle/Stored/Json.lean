import CallHandle.Json.Read
import CallHandle.Stored

/-!
The JSON form of stored signatures.
-/

namespace CallHandle

namespace Marker

def names : List (String × Marker) :=
  [("ReadOnly", readOnly), ("Output", output)]

def json : Marker → Json
  | readOnly => .str "ReadOnly"
  | output => .str "Output"

def read (j : Json) : Except ReadError Marker :=
  j.readEnum names

end Marker

namespace Modifier

def json (m : Modifier) : Json :=
  .obj [("marker", m.marker.json), ("required", .bool m.required)]

def read (j : Json) : Except ReadError Modifier := do
  let (marker, required) ← j.record2 "CustomModifier" "marker" "required"
    (fun p => Marker.read p.1) fun p => p.1.readBool
  return ⟨marker, required⟩

end Modifier

mutual

def StoredTy.json : StoredTy → Json
  | .named name => .obj [("Named", .str name)]
  | .ptr pointee => .obj [("Ptr", pointee.json)]
  | .voidPtr => .str "VoidPtr"
  | .handle s => .obj [("FnPtr", s.json)]
  | .void => .str "Void"

def StoredDescriptor.json : StoredDescriptor → Json
  | ⟨ty, byRef, modifiers⟩ =>
    .obj [("ty", ty.json), ("by_ref", .bool byRef),
      ("modifiers", .arr (modifiers.map Modifier.json))]

def StoredSignature.json : StoredSignature → Json
  | ⟨convention, params, ret⟩ =>
    .obj [("convention", .int convention.toNat),
      ("params", .arr (StoredSignature.jsonParams params)), ("ret", ret.json)]

def StoredSignature.jsonParams : List StoredDescriptor → List Json
  | [] => []
  | param :: params => param.json :: StoredSignature.jsonParams params

end

/-- The names of the kinds of stored types. -/
def StoredTy.variants : List String :=
  ["Named", "Ptr", "VoidPtr", "FnPtr", "Void"]

mutual

def StoredTy.read (j : Json) : Except ReadError StoredTy := do
  let (name, content?) ← j.variant
  match name with
  | "Named" => do
    let part ← Json.content content?
    return .named (← part.1.readString)
  | "Ptr" => do
    let part ← Json.content content?
    return .ptr (← StoredTy.read part.1)
  | "VoidPtr" => do
    Json.readNothing content?
    return .voidPtr
  | "FnPtr" => do
    let part ← Json.content content?
    return .handle (← StoredSignature.read part.1)
  | "Void" => do
    Json.readNothing content?
    return .void
  | name => .error (.unknownVariant name StoredTy.variants)
termination_by sizeOf j
decreasing_by all_goals exact part.2

def StoredDescriptor.read (j : Json) : Except ReadError StoredDescriptor := do
  let (ty, byRef, modifiers) ← j.record3 "EncodedDescriptor" "ty" "by_ref" "modifiers"
    (fun p => StoredTy.read p.1) (fun p => p.1.readBool)
    fun p => do (← p.1.items).mapM fun item => Modifier.read item.1
  return ⟨ty, byRef, modifiers⟩
termination_by sizeOf j
decreasing_by exact p.2

def StoredSignature.read (j : Json) : Except ReadError StoredSignature := do
  let (convention, params, ret) ← j.record3 "EncodedSignature" "convention" "params" "ret"
    (fun p => p.1.readByte)
    (fun p => do (← p.1.items).mapM fun item => StoredDescriptor.read item.1)
    fun p => StoredDescriptor.read p.1
  return ⟨convention, params, ret⟩
termination_by sizeOf j
decreasing_by
  · exact Nat.lt_trans item.2 p.2
  · exact p.2

end

end CallHandle
