import CallHandle.Convention.Json

/-!
The JSON form of types and signatures. A signature is formed anew when it is read, so no reading
yields a signature that forming refuses.
-/

namespace CallHandle

namespace ParamMode

def names : List (String × ParamMode) :=
  [("Value", byValue), ("Ref", byRef), ("Out", byOut), ("In", byIn)]

def json : ParamMode → Json
  | byValue => .str "Value"
  | byRef => .str "Ref"
  | byOut => .str "Out"
  | byIn => .str "In"

def read (j : Json) : Except ReadError ParamMode :=
  j.readEnum names

end ParamMode

namespace ReturnMode

def names : List (String × ReturnMode) :=
  [("Value", byValue), ("Ref", byRef), ("RefReadonly", byReadonlyRef)]

def json : ReturnMode → Json
  | byValue => .str "Value"
  | byRef => .str "Ref"
  | byReadonlyRef => .str "RefReadonly"

def read (j : Json) : Except ReadError ReturnMode :=
  j.readEnum names

end ReturnMode

mutual

def Ty.json : Ty → Json
  | .con name => .obj [("Con", .obj [("name", .str name)])]
  | .ptr pointee => .obj [("Ptr", pointee.json)]
  | .voidPtr => .str "VoidPtr"
  | .handle s => .obj [("FnPtr", .obj [("signature", s.json)])]
  | .void => .str "Void"

def Param.json : Param → Json
  | ⟨ty, mode⟩ => .obj [("ty", ty.json), ("mode", mode.json)]

def Return.json : Return → Json
  | ⟨ty, mode⟩ => .obj [("ty", ty.json), ("mode", mode.json)]

def Signature.json : Signature → Json
  | ⟨params, ret, convention⟩ =>
    .obj [("params", .arr (Signature.jsonParams params)), ("ret", ret.json),
      ("convention", convention.json)]

def Signature.jsonParams : List Param → List Json
  | [] => []
  | param :: params => param.json :: Signature.jsonParams params

end

/-- The form of a signature as the content of a handle type. -/
def Signature.handleJson (s : Signature) : Json :=
  .obj [("signature", s.json)]

/-- The names of the kinds of types. -/
def Ty.variants : List String :=
  ["Con", "Ptr", "VoidPtr", "FnPtr", "Void"]

/-- The name inside a named type. -/
def Ty.readName (j : Json) : Except ReadError String :=
  j.record1 "TyCon" "name" fun p => p.1.readString

mutual

def Ty.read (j : Json) : Except ReadError Ty := do
  let (name, content?) ← j.variant
  match name with
  | "Con" => do
    let part ← Json.content content?
    return .con (← Ty.readName part.1)
  | "Ptr" => do
    let part ← Json.content content?
    return .ptr (← Ty.read part.1)
  | "VoidPtr" => do
    Json.readNothing content?
    return .voidPtr
  | "FnPtr" => do
    let part ← Json.content content?
    return .handle (← Signature.readHandle part.1)
  | "Void" => do
    Json.readNothing content?
    return .void
  | name => .error (.unknownVariant name Ty.variants)
termination_by sizeOf j
decreasing_by all_goals exact part.2

def Param.read (j : Json) : Except ReadError Param := do
  let (ty, mode) ← j.record2 "ParamDescriptor" "ty" "mode" (fun p => Ty.read p.1)
    fun p => ParamMode.read p.1
  return ⟨ty, mode⟩
termination_by sizeOf j
decreasing_by exact p.2

def Return.read (j : Json) : Except ReadError Return := do
  let (ty, mode) ← j.record2 "ReturnDescriptor" "ty" "mode" (fun p => Ty.read p.1)
    fun p => ReturnMode.read p.1
  return ⟨ty, mode⟩
termination_by sizeOf j
decreasing_by exact p.2

def Signature.read (j : Json) : Except ReadError Signature := do
  let (params, ret, convention) ← j.record3 "RawSignature" "params" "ret" "convention"
    (fun p => do (← p.1.items).mapM fun item => Param.read item.1)
    (fun p => Return.read p.1) fun p => Convention.read p.1
  (Signature.make params ret convention).mapError .formation
termination_by sizeOf j
decreasing_by
  · exact Nat.lt_trans item.2 p.2
  · exact p.2

/-- The signature inside a handle type. -/
def Signature.readHandle (j : Json) : Except ReadError Signature :=
  j.record1 "HandleType" "signature" fun p => Signature.read p.1
termination_by sizeOf j
decreasing_by exact p.2

end

end CallHandle
