import CallHandle.Signature

/-!
The written form of types and signatures. A signature is written with its parameters and then its
return between angle brackets, after its convention unless that is the managed one.
-/

namespace CallHandle

mutual

def Ty.text : Ty → String
  | .con name => name
  | .ptr pointee => pointee.text ++ "*"
  | .voidPtr => "void*"
  | .handle s => s.text
  | .void => "void"

/-- A parameter is its type, after its keyword if its mode has one. -/
def Param.text : Param → String
  | ⟨ty, mode⟩ =>
    match mode.keyword? with
    | some keyword => keyword ++ " " ++ ty.text
    | none => ty.text

def Return.text : Return → String
  | ⟨ty, mode⟩ =>
    match mode.keyword? with
    | some keyword => keyword ++ " " ++ ty.text
    | none => ty.text

def Signature.text : Signature → String
  | ⟨params, ret, convention⟩ =>
    Signature.opening convention ++ Signature.textOf params ++ ret.text ++ ">"

/-- Every parameter is followed by a comma, because the return comes after it. -/
def Signature.textOf : List Param → String
  | [] => ""
  | param :: params => param.text ++ ", " ++ Signature.textOf params

/-- What stands before the descriptors. -/
def Signature.opening : Convention → String
  | .managed => "delegate*<"
  | convention => "delegate* " ++ convention.text ++ "<"

end

end CallHandle
