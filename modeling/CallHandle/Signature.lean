import CallHandle.Convention
import CallHandle.Passing

/-!
Descriptor types and signatures. A handle type is a signature used as a type, so types and
signatures nest in each other to any depth. Equality compares every descriptor and every
convention, and is decidable.
-/

namespace CallHandle

mutual

/-- A descriptor type. Named types are told apart by name alone. -/
inductive Ty where
  /-- A named type, such as `int` or a class. -/
  | con (name : String)
  /-- A data pointer. -/
  | ptr (pointee : Ty)
  /-- The untyped pointer. -/
  | voidPtr
  /-- A call handle. -/
  | handle (signature : Signature)
  /-- No value at all. -/
  | void

/-- A parameter: its type and how it is passed. -/
structure Param where
  ty : Ty
  mode : ParamMode

/-- A result: its type and how it is returned. -/
structure Return where
  ty : Ty
  mode : ReturnMode

/-- The shape of a callable. -/
structure Signature where
  params : List Param
  ret : Return
  convention : Convention

end

mutual

def Ty.decEq : (a b : Ty) → Decidable (a = b)
  | .con m, .con n => decidable_of_iff (m = n) (by simp)
  | .ptr a, .ptr b =>
    match a.decEq b with
    | .isTrue h => .isTrue (by rw [h])
    | .isFalse h => .isFalse (by simp [h])
  | .voidPtr, .voidPtr => .isTrue rfl
  | .handle s, .handle t =>
    match s.decEq t with
    | .isTrue h => .isTrue (by rw [h])
    | .isFalse h => .isFalse (by simp [h])
  | .void, .void => .isTrue rfl
  | .con _, .ptr _ | .con _, .voidPtr | .con _, .handle _ | .con _, .void
  | .ptr _, .con _ | .ptr _, .voidPtr | .ptr _, .handle _ | .ptr _, .void
  | .voidPtr, .con _ | .voidPtr, .ptr _ | .voidPtr, .handle _ | .voidPtr, .void
  | .handle _, .con _ | .handle _, .ptr _ | .handle _, .voidPtr | .handle _, .void
  | .void, .con _ | .void, .ptr _ | .void, .voidPtr | .void, .handle _ => .isFalse (by simp)

def Param.decEq : (a b : Param) → Decidable (a = b)
  | ⟨t, m⟩, ⟨u, n⟩ =>
    match t.decEq u with
    | .isTrue h => decidable_of_iff (m = n) (by simp [h])
    | .isFalse h => .isFalse (by simp [h])

def Return.decEq : (a b : Return) → Decidable (a = b)
  | ⟨t, m⟩, ⟨u, n⟩ =>
    match t.decEq u with
    | .isTrue h => decidable_of_iff (m = n) (by simp [h])
    | .isFalse h => .isFalse (by simp [h])

def Signature.decEq : (a b : Signature) → Decidable (a = b)
  | ⟨ps, r, c⟩, ⟨qs, q, d⟩ =>
    match Signature.decEqParams ps qs with
    | .isFalse h => .isFalse (by simp [h])
    | .isTrue hp =>
      match r.decEq q with
      | .isFalse h => .isFalse (by simp [h])
      | .isTrue hr => decidable_of_iff (c = d) (by simp [hp, hr])

def Signature.decEqParams : (ps qs : List Param) → Decidable (ps = qs)
  | [], [] => .isTrue rfl
  | [], _ :: _ | _ :: _, [] => .isFalse (by simp)
  | p :: ps, q :: qs =>
    match p.decEq q with
    | .isFalse h => .isFalse (by simp [h])
    | .isTrue hp =>
      match Signature.decEqParams ps qs with
      | .isFalse h => .isFalse (by simp [h])
      | .isTrue hs => .isTrue (by rw [hp, hs])

end

instance : DecidableEq Ty := Ty.decEq

instance : DecidableEq Param := Param.decEq

instance : DecidableEq Return := Return.decEq

instance : DecidableEq Signature := Signature.decEq

namespace Ty

def isVoid : Ty → Bool
  | void => true
  | _ => false

/-- Data pointers, the untyped pointer and handles are pointers. -/
def isPointer : Ty → Bool
  | ptr _ | voidPtr | handle _ => true
  | con _ | void => false

/-- Whether the type is a handle, directly or behind data pointers. -/
def containsHandle : Ty → Bool
  | handle _ => true
  | ptr pointee => pointee.containsHandle
  | con _ | voidPtr | void => false

end Ty

mutual

/-- Every signature that occurs in a type, outermost first. -/
def Ty.signatures : Ty → List Signature
  | .ptr pointee => pointee.signatures
  | .handle s => s.signatures
  | .con _ | .voidPtr | .void => []

def Param.signatures : Param → List Signature
  | ⟨ty, _⟩ => ty.signatures

def Return.signatures : Return → List Signature
  | ⟨ty, _⟩ => ty.signatures

/-- A signature and every signature nested in it: itself, then those in its parameters in order,
then those in its return. -/
def Signature.signatures : Signature → List Signature
  | ⟨params, ret, convention⟩ =>
    ⟨params, ret, convention⟩ :: (Signature.signaturesIn params ++ ret.signatures)

def Signature.signaturesIn : List Param → List Signature
  | [] => []
  | param :: params => param.signatures ++ Signature.signaturesIn params

end

namespace Signature

theorem signaturesIn_eq_flatMap (params : List Param) :
    signaturesIn params = params.flatMap Param.signatures := by
  induction params with
  | nil => rfl
  | cons p ps ih => simp [signaturesIn, ih]

/-- The conventions of a signature and of every signature nested in it. -/
def conventions (s : Signature) : List Convention :=
  s.signatures.map Signature.convention

/-- Whether two signatures agree part by part: in how many parameters they have and in each parameter at
its position, in the return and in the convention. -/
def agrees (s t : Signature) : Bool :=
  s.params.length == t.params.length && (s.params.zip t.params).all (fun (p, q) => p == q) &&
    s.ret == t.ret && s.convention == t.convention

/-- The same shape under another convention. -/
def withConvention (s : Signature) (convention : Convention) : Signature :=
  { s with convention }

end Signature

end CallHandle
