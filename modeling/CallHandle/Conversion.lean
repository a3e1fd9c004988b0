import CallHandle.Signature.Text
import CallHandle.Widening

/-!
Conversions between handles and `void*`. A handle goes to `void*` by itself, and back only by a
cast. Between two handles the rules of widening are checked one after another, and the first that
fails is the answer. A cast relaxes none of them.
-/

namespace CallHandle

/-- The kind of an accepted conversion. -/
inductive Conversion where
  | identity
  | handleToHandle
  | handleToUntyped
  | untypedToHandle
  | untypedIdentity
  deriving DecidableEq

/-- The first rule that a conversion breaks. -/
inductive Mismatch where
  /-- `void*` becomes a handle only by a cast. -/
  | castRequired (target : Signature)
  | parameterCount (source target : Nat)
  | mode (index : Nat) (source target : ParamMode)
  | type (index : Nat) (source target : Ty)
  | result (source target : Return)
  | convention (source target : Convention)
  deriving DecidableEq

def Mismatch.message : Mismatch → String
  | castRequired target =>
    "cannot implicitly convert `void*` to `" ++ target.text ++ "`; an explicit cast is required"
  | parameterCount source target =>
    "parameter count mismatch: source has " ++ source.repr ++ ", target has " ++ target.repr
  | mode index source target =>
    "parameter " ++ (index + 1).repr ++ " passing mode mismatch: source is `" ++ source.text ++
      "`, target is `" ++ target.text ++ "`"
  | type index source target =>
    "parameter " ++ (index + 1).repr ++ " type mismatch: `" ++ source.text ++
      "` does not convert to `" ++ target.text ++ "`"
  | result source target =>
    "return type mismatch: source returns `" ++ source.text ++ "`, target returns `" ++
      target.text ++ "`"
  | convention source target =>
    "calling convention mismatch: `" ++ source.text ++ "` vs `" ++ target.text ++ "`"

namespace Signature

def countMismatch? (s t : Signature) : Option Mismatch :=
  if s.params.length = t.params.length then
    none
  else
    some (.parameterCount s.params.length t.params.length)

/-- Parameters at equal positions, each pair with its position. -/
def paired (s t : Signature) : List ((Param × Param) × Nat) :=
  (s.params.zip t.params).zipIdx

def modeMismatch? (s t : Signature) : Option Mismatch :=
  (s.paired t).findSome? fun ((p, q), index) =>
    if p.mode = q.mode then none else some (.mode index p.mode q.mode)

/-- The modes are taken to agree: a value has to widen and a reference to keep its type. -/
def typeMismatch? (T : ClassTable) (s t : Signature) : Option Mismatch :=
  (s.paired t).findSome? fun ((p, q), index) =>
    if if p.mode.isByRef then p.ty == q.ty else p.ty.widens T q.ty then
      none
    else
      some (.type index p.ty q.ty)

/-- What the target promises to return has to satisfy what the source returns, so returns are
compared from target to source. -/
def resultMismatch? (T : ClassTable) (s t : Signature) : Option Mismatch :=
  if t.ret.widens T s.ret then none else some (.result s.ret t.ret)

def conventionMismatch? (s t : Signature) : Option Mismatch :=
  if s.convention.compatible t.convention then
    none
  else
    some (.convention s.convention t.convention)

/-- The first rule that keeps one handle from converting to another. -/
def mismatch? (T : ClassTable) (s t : Signature) : Option Mismatch :=
  s.countMismatch? t <|> s.modeMismatch? t <|> s.typeMismatch? T t <|> s.resultMismatch? T t <|>
    s.conventionMismatch? t

/-- The conversion from one handle to another. -/
def convert (T : ClassTable) (s t : Signature) : Except Mismatch Conversion :=
  if s = t then
    .ok .identity
  else
    match s.mismatch? T t with
    | none => .ok .handleToHandle
    | some mismatch => .error mismatch

end Signature

/-- Whether a cast is written. -/
inductive Direction where
  | implicit
  | explicit
  deriving DecidableEq

/-- One side of a pointer conversion. -/
inductive Operand where
  | handle (signature : Signature)
  | untyped
  deriving DecidableEq

namespace Operand

/-- Handles and `void*` take part in pointer conversions, and no other type does. -/
def ofTy? : Ty → Option Operand
  | .handle s => some (handle s)
  | .voidPtr => some untyped
  | .con _ | .ptr _ | .void => none

def text : Operand → String
  | handle s => s.text
  | untyped => "void*"

/-- The conversion between two operands, or the rule against it. -/
def convert (T : ClassTable) : (source target : Operand) → Direction → Except Mismatch Conversion
  | untyped, untyped, _ => .ok .untypedIdentity
  | handle _, untyped, _ => .ok .handleToUntyped
  | untyped, handle _, .explicit => .ok .untypedToHandle
  | untyped, handle t, .implicit => .error (.castRequired t)
  | handle s, handle t, _ => s.convert T t

def convertible (T : ClassTable) (source target : Operand) (direction : Direction) : Bool :=
  (source.convert T target direction).isOk

end Operand

end CallHandle
