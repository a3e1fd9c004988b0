import CallHandle.Signature.Text

/-!
Where handle types may stand. Handles are pointers: they are named in unsafe code only, they are
not type arguments, and they do not become objects.
-/

namespace CallHandle

/-- Whether the surrounding code may name pointer types. -/
inductive Safety where
  | safe
  | unchecked
  deriving DecidableEq

/-- A place where a handle type may not stand. -/
inductive PlacementError where
  | safeCode (ty : Ty)
  | typeArgument (ty : Ty)
  | boxing (ty : Ty)
  deriving DecidableEq

def PlacementError.message : PlacementError → String
  | safeCode ty => "`" ++ ty.text ++ "` may only be used in an unsafe context"
  | typeArgument ty => "`" ++ ty.text ++ "` cannot be used as a type argument"
  | boxing ty => "`" ++ ty.text ++ "` cannot be converted to `object`"

namespace Ty

/-- Naming a type in a declaration, a cast or an expression. -/
def checkNamed (safety : Safety) (ty : Ty) : Except PlacementError Unit :=
  if safety = .safe && ty.containsHandle then .error (.safeCode ty) else .ok ()

/-- Passing a type as a type argument. -/
def checkTypeArgument (ty : Ty) : Except PlacementError Unit :=
  if ty.containsHandle then .error (.typeArgument ty) else .ok ()

/-- Turning a value of the type into an object. Only the type itself is looked at, so a pointer to a
handle passes. -/
def checkBoxing : Ty → Except PlacementError Unit
  | handle s => .error (.boxing (handle s))
  | con _ | ptr _ | voidPtr | void => .ok ()

/-- Every check on one occurrence of a type. It is named, and the flags say whether it is a type
argument as well, and whether it becomes an object. -/
def checkPlacement (safety : Safety) (isTypeArgument isBoxed : Bool) (ty : Ty) :
    Except PlacementError Unit := do
  ty.checkNamed safety
  if isTypeArgument then ty.checkTypeArgument
  if isBoxed then ty.checkBoxing

end Ty

end CallHandle
