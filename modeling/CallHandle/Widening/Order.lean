import CallHandle.Widening

/-!
The order of widening, stated by its steps: the least reflexive and transitive relation that holds
from a class to its base, from every pointer and handle to `void*`, and from a handle to a handle
whose parameters and return are in the order the right way round.
-/

namespace CallHandle

/-- The first type widens to the second by some steps. -/
inductive Ty.Le (T : ClassTable) : Ty → Ty → Prop where
  | refl (t : Ty) : Ty.Le T t t
  | trans {a b c : Ty} : Ty.Le T a b → Ty.Le T b c → Ty.Le T a c
  | base {name base : String} : T.base? name = some base → Ty.Le T (.con name) (.con base)
  | pointer (t : Ty) : Ty.Le T (.ptr t) .voidPtr
  | untyped (s : Signature) : Ty.Le T (.handle s) .voidPtr
  | handle {s t : Signature} :
      s.params.length = t.params.length →
      (∀ pair ∈ s.params.zip t.params, pair.1.mode = pair.2.mode) →
      (∀ pair ∈ s.params.zip t.params, pair.1.mode = .byValue → Ty.Le T pair.1.ty pair.2.ty) →
      (∀ pair ∈ s.params.zip t.params, pair.1.mode ≠ .byValue → pair.1.ty = pair.2.ty) →
      s.ret.mode = t.ret.mode →
      (s.ret.mode = .byValue → Ty.Le T t.ret.ty s.ret.ty) →
      (s.ret.mode ≠ .byValue → s.ret.ty = t.ret.ty) →
      s.convention = t.convention →
      Ty.Le T (.handle s) (.handle t)

end CallHandle
