import CallHandle.ClassTable
import CallHandle.Signature

/-!
Widening. A type widens to another when a value of the first can stand where the second is wanted
without a cast: a class to a class it derives from, a pointer or handle to `void*`, a handle to a
handle whose parameters it accepts and whose return it satisfies, and every type to itself.
Parameters widen with the handle and returns against it. A reference keeps its type, and a data
pointer widens to `void*` alone.
-/

namespace CallHandle

mutual

/-- Whether the source widens to the target. -/
def Ty.widens (T : ClassTable) : (source target : Ty) → Bool
  | .con m, .con n => m == n || T.isSubclass m n
  | .ptr a, .ptr b => a == b
  | .ptr _, .voidPtr | .handle _, .voidPtr | .voidPtr, .voidPtr | .void, .void => true
  | .handle s, .handle t => s.widens T t
  | _, _ => false
termination_by source target => sizeOf source + sizeOf target

/-- Two handles widen parameter by parameter, against each other on the return, and only under one
convention. -/
def Signature.widens (T : ClassTable) : (source target : Signature) → Bool
  | ⟨ps, r, c⟩, ⟨qs, q, d⟩ => Signature.paramsWiden T ps qs && q.widens T r && c == d
termination_by source target => sizeOf source + sizeOf target

def Signature.paramsWiden (T : ClassTable) : (source target : List Param) → Bool
  | [], [] => true
  | p :: ps, q :: qs => p.widens T q && Signature.paramsWiden T ps qs
  | _, _ => false
termination_by source target => sizeOf source + sizeOf target

/-- A value widens and a reference keeps its type. -/
def Param.widens (T : ClassTable) : (source target : Param) → Bool
  | ⟨t, m⟩, ⟨u, n⟩ => m == n && if m.isByRef then t == u else t.widens T u
termination_by source target => sizeOf source + sizeOf target

def Return.widens (T : ClassTable) : (source target : Return) → Bool
  | ⟨t, m⟩, ⟨u, n⟩ => m == n && if m.isByRef then t == u else t.widens T u
termination_by source target => sizeOf source + sizeOf target

end

/-- The kinds of widening. -/
inductive Widening where
  /-- A type to itself. -/
  | identity
  /-- A class to a class it derives from. -/
  | reference
  /-- A pointer or handle to another pointer or handle. -/
  | pointer
  deriving DecidableEq

namespace Widening

def all : List Widening :=
  [identity, reference, pointer]

/-- Whether the source widens to the target by exactly this kind. -/
def applies (T : ClassTable) (kind : Widening) (source target : Ty) : Bool :=
  match kind, source, target with
  | identity, _, _ => source == target
  | reference, .con m, .con n => T.isSubclass m n
  | pointer, .ptr _, .voidPtr | pointer, .handle _, .voidPtr => true
  | pointer, .handle s, .handle t => s != t && s.widens T t
  | _, _, _ => false

end Widening

mutual

theorem Ty.widens_refl (T : ClassTable) (t : Ty) : t.widens T t = true := by
  match t with
  | .con _ | .ptr _ | .voidPtr | .void => simp [Ty.widens]
  | .handle s => rw [Ty.widens, s.widens_refl T]

theorem Signature.widens_refl (T : ClassTable) (s : Signature) : s.widens T s = true := by
  match s with
  | ⟨ps, r, c⟩ => simp [Signature.widens, Signature.paramsWiden_refl T ps, r.widens_refl T]

theorem Signature.paramsWiden_refl (T : ClassTable) (ps : List Param) :
    Signature.paramsWiden T ps ps = true := by
  match ps with
  | [] => simp [Signature.paramsWiden]
  | p :: ps => simp [Signature.paramsWiden, p.widens_refl T, Signature.paramsWiden_refl T ps]

theorem Param.widens_refl (T : ClassTable) (p : Param) : p.widens T p = true := by
  match p with
  | ⟨t, _⟩ => simp [Param.widens, t.widens_refl T]

theorem Return.widens_refl (T : ClassTable) (r : Return) : r.widens T r = true := by
  match r with
  | ⟨t, _⟩ => simp [Return.widens, t.widens_refl T]

end

end CallHandle
