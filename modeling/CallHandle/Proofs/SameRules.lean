import CallHandle.Proofs.Dominance
import CallHandle.Proofs.FirstMismatch

namespace CallHandle

variable {T : ClassTable}

/-! ## Operands -/

/-- Handles and `void*`. -/
def Ty.IsOperand (t : Ty) : Prop :=
  t = .voidPtr ∨ ∃ s, t = .handle s

/-- The type of an operand. -/
def Operand.ty : Operand → Ty
  | .untyped => .voidPtr
  | .handle s => .handle s

theorem Operand.ofTy?_ty (x : Operand) : Operand.ofTy? x.ty = some x := by
  cases x <;> rfl

theorem Operand.ty_eq_voidPtr_iff {x : Operand} : x.ty = .voidPtr ↔ x = .untyped := by
  cases x <;> simp [ty]

theorem Operand.ty_eq_handle_iff {x : Operand} {s : Signature} :
    x.ty = .handle s ↔ x = .handle s := by
  cases x <;> simp [ty]

theorem Ty.isOperand_iff {t : Ty} : t.IsOperand ↔ ∃ x : Operand, t = x.ty := by
  constructor
  · rintro (rfl | ⟨s, rfl⟩)
    · exact ⟨.untyped, rfl⟩
    · exact ⟨.handle s, rfl⟩
  · rintro ⟨x, rfl⟩
    cases x with
    | untyped => exact .inl rfl
    | handle s => exact .inr ⟨s, rfl⟩

theorem Operand.convertible_implicit {x y : Operand} :
    x.convertible T y .implicit = x.ty.widens T y.ty := by
  cases x with
  | untyped => cases y <;> simp [convertible, convert, ty, Ty.widens, Except.isOk, Except.toBool]
  | handle s =>
    cases y with
    | untyped => simp [convertible, convert, ty, Ty.widens, Except.isOk, Except.toBool]
    | handle t =>
      rw [ty, ty, Ty.widens, ← Signature.isOk_convert]
      rfl

/-- A cast changes the answer from `void*` to a handle alone. -/
theorem Operand.convert_explicit {x y : Operand} (other : ∀ t, ¬(x = .untyped ∧ y = .handle t)) :
    x.convert T y .explicit = x.convert T y .implicit := by
  cases x with
  | handle s => cases y <;> rfl
  | untyped =>
    cases y with
    | untyped => rfl
    | handle t => exact absurd ⟨rfl, rfl⟩ (other t)

/-! ## Values in descriptors -/

/-- Lists that differ at one place at most are related as the elements there are. -/
theorem forall₂_around {α : Type} {R : α → α → Prop} (refl : ∀ x, R x x) {before after : List α}
    {x y : α} : List.Forall₂ R (before ++ x :: after) (before ++ y :: after) ↔ R x y := by
  induction before with
  | nil =>
    rw [List.nil_append, List.nil_append, List.forall₂_cons]
    exact and_iff_left (List.forall₂_same.mpr fun z _ => refl z)
  | cons z before ih =>
    rw [List.cons_append, List.cons_append, List.forall₂_cons, ih]
    exact and_iff_right (refl z)

theorem Signature.isOk_convert_param {before after : List Param} {ret : Return} {c : Convention}
    {a b : Ty} :
    (Signature.convert T ⟨before ++ ⟨a, .byValue⟩ :: after, ret, c⟩
      ⟨before ++ ⟨b, .byValue⟩ :: after, ret, c⟩).isOk = a.widens T b := by
  rw [Signature.isOk_convert, Bool.eq_iff_iff, Signature.widens_iff,
    forall₂_around fun p => p.widens_refl T]
  simp [Param.widens, ParamMode.isByRef, Return.widens_refl]

/-- The source's value stands in the target's place where something is returned. -/
theorem Signature.isOk_convert_ret {params : List Param} {c : Convention} {a b : Ty} :
    (Signature.convert T ⟨params, ⟨b, .byValue⟩, c⟩ ⟨params, ⟨a, .byValue⟩, c⟩).isOk =
      a.widens T b := by
  rw [Signature.isOk_convert, Bool.eq_iff_iff, Signature.widens_iff]
  simp [Return.widens, ReturnMode.isByRef, List.forall₂_same, Param.widens_refl]

/-- **Operands are converted as types.** Handles and `void*` are operands, and without a cast one of them
converts to another exactly when its type widens, by one of the kinds of widening, and so exactly when a
value of its type converts in a parameter, or the other way round in a return. A cast changes nothing but
the way from `void*` to a handle, which needs it, and no handle needs one to become `void*`. -/
theorem operands_convert_as_types (T : ClassTable) (a b : Ty) (source : a.IsOperand)
    (target : b.IsOperand) :
    ∃ x y : Operand, Operand.ofTy? a = some x ∧ Operand.ofTy? b = some y ∧
      x.convertible T y .implicit = a.widens T b ∧
      (x.convertible T y .implicit = true ↔ ∃ kind ∈ Widening.all, kind.applies T a b = true) ∧
      (∀ before after ret c, (Signature.convert T ⟨before ++ ⟨a, .byValue⟩ :: after, ret, c⟩
        ⟨before ++ ⟨b, .byValue⟩ :: after, ret, c⟩).isOk = x.convertible T y .implicit) ∧
      (∀ params c, (Signature.convert T ⟨params, ⟨b, .byValue⟩, c⟩
        ⟨params, ⟨a, .byValue⟩, c⟩).isOk = x.convertible T y .implicit) ∧
      (∀ t, a = .voidPtr → b = .handle t →
        x.convert T y .explicit = .ok .untypedToHandle ∧
          x.convert T y .implicit = .error (.castRequired t)) ∧
      ((∀ t, ¬(a = .voidPtr ∧ b = .handle t)) →
        x.convert T y .explicit = x.convert T y .implicit) ∧
      ∀ s, a = .handle s → b = .voidPtr → x.convert T y .implicit = .ok .handleToUntyped := by
  obtain ⟨x, rfl⟩ := Ty.isOperand_iff.mp source
  obtain ⟨y, rfl⟩ := Ty.isOperand_iff.mp target
  have alone : x.convertible T y .implicit = x.ty.widens T y.ty := Operand.convertible_implicit
  refine ⟨x, y, x.ofTy?_ty, y.ofTy?_ty, alone, ?_, ?_, ?_, ?_, ?_, ?_⟩
  · rw [alone, ← Widening.any_applies, List.any_eq_true]
  · intro before after ret c
    rw [alone, Signature.isOk_convert_param]
  · intro params c
    rw [alone, Signature.isOk_convert_ret]
  · intro t untyped handle
    obtain rfl := Operand.ty_eq_voidPtr_iff.mp untyped
    obtain rfl := Operand.ty_eq_handle_iff.mp handle
    exact ⟨rfl, rfl⟩
  · intro other
    apply Operand.convert_explicit
    rintro t ⟨rfl, rfl⟩
    exact other t ⟨rfl, rfl⟩
  · intro s handle untyped
    obtain rfl := Operand.ty_eq_handle_iff.mp handle
    obtain rfl := Operand.ty_eq_voidPtr_iff.mp untyped
    rfl

/-- A handle that takes a visitor of dogs becomes one that takes a visitor of objects, on its own and as a
parameter between references, and `void*` becomes neither of them without a cast. -/
theorem visitors_convert_as_parameters :
    let T := ClassTable.standard.register "Dog" "object"
    let taking (first : Ty) (c : Convention) : Signature :=
      ⟨[⟨first, .byValue⟩], ⟨.void, .byValue⟩, c⟩
    let walker (name : String) : Signature := taking (.handle (taking (.con name) .cdecl)) .managed
    let call (second : Ty) : Signature :=
      ⟨[⟨.con "int", .byRef⟩, ⟨second, .byValue⟩, ⟨.voidPtr, .byOut⟩], ⟨.con "Dog", .byValue⟩,
        .stdcall⟩
    let a := Ty.handle (walker "Dog")
    let b := Ty.handle (walker "object")
    a.IsOperand ∧ b.IsOperand ∧ Ty.voidPtr.IsOperand ∧
      (Operand.handle (walker "Dog")).convertible T (.handle (walker "object")) .implicit = true ∧
      ((call a).convert T (call b)).isOk = true ∧ ((call b).convert T (call a)).isOk = false ∧
      Operand.untyped.convert T (.handle (walker "Dog")) .implicit =
        .error (.castRequired (walker "Dog")) := by
  intro T taking walker call a b
  have handleA : a.IsOperand := .inr ⟨_, rfl⟩
  have handleB : b.IsOperand := .inr ⟨_, rfl⟩
  have untyped : Ty.voidPtr.IsOperand := .inl rfl
  have forth : a.widens T b = true := by decide +kernel
  have back : b.widens T a = false := by decide +kernel
  obtain ⟨x, y, hx, hy, alone, -, nested, -⟩ := operands_convert_as_types T a b handleA handleB
  obtain rfl := Option.some.inj hx
  obtain rfl := Option.some.inj hy
  obtain ⟨y', x', hy', hx', alone', -, nested', -⟩ :=
    operands_convert_as_types T b a handleB handleA
  obtain ⟨u, z, hu, hz, -, -, -, -, cast, -⟩ :=
    operands_convert_as_types T .voidPtr a untyped handleA
  obtain rfl := Option.some.inj hu
  obtain rfl := Option.some.inj hz
  refine ⟨handleA, handleB, untyped, alone.trans forth, ?_, ?_, (cast _ rfl rfl).2⟩
  · exact (nested [⟨.con "int", .byRef⟩] [⟨.voidPtr, .byOut⟩] _ _).trans (alone.trans forth)
  · exact (nested' [⟨.con "int", .byRef⟩] [⟨.voidPtr, .byOut⟩] _ _).trans (alone'.trans back)

/-! ## Members of a group -/

namespace Overload

variable {m : Overload}

/-- A handle converts to a member's own exactly when the member is applicable to its parameters, and the
return and the convention are in order. -/
theorem isOk_convert_signature_iff {s : Signature} :
    (s.convert T m.signature).isOk = true ↔
      m.applicable T s.params = true ∧ m.signature.ret.widens T s.ret = true ∧
        s.convention = m.signature.convention := by
  rw [Signature.isOk_convert, Signature.widens_iff, applicable_iff]

end Overload

/-- The rule broken is one on the parameters: their count, a mode or a type. -/
def Mismatch.OnParameters : Mismatch → Prop
  | .parameterCount _ _ | .mode _ _ _ | .type _ _ _ => True
  | .castRequired _ | .result _ _ | .convention _ _ => False

/-- Where the returns and the conventions are the same, only the parameters can break a rule. -/
theorem Signature.FirstBroken.onParameters {s t : Signature} {mismatch : Mismatch}
    (broken : s.FirstBroken T t mismatch) (ret : s.ret = t.ret)
    (convention : s.convention = t.convention) : mismatch.OnParameters := by
  cases broken with
  | count _ | mode _ _ | type _ _ => trivial
  | result _ _ fails => exact fails (Signature.returnPasses_iff.mpr (ret ▸ t.ret.widens_refl T))
  | convention _ _ _ differ => exact differ convention

/-- **A member is applicable where its handle can be converted to.** A call with the parameters of a handle
reaches a member exactly when a handle with those parameters, and with the member's own return and
convention, converts to the member's own. Where it does not, a rule on the parameters is what is broken. -/
theorem applicable_iff_converts (T : ClassTable) (m : Overload) (t : Signature) :
    (m.applicable T t.params = true ↔
        (Signature.convert T { m.signature with params := t.params } m.signature).isOk = true) ∧
      (m.applicable T t.params = false ↔
        ∃ mismatch, Signature.convert T { m.signature with params := t.params } m.signature =
          .error mismatch ∧ mismatch.OnParameters) := by
  have converts : m.applicable T t.params =
      (Signature.convert T { m.signature with params := t.params } m.signature).isOk := by
    rw [Bool.eq_iff_iff, Overload.isOk_convert_signature_iff]
    simp [Return.widens_refl]
  refine ⟨by rw [converts], ?_⟩
  rw [converts]
  cases answer : Signature.convert T { m.signature with params := t.params } m.signature with
  | ok conversion => simp [Except.isOk, Except.toBool]
  | error mismatch =>
    have broken := (Signature.convert_eq_error_iff.mp answer).onParameters rfl rfl
    simp [Except.isOk, Except.toBool, broken]

end CallHandle
