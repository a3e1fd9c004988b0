import CallHandle.Placement
import CallHandle.Proofs.Occurrence

namespace CallHandle

namespace Ty

variable {ty : Ty} {safety : Safety} {isTypeArgument isBoxed : Bool} {e : PlacementError}

/-- The refusal that a type with a handle in it meets. Safe code counts before a use as a type argument, and
that one before a use as an object. -/
inductive Refused (ty : Ty) : Safety → Bool → Bool → PlacementError → Prop where
  | safeCode {isTypeArgument isBoxed : Bool} :
      Refused ty .safe isTypeArgument isBoxed (.safeCode ty)
  | typeArgument {isBoxed : Bool} : Refused ty .unchecked true isBoxed (.typeArgument ty)
  | boxing : Refused ty .unchecked false true (.boxing ty)

theorem refused_safe_iff : ty.Refused .safe isTypeArgument isBoxed e ↔ e = .safeCode ty := by
  constructor
  · rintro ⟨⟩
    rfl
  · rintro rfl
    exact .safeCode

theorem refused_typeArgument_iff : ty.Refused .unchecked true isBoxed e ↔ e = .typeArgument ty := by
  constructor
  · rintro ⟨⟩
    rfl
  · rintro rfl
    exact .typeArgument

theorem refused_boxing_iff : ty.Refused .unchecked false true e ↔ e = .boxing ty := by
  constructor
  · rintro ⟨⟩
    rfl
  · rintro rfl
    exact .boxing

theorem not_refused : ¬ty.Refused .unchecked false false e :=
  nofun

theorem checkNamed_eq_error_iff :
    ty.checkNamed safety = .error e ↔
      safety = .safe ∧ (∃ s, (handle s).OccursIn ty) ∧ e = .safeCode ty := by
  rw [← containsHandle_iff, checkNamed]
  cases safety <;> cases ty.containsHandle <;> simp [eq_comm (a := e)]

theorem checkTypeArgument_eq_error_iff :
    ty.checkTypeArgument = .error e ↔ (∃ s, (handle s).OccursIn ty) ∧ e = .typeArgument ty := by
  rw [← containsHandle_iff, checkTypeArgument]
  cases ty.containsHandle <;> simp [eq_comm (a := e)]

/-- Only the type itself is looked at. -/
theorem checkBoxing_eq_error_iff :
    ty.checkBoxing = .error e ↔ (∃ s, ty = handle s) ∧ e = .boxing ty := by
  cases ty <;> simp [checkBoxing, eq_comm (a := e)]

/-- The checks are made in order, and the flags say which. -/
theorem checkPlacement_eq :
    ty.checkPlacement safety isTypeArgument isBoxed =
      ((ty.checkNamed safety).bind fun _ =>
        (if isTypeArgument then ty.checkTypeArgument else .ok ()).bind fun _ =>
          if isBoxed then ty.checkBoxing else .ok ()) := by
  cases isTypeArgument <;> cases isBoxed <;> rfl

/-- A type without a handle in it may stand anywhere. -/
theorem checkPlacement_of_handleFree (free : ty.containsHandle = false) :
    ty.checkPlacement safety isTypeArgument isBoxed = .ok () := by
  have named : ty.checkNamed safety = .ok () := by simp [checkNamed, free]
  have argument : ty.checkTypeArgument = .ok () := by simp [checkTypeArgument, free]
  have boxing : ty.checkBoxing = .ok () := by
    cases ty with
    | handle s => cases free
    | _ => rfl
  rw [checkPlacement_eq, named, argument, boxing]
  cases isTypeArgument <;> cases isBoxed <;> rfl

theorem checkPlacement_eq_error_iff :
    ty.checkPlacement safety isTypeArgument isBoxed = .error e ↔
      (∃ s, (handle s).OccursIn ty) ∧ ty.Refused safety isTypeArgument isBoxed e ∧
        (e = .boxing ty → ∃ s, ty = handle s) := by
  rw [← containsHandle_iff]
  cases holds : ty.containsHandle with
  | false => simp [checkPlacement_of_handleFree holds]
  | true =>
    have argument : ty.checkTypeArgument = .error (.typeArgument ty) := by simp [checkTypeArgument, holds]
    rw [checkPlacement_eq, checkNamed, holds]
    cases safety with
    | safe =>
      simp only [refused_safe_iff, true_and]
      constructor
      · intro failed
        obtain rfl : PlacementError.safeCode ty = e := Except.error.inj failed
        simp
      · rintro ⟨rfl, -⟩
        rfl
    | unchecked =>
      cases isTypeArgument with
      | true =>
        simp only [refused_typeArgument_iff, argument, true_and]
        constructor
        · intro failed
          obtain rfl : PlacementError.typeArgument ty = e := Except.error.inj failed
          simp
        · rintro ⟨rfl, -⟩
          rfl
      | false =>
        cases isBoxed with
        | true =>
          have last : ty.checkBoxing = .error e ↔ (∃ s, ty = handle s) ∧ e = .boxing ty :=
            checkBoxing_eq_error_iff
          rw [refused_boxing_iff]
          refine last.trans ⟨fun ⟨itself, same⟩ => ⟨rfl, same, fun _ => itself⟩, ?_⟩
          rintro ⟨-, same, itself⟩
          exact ⟨itself same, same⟩
        | false => simp [not_refused, Except.bind]

/-- The handles that no check sees are those behind a data pointer that only becomes an object. -/
theorem refused_everywhere_iff :
    (∀ e, ty.checkPlacement safety isTypeArgument isBoxed = .error e ↔
        (∃ s, (handle s).OccursIn ty) ∧ ty.Refused safety isTypeArgument isBoxed e) ↔
      ¬(safety = .unchecked ∧ isTypeArgument = false ∧ isBoxed = true ∧
        ∃ t s, ty = ptr t ∧ (handle s).OccursIn t) := by
  simp only [checkPlacement_eq_error_iff]
  constructor
  · rintro complete ⟨rfl, rfl, rfl, t, s, rfl, inside⟩
    obtain ⟨-, -, itself⟩ := (complete (.boxing (ptr t))).mpr ⟨⟨s, .pointee inside⟩, .boxing⟩
    obtain ⟨_, same⟩ := itself rfl
    cases same
  · intro seen e
    refine and_congr_right fun ⟨s, occurs⟩ => ⟨And.left, fun refused => ⟨refused, ?_⟩⟩
    rintro rfl
    cases refused with
    | boxing =>
      cases occurs with
      | here => exact ⟨s, rfl⟩
      | pointee inside => exact absurd ⟨rfl, rfl, rfl, _, s, rfl, inside⟩ seen
      | param | ret => exact ⟨_, rfl⟩

end Ty

/-- **Where a handle is refused.** Naming a type and using it as a type argument are refused exactly when a
handle occurs in it, at any depth, and turning it into an object when it is a handle itself. All checks
together refuse a type in which a handle occurs, for the first use that is not allowed, and a use as an object
alone only for a handle itself. So they refuse every type that holds a handle, unless it is a data pointer to
one that is turned into an object in unsafe code and is no type argument. -/
theorem placement_refused (safety : Safety) (isTypeArgument isBoxed : Bool) (ty : Ty) :
    (∀ e, ty.checkPlacement safety isTypeArgument isBoxed = .error e ↔
        (∃ s, (Ty.handle s).OccursIn ty) ∧ ty.Refused safety isTypeArgument isBoxed e ∧
          (e = .boxing ty → ∃ s, ty = .handle s)) ∧
      ((∀ e, ty.checkPlacement safety isTypeArgument isBoxed = .error e ↔
          (∃ s, (Ty.handle s).OccursIn ty) ∧ ty.Refused safety isTypeArgument isBoxed e) ↔
        ¬(safety = .unchecked ∧ isTypeArgument = false ∧ isBoxed = true ∧
          ∃ t s, ty = .ptr t ∧ (Ty.handle s).OccursIn t)) ∧
      (∀ e, ty.checkNamed safety = .error e ↔
        safety = .safe ∧ (∃ s, (Ty.handle s).OccursIn ty) ∧ e = .safeCode ty) ∧
      (∀ e, ty.checkTypeArgument = .error e ↔
        (∃ s, (Ty.handle s).OccursIn ty) ∧ e = .typeArgument ty) ∧
      ∀ e, ty.checkBoxing = .error e ↔ (∃ s, ty = .handle s) ∧ e = .boxing ty :=
  ⟨fun _ => Ty.checkPlacement_eq_error_iff, Ty.refused_everywhere_iff,
    fun _ => Ty.checkNamed_eq_error_iff, fun _ => Ty.checkTypeArgument_eq_error_iff,
    fun _ => Ty.checkBoxing_eq_error_iff⟩

/-- A data pointer to a handle is refused as a type argument, and becomes an object in unsafe code, where the
handle itself does not. -/
theorem pointer_to_handle_becomes_object :
    let called : Ty := .handle ⟨[], ⟨.void, .byValue⟩, .managed⟩
    ¬(∀ e, called.ptr.checkPlacement .unchecked false true = .error e ↔
        (∃ s, (Ty.handle s).OccursIn called.ptr) ∧ called.ptr.Refused .unchecked false true e) ∧
      called.ptr.checkPlacement .unchecked false true = .ok () ∧
      called.checkPlacement .unchecked false true = .error (.boxing called) ∧
      called.ptr.checkPlacement .unchecked true true = .error (.typeArgument called.ptr) := by
  intro called
  refine ⟨?_, rfl, rfl, rfl⟩
  intro complete
  have refused : called.ptr.checkPlacement .unchecked false true = .error (.boxing called.ptr) :=
    (complete _).mpr ⟨⟨_, .pointee .here⟩, .boxing⟩
  cases refused

end CallHandle
