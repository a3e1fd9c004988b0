import CallHandle.Proofs.FirstMismatch
import CallHandle.Proofs.Relabeling

/-! Widening raises a class, turns a pointer into `void*` or does either to what a handle passes. All of this
shows when the conventions are erased, and a convention is never changed. -/

namespace CallHandle

variable {T : ClassTable}

/-- What is left of a type when no convention in it is told from another. -/
def Ty.shape (t : Ty) : Ty :=
  t.relabel fun _ => .managed

/-- Signatures of one shape pass types of one shape in the same modes. -/
theorem Signature.shape_eq_iff {s t : Signature} :
    s.shape = t.shape ↔
      List.Forall₂ (fun p q => p.ty.shape = q.ty.shape ∧ p.mode = q.mode) s.params t.params ∧
        s.ret.ty.shape = t.ret.ty.shape ∧ s.ret.mode = t.ret.mode := by
  have params : s.params.map (Param.relabel fun _ => .managed) =
      t.params.map (Param.relabel fun _ => .managed) ↔
        List.Forall₂ (fun p q => p.ty.shape = q.ty.shape ∧ p.mode = q.mode) s.params t.params := by
    rw [← List.forall₂_eq_eq_eq, List.forall₂_map_left_iff, List.forall₂_map_right_iff]
    simp only [Param.relabel_eq, Param.mk.injEq, Ty.shape]
  unfold Signature.shape
  simp only [Signature.relabel_eq, Signature.mk.injEq, params, Return.relabel_eq, Return.mk.injEq,
    and_true, Ty.shape]

/-! ## Widening either way -/

/-- One of the two types widens to the other. -/
def Ty.Related (T : ClassTable) (a b : Ty) : Prop :=
  a.widens T b = true ∨ b.widens T a = true

theorem Ty.Related.symm {a b : Ty} (h : a.Related T b) : b.Related T a :=
  Or.symm h

theorem Ty.Passes.related {byRef : Bool} {a b : Ty} (h : a.Passes T byRef b) : a.Related T b := by
  cases byRef with
  | true =>
    obtain rfl : a = b := h
    exact .inl (Ty.widens_refl T a)
  | false => exact .inl h

/-- What two related handles pass is related, however the handles themselves are turned round, and
their own conventions are the same. -/
theorem Signature.related_descriptors {s t : Signature}
    (h : (Ty.handle s).Related T (.handle t)) :
    List.Forall₂ (fun p q => p.ty.Related T q.ty) s.params t.params ∧
      s.ret.ty.Related T t.ret.ty ∧ s.convention = t.convention := by
  have forth {s t : Signature} (hst : (Ty.handle s).widens T (.handle t) = true) :
      List.Forall₂ (fun p q => p.ty.Related T q.ty) s.params t.params ∧
        s.ret.ty.Related T t.ret.ty ∧ s.convention = t.convention := by
    rw [Ty.widens, Signature.widens_iff] at hst
    obtain ⟨params, ret, convention⟩ := hst
    have values := (Return.widens_iff.mp ret).2.related
    exact ⟨params.imp fun p q hpq => (Param.widens_iff.mp hpq).2.related, values.symm, convention⟩
  rcases h with hst | hts
  · exact forth hst
  · obtain ⟨params, ret, convention⟩ := forth hts
    exact ⟨(params.imp fun _ _ => Ty.Related.symm).flip, ret.symm, convention.symm⟩

/-- Two types of one shape of which one widens to the other are one type. The induction takes both
directions at once, because the return of a handle is compared against the direction of the handle. -/
theorem Ty.eq_of_shape {a b : Ty} (same : a.shape = b.shape) (h : a.Related T b) : a = b := by
  induction a generalizing b with
  | con m =>
    cases b with
    | con n => exact same
    | _ => cases same
  | ptr t ih =>
    cases b with
    | ptr u =>
      rcases h with h | h
      · simpa [Ty.widens] using h
      · exact (by simpa [Ty.widens] using h : Ty.ptr u = .ptr t).symm
    | _ => cases same
  | voidPtr =>
    cases b with
    | voidPtr => rfl
    | _ => cases same
  | void =>
    cases b with
    | void => rfl
    | _ => cases same
  | handle s hps hr =>
    cases b with
    | handle t =>
      obtain ⟨params, ret, convention⟩ := Signature.related_descriptors h
      obtain ⟨sameParams, sameRet, retMode⟩ := Signature.shape_eq_iff.mp (Ty.handle.inj same)
      have eqParams : s.params = t.params := by
        refine eq_of_forall₂ ?_ sameParams params
        intro p hp q sameParam related
        exact Param.ext (hps p hp sameParam.1 related) sameParam.2
      have eqRet : s.ret = t.ret := Return.ext (hr sameRet ret) retMode
      rw [Signature.ext eqParams eqRet convention]
    | _ => cases same

/-! ## Conversions -/

/-- Where the descriptors agree, the rules on them all pass and the last one is left, on the
convention. -/
theorem Signature.convert_of_descriptors {s t : Signature} (params : s.params = t.params)
    (ret : s.ret = t.ret) (differ : s.convention ≠ t.convention) :
    s.convert T t = .error (.convention s.convention t.convention) :=
  Signature.convert_breaks_convention params (ret ▸ t.ret.widens_refl T) differ

theorem Signature.isOk_convert_iff_of_shape {s t : Signature} (same : s.shape = t.shape) :
    (s.convert T t).isOk = true ↔ s = t := by
  rw [Signature.isOk_convert]
  constructor
  · intro widens
    have handles : (Ty.handle s).widens T (.handle t) = true := by rwa [Ty.widens]
    exact Ty.handle.inj (Ty.eq_of_shape (congrArg Ty.handle same) (.inl handles))
  · rintro rfl
    exact s.widens_refl T

/-- **Conventions keep handles apart.** Of two signatures that are one when every convention in them is
erased, one converts to the other exactly when they are one already. So two handle types that differ
in conventions alone, at whatever depth, convert in neither direction, and a cast does not help; where
only the outermost conventions differ these two are what is reported. -/
theorem converts_iff_eq_of_shape (T : ClassTable) (s t : Signature) (same : s.shape = t.shape) :
    ((s.convert T t).isOk = true ↔ s = t) ∧
      (s ≠ t → ∀ direction : Direction,
        (Operand.handle s).convertible T (.handle t) direction = false ∧
          (Operand.handle t).convertible T (.handle s) direction = false) ∧
      (s.params = t.params → s.ret = t.ret → s.convention ≠ t.convention →
        s.convert T t = .error (.convention s.convention t.convention) ∧
          ∀ direction : Direction, (Operand.handle s).convert T (.handle t) direction =
            .error (.convention s.convention t.convention)) := by
  refine ⟨Signature.isOk_convert_iff_of_shape same, ?_, ?_⟩
  · intro differ direction
    rw [Bool.eq_false_iff, Bool.eq_false_iff]
    constructor
    · intro forth
      exact differ ((Signature.isOk_convert_iff_of_shape same).mp forth)
    · intro back
      exact differ ((Signature.isOk_convert_iff_of_shape same.symm).mp back).symm
  · intro params ret differ
    have reported := Signature.convert_of_descriptors (T := T) params ret differ
    exact ⟨reported, fun _ => reported⟩

/-- A parameter is a data pointer to a callback that returns a callback. Another convention on the
innermost one leaves no conversion, and another outermost one is what the answer names. -/
theorem apart_by_innermost_convention :
    let T := ClassTable.standard
    let callback (ret : Ty) (convention : Convention) : Ty :=
      .handle ⟨[⟨.con "string", .byValue⟩], ⟨ret, .byValue⟩, convention⟩
    let call (inner outer : Convention) : Signature :=
      ⟨[⟨.con "int", .byIn⟩, ⟨.ptr (callback (callback .void inner) .managed), .byValue⟩],
        ⟨.con "object", .byValue⟩, outer⟩
    let s := call .cdecl .managed
    let t := call (.extension ⟨0x10, "Fast"⟩) .managed
    let u := call .cdecl .stdcall
    s.shape = t.shape ∧ s.shape = u.shape ∧ (s.convert T t).isOk = false ∧
      (Operand.handle s).convertible T (.handle t) .explicit = false ∧
      s.convert T u = .error (.convention .managed .stdcall) := by
  intro T callback call s t u
  have nested : s.shape = t.shape := by decide +kernel
  have outermost : s.shape = u.shape := by decide +kernel
  have differ : s ≠ t := by decide +kernel
  obtain ⟨iff, apart, -⟩ := converts_iff_eq_of_shape T s t nested
  have reported := (converts_iff_eq_of_shape T s u outermost).2.2
    (by decide +kernel) (by decide +kernel) (by decide +kernel)
  refine ⟨nested, outermost, ?_, (apart differ .explicit).1, reported.1⟩
  rw [Bool.eq_false_iff]
  intro converts
  exact differ (iff.mp converts)

end CallHandle
