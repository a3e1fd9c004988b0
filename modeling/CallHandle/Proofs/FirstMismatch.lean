import CallHandle.Proofs.ConversionOrder

/-! Modes are compared at every position before types are at any, and a rule on parameters goes from the
first position to the last. -/

namespace CallHandle

variable {T : ClassTable} {s t : Signature}

/-! ## Parts that agree -/

theorem Signature.agrees_iff : s.agrees t = true ↔ s = t := by
  have params : s.params = t.params ↔ s.params.length = t.params.length ∧
      ∀ pair ∈ s.params.zip t.params, pair.1 = pair.2 := by
    rw [← List.forall₂_eq_eq_eq, List.forall₂_iff_zip]
    exact and_congr_right fun _ => ⟨fun h _ hp => h hp, fun h _ _ hp => h _ hp⟩
  rw [Signature.ext_iff, params]
  simp [Signature.agrees, and_assoc]

/-! ## The first position -/

/-- The parameters at the position are the first ones that do not stand in the relation. -/
structure FirstApart (R : Param → Param → Prop) (ps qs : List Param) (i : Nat) (p q : Param) :
    Prop where
  source : ps[i]? = some p
  target : qs[i]? = some q
  apart : ¬R p q
  earlier : ∀ j < i, ∀ p' q', ps[j]? = some p' → qs[j]? = some q' → R p' q'

/-- A search gives what it finds at the first position where it finds anything. -/
theorem findSome?_eq_some_iff_getElem? {α β : Type} {f : α → Option β} {xs : List α} {b : β} :
    xs.findSome? f = some b ↔
      ∃ (i : Nat) (x : α), xs[i]? = some x ∧ f x = some b ∧
        ∀ j < i, ∀ y, xs[j]? = some y → f y = none := by
  rw [List.findSome?_eq_some_iff]
  constructor
  · rintro ⟨before, x, after, rfl, found, earlier⟩
    refine ⟨before.length, x, by simp, found, fun j hj y hy => earlier y ?_⟩
    rw [List.getElem?_append_left hj] at hy
    exact List.mem_of_getElem? hy
  · rintro ⟨i, x, hx, found, earlier⟩
    obtain ⟨inside, rfl⟩ := List.getElem?_eq_some_iff.mp hx
    refine ⟨xs.take i, _, xs.drop (i + 1), by simp, found, fun y hy => ?_⟩
    obtain ⟨j, hj, rfl⟩ := List.mem_take_iff_getElem.mp hy
    exact earlier j (by omega) _ (List.getElem?_eq_getElem _)

namespace Signature

theorem getElem?_paired {i j : Nat} {p q : Param} :
    (s.paired t)[i]? = some ((p, q), j) ↔
      s.params[i]? = some p ∧ t.params[i]? = some q ∧ i = j := by
  unfold paired
  rw [List.getElem?_zipIdx]
  constructor
  · intro h
    obtain ⟨pair, found, same⟩ := Option.map_eq_some_iff.mp h
    obtain ⟨rfl, rfl⟩ := Prod.mk.inj same
    obtain ⟨hp, hq⟩ := List.getElem?_zip_eq_some.mp found
    exact ⟨hp, hq, (Nat.zero_add i).symm⟩
  · rintro ⟨hp, hq, rfl⟩
    have pair : (s.params.zip t.params)[i]? = some (p, q) :=
      List.getElem?_zip_eq_some.mpr ⟨hp, hq⟩
    simp [pair]

/-- A check of parameters at equal positions reports the first pair that is not in order. -/
theorem findSome?_paired_eq_some_iff {R : Param → Param → Prop}
    {report : Nat → Param → Param → Mismatch} {check : (Param × Param) × Nat → Option Mismatch}
    (silent : ∀ p q i, R p q → check ((p, q), i) = none)
    (reports : ∀ p q i, ¬R p q → check ((p, q), i) = some (report i p q)) {mismatch : Mismatch} :
    (s.paired t).findSome? check = some mismatch ↔
      ∃ i p q, FirstApart R s.params t.params i p q ∧ mismatch = report i p q := by
  rw [findSome?_eq_some_iff_getElem?]
  constructor
  · rintro ⟨i, ⟨⟨p, q⟩, j⟩, entry, found, earlier⟩
    obtain ⟨hp, hq, rfl⟩ := getElem?_paired.mp entry
    have apart : ¬R p q := by
      intro inOrder
      rw [silent p q i inOrder] at found
      cases found
    refine ⟨i, p, q, ⟨hp, hq, apart, ?_⟩, ?_⟩
    · intro j hj p' q' hp' hq'
      by_contra apart'
      have := earlier j hj _ (getElem?_paired.mpr ⟨hp', hq', rfl⟩)
      rw [reports p' q' j apart'] at this
      cases this
    · rw [reports p q i apart] at found
      exact (Option.some.inj found).symm
  · rintro ⟨i, p, q, first, rfl⟩
    refine ⟨i, ((p, q), i), getElem?_paired.mpr ⟨first.source, first.target, rfl⟩,
      reports p q i first.apart, ?_⟩
    rintro j hj ⟨⟨p', q'⟩, k⟩ entry
    obtain ⟨hp', hq', rfl⟩ := getElem?_paired.mp entry
    exact silent p' q' j (first.earlier j hj p' q' hp' hq')

end Signature

/-! ## The first rule -/

/-- The rule on the modes of two parameters. -/
def Param.SameMode (p q : Param) : Prop :=
  p.mode = q.mode

/-- The rule on the types of two parameters: a value widens, and a reference keeps its type. -/
def Param.TypePasses (T : ClassTable) (p q : Param) : Prop :=
  p.ty.Passes T p.mode.isByRef q.ty

/-- The rule on the returns: in one mode, what the target returns passes for what the source returns. -/
def Signature.ReturnPasses (T : ClassTable) (s t : Signature) : Prop :=
  t.ret.mode = s.ret.mode ∧ t.ret.ty.Passes T t.ret.mode.isByRef s.ret.ty

/-- The mismatch is what is reported for the first rule that the conversion breaks. Each rule stands behind
those before it, and a rule on parameters is broken first at one position. -/
inductive Signature.FirstBroken (T : ClassTable) (s t : Signature) : Mismatch → Prop where
  | count (differ : s.params.length ≠ t.params.length) :
      FirstBroken T s t (.parameterCount s.params.length t.params.length)
  | mode {i : Nat} {p q : Param} (count : s.params.length = t.params.length)
      (first : FirstApart Param.SameMode s.params t.params i p q) :
      FirstBroken T s t (.mode i p.mode q.mode)
  | type {i : Nat} {p q : Param} (modes : List.Forall₂ Param.SameMode s.params t.params)
      (first : FirstApart (Param.TypePasses T) s.params t.params i p q) :
      FirstBroken T s t (.type i p.ty q.ty)
  | result (modes : List.Forall₂ Param.SameMode s.params t.params)
      (types : List.Forall₂ (Param.TypePasses T) s.params t.params) (fails : ¬s.ReturnPasses T t) :
      FirstBroken T s t (.result s.ret t.ret)
  | convention (modes : List.Forall₂ Param.SameMode s.params t.params)
      (types : List.Forall₂ (Param.TypePasses T) s.params t.params) (ret : s.ReturnPasses T t)
      (differ : s.convention ≠ t.convention) :
      FirstBroken T s t (.convention s.convention t.convention)

namespace Signature

theorem returnPasses_iff : s.ReturnPasses T t ↔ t.ret.widens T s.ret = true :=
  Return.widens_iff.symm

theorem modeMismatch?_eq_some_iff {mismatch : Mismatch} :
    s.modeMismatch? t = some mismatch ↔
      ∃ i p q, FirstApart Param.SameMode s.params t.params i p q ∧
        mismatch = .mode i p.mode q.mode := by
  apply findSome?_paired_eq_some_iff
  · intro p q i same
    exact if_pos same
  · intro p q i differ
    exact if_neg differ

theorem typeMismatch?_eq_some_iff {mismatch : Mismatch} :
    s.typeMismatch? T t = some mismatch ↔
      ∃ i p q, FirstApart (Param.TypePasses T) s.params t.params i p q ∧
        mismatch = .type i p.ty q.ty := by
  have test (p q : Param) : Param.TypePasses T p q ↔
      (if p.mode.isByRef then p.ty == q.ty else p.ty.widens T q.ty) = true := by
    simp [Param.TypePasses, Ty.Passes]
  apply findSome?_paired_eq_some_iff
  · intro p q i passes
    exact if_pos ((test p q).mp passes)
  · intro p q i fails
    exact if_neg (mt (test p q).mpr fails)

theorem countMismatch?_eq_some_iff {mismatch : Mismatch} :
    s.countMismatch? t = some mismatch ↔ s.params.length ≠ t.params.length ∧
      mismatch = .parameterCount s.params.length t.params.length := by
  by_cases count : s.params.length = t.params.length <;>
    simp [countMismatch?, count, eq_comm (b := mismatch)]

theorem countMismatch?_eq_none : s.countMismatch? t = none ↔ s.params.length = t.params.length := by
  simp [countMismatch?]

theorem resultMismatch?_eq_none : s.resultMismatch? T t = none ↔ s.ReturnPasses T t := by
  rw [returnPasses_iff]
  simp [resultMismatch?]

theorem resultMismatch?_eq_some_iff {mismatch : Mismatch} :
    s.resultMismatch? T t = some mismatch ↔
      ¬s.ReturnPasses T t ∧ mismatch = .result s.ret t.ret := by
  rw [returnPasses_iff]
  by_cases ret : t.ret.widens T s.ret = true <;>
    simp [resultMismatch?, ret, eq_comm (b := mismatch)]

theorem conventionMismatch?_eq_some_iff {mismatch : Mismatch} :
    s.conventionMismatch? t = some mismatch ↔ s.convention ≠ t.convention ∧
      mismatch = .convention s.convention t.convention := by
  by_cases convention : s.convention = t.convention <;>
    simp [conventionMismatch?, Convention.compatible, convention, eq_comm (b := mismatch)]

theorem modeMismatch?_eq_none_iff_forall₂ (count : s.params.length = t.params.length) :
    s.modeMismatch? t = none ↔ List.Forall₂ Param.SameMode s.params t.params := by
  rw [modeMismatch?_eq_none, List.forall₂_iff_zip]
  exact ⟨fun modes => ⟨count, fun {p q} hp => modes (p, q) hp⟩, fun modes _ hp => modes.2 hp⟩

theorem typeMismatch?_eq_none_iff_forall₂ (count : s.params.length = t.params.length) :
    s.typeMismatch? T t = none ↔ List.Forall₂ (Param.TypePasses T) s.params t.params := by
  rw [typeMismatch?_eq_none, List.forall₂_iff_zip]
  exact ⟨fun types => ⟨count, fun {p q} hp => types (p, q) hp⟩, fun types _ hp => types.2 hp⟩

/-- The checks one after another find the first rule broken. -/
theorem mismatch?_eq_some_iff {mismatch : Mismatch} :
    s.mismatch? T t = some mismatch ↔ s.FirstBroken T t mismatch := by
  have inOrder : s.mismatch? T t = some mismatch ↔
      s.countMismatch? t = some mismatch ∨ s.countMismatch? t = none ∧
        (s.modeMismatch? t = some mismatch ∨ s.modeMismatch? t = none ∧
          (s.typeMismatch? T t = some mismatch ∨ s.typeMismatch? T t = none ∧
            (s.resultMismatch? T t = some mismatch ∨ s.resultMismatch? T t = none ∧
              s.conventionMismatch? t = some mismatch))) := by
    simp only [mismatch?, Option.orElse_eq_orElse, Option.orElse_eq_or, Option.or_eq_some_iff]
  rw [inOrder]
  constructor
  · rintro (count | ⟨count, rest⟩)
    · obtain ⟨differ, rfl⟩ := countMismatch?_eq_some_iff.mp count
      exact .count differ
    rw [countMismatch?_eq_none] at count
    rcases rest with mode | ⟨modes, rest⟩
    · obtain ⟨i, p, q, first, rfl⟩ := modeMismatch?_eq_some_iff.mp mode
      exact .mode count first
    rw [modeMismatch?_eq_none_iff_forall₂ count] at modes
    rcases rest with type | ⟨types, rest⟩
    · obtain ⟨i, p, q, first, rfl⟩ := typeMismatch?_eq_some_iff.mp type
      exact .type modes first
    rw [typeMismatch?_eq_none_iff_forall₂ count] at types
    rcases rest with result | ⟨ret, convention⟩
    · obtain ⟨fails, rfl⟩ := resultMismatch?_eq_some_iff.mp result
      exact .result modes types fails
    · obtain ⟨differ, rfl⟩ := conventionMismatch?_eq_some_iff.mp convention
      exact .convention modes types (resultMismatch?_eq_none.mp ret) differ
  · intro broken
    cases broken with
    | count differ => exact .inl (countMismatch?_eq_some_iff.mpr ⟨differ, rfl⟩)
    | mode count first =>
      refine .inr ⟨countMismatch?_eq_none.mpr count, .inl ?_⟩
      exact modeMismatch?_eq_some_iff.mpr ⟨_, _, _, first, rfl⟩
    | type modes first =>
      have count := modes.length_eq
      refine .inr ⟨countMismatch?_eq_none.mpr count, .inr
        ⟨(modeMismatch?_eq_none_iff_forall₂ count).mpr modes, .inl ?_⟩⟩
      exact typeMismatch?_eq_some_iff.mpr ⟨_, _, _, first, rfl⟩
    | result modes types fails =>
      have count := modes.length_eq
      refine .inr ⟨countMismatch?_eq_none.mpr count, .inr
        ⟨(modeMismatch?_eq_none_iff_forall₂ count).mpr modes, .inr
          ⟨(typeMismatch?_eq_none_iff_forall₂ count).mpr types, .inl ?_⟩⟩⟩
      exact resultMismatch?_eq_some_iff.mpr ⟨fails, rfl⟩
    | convention modes types ret differ =>
      have count := modes.length_eq
      refine .inr ⟨countMismatch?_eq_none.mpr count, .inr
        ⟨(modeMismatch?_eq_none_iff_forall₂ count).mpr modes, .inr
          ⟨(typeMismatch?_eq_none_iff_forall₂ count).mpr types, .inr
            ⟨resultMismatch?_eq_none.mpr ret, ?_⟩⟩⟩⟩
      exact conventionMismatch?_eq_some_iff.mpr ⟨differ, rfl⟩

theorem convert_eq_error_iff {mismatch : Mismatch} :
    s.convert T t = .error mismatch ↔ s.FirstBroken T t mismatch := by
  rw [← mismatch?_eq_some_iff]
  unfold convert
  split
  · subst t
    have keeps : s.mismatch? T s = none := mismatch?_eq_none.mpr (s.widens_refl T)
    simp [keeps]
  · cases s.mismatch? T t <;> simp

theorem convert_eq_identity_iff : s.convert T t = .ok .identity ↔ s = t := by
  rw [convert_eq_ok_iff]
  by_cases same : s = t
  · simp [same, t.widens_refl T]
  · simp [same]

/-- What breaks no rule converts, one way or the other. -/
theorem convert_eq_handleToHandle_iff :
    s.convert T t = .ok .handleToHandle ↔
      s ≠ t ∧ ∀ mismatch, ¬s.FirstBroken T t mismatch := by
  have unbroken : s.widens T t = true ↔ ∀ mismatch, ¬s.FirstBroken T t mismatch := by
    simp only [← mismatch?_eq_some_iff, ← mismatch?_eq_none, Option.eq_none_iff_forall_ne_some]
  rw [convert_eq_ok_iff, unbroken, and_comm]
  by_cases same : s = t
  · simp [same]
  · simp [same]

/-- Equal parameters keep the rules on modes and types. -/
theorem rules_of_params (params : s.params = t.params) :
    List.Forall₂ Param.SameMode s.params t.params ∧
      List.Forall₂ (Param.TypePasses T) s.params t.params := by
  rw [params]
  constructor
  · exact List.forall₂_same.mpr fun _ _ => rfl
  · exact List.forall₂_same.mpr fun p _ => (Param.widens_iff.mp (p.widens_refl T)).2

/-- With equal parameters the return is the first thing to be wrong. -/
theorem convert_breaks_result (params : s.params = t.params) (ret : t.ret.widens T s.ret = false) :
    s.convert T t = .error (.result s.ret t.ret) := by
  obtain ⟨modes, types⟩ := rules_of_params (T := T) params
  refine convert_eq_error_iff.mpr (.result modes types ?_)
  rw [returnPasses_iff, ret]
  simp

theorem convert_breaks_convention (params : s.params = t.params)
    (ret : t.ret.widens T s.ret = true) (differ : s.convention ≠ t.convention) :
    s.convert T t = .error (.convention s.convention t.convention) := by
  obtain ⟨modes, types⟩ := rules_of_params (T := T) params
  exact convert_eq_error_iff.mpr (.convention modes types (returnPasses_iff.mpr ret) differ)

end Signature

/-- **The first mismatch is reported.** A conversion between handles is the identity exactly when they are
one handle, which comparing them part by part decides. Otherwise the answer is the first rule broken, with
what the two sides have there, and a conversion from handle to handle where none is broken. A cast is never
asked for. -/
theorem conversion_reports_first_broken (T : ClassTable) (s t : Signature) :
    (s.convert T t = .ok .identity ↔ s = t) ∧ (s.agrees t = true ↔ s = t) ∧
      (∀ mismatch, s.convert T t = .error mismatch ↔ s.FirstBroken T t mismatch) ∧
      (s.convert T t = .ok .handleToHandle ↔ s ≠ t ∧ ∀ mismatch, ¬s.FirstBroken T t mismatch) ∧
      ∀ handle, s.convert T t ≠ .error (.castRequired handle) := by
  refine ⟨Signature.convert_eq_identity_iff, Signature.agrees_iff,
    fun _ => Signature.convert_eq_error_iff, Signature.convert_eq_handleToHandle_iff, ?_⟩
  intro handle asked
  cases Signature.convert_eq_error_iff.mp asked

/-- The first and the third type, the second and the third mode, the return and the convention are all
wrong here, and the second mode is what is reported. -/
example :
    let call (first third ret : String) (mode : ParamMode) (convention : Convention) : Signature :=
      ⟨[⟨.con first, .byValue⟩, ⟨.con "int", mode⟩, ⟨.con third, mode⟩], ⟨.con ret, .byValue⟩,
        convention⟩
    (call "object" "object" "string" .byRef .cdecl).convert .standard
      (call "string" "string" "object" .byOut .managed) = .error (.mode 1 .byRef .byOut) := by
  decide +kernel

end CallHandle
