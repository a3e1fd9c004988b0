import CallHandle.Conversion
import CallHandle.Proofs.WideningOrder
import CallHandle.Widening.Order

/-! `Ty.Le` states the order of types by its steps, with a step for transitivity. The algorithms have none,
and take two short cuts: equal signatures convert at once, and the pointer kind of widening leaves equal
handles to the identity kind. They decide the order all the same. -/

namespace CallHandle

variable {T : ClassTable}

/-! ## Conversion against widening -/

theorem Signature.forall_paired {s t : Signature} {P : Param × Param → Prop} :
    (∀ entry ∈ s.paired t, P entry.1) ↔ ∀ pair ∈ s.params.zip t.params, P pair := by
  unfold Signature.paired
  constructor
  · intro h pair hp
    rw [← List.zipIdx_map_fst 0 (s.params.zip t.params)] at hp
    obtain ⟨entry, he, rfl⟩ := List.mem_map.mp hp
    exact h entry he
  · intro h entry he
    exact h entry.1 (List.fst_mem_of_mem_zipIdx he)

theorem Signature.modeMismatch?_eq_none {s t : Signature} :
    s.modeMismatch? t = none ↔ ∀ pair ∈ s.params.zip t.params, pair.1.mode = pair.2.mode := by
  rw [← Signature.forall_paired]
  simp [Signature.modeMismatch?]

theorem Signature.typeMismatch?_eq_none {s t : Signature} :
    s.typeMismatch? T t = none ↔
      ∀ pair ∈ s.params.zip t.params, pair.1.ty.Passes T pair.1.mode.isByRef pair.2.ty := by
  rw [← Signature.forall_paired]
  simp [Signature.typeMismatch?, Ty.Passes]

/-- The rules of conversion, one after another, are those of widening taken together. -/
theorem Signature.mismatch?_eq_none {s t : Signature} :
    s.mismatch? T t = none ↔ s.widens T t = true := by
  have params : s.params.length = t.params.length ∧ s.modeMismatch? t = none ∧
      s.typeMismatch? T t = none ↔
        List.Forall₂ (fun p q => p.widens T q = true) s.params t.params := by
    rw [Signature.modeMismatch?_eq_none, Signature.typeMismatch?_eq_none, List.forall₂_iff_zip]
    simp only [Param.widens_iff]
    constructor
    · rintro ⟨length, modes, types⟩
      exact ⟨length, fun h => ⟨modes _ h, types _ h⟩⟩
    · rintro ⟨length, h⟩
      exact ⟨length, fun _ hp => (h hp).1, fun _ hp => (h hp).2⟩
  rw [Signature.widens_iff, ← params]
  simp [Signature.mismatch?, Signature.countMismatch?, Signature.resultMismatch?,
    Signature.conventionMismatch?, Convention.compatible, and_assoc]

/-- Equal signatures convert at once. The rules would let them pass as well. -/
theorem Signature.isOk_convert {s t : Signature} :
    (s.convert T t).isOk = s.widens T t := by
  unfold Signature.convert
  split
  · subst t
    simp [Except.isOk, Except.toBool, Signature.widens_refl]
  · cases h : s.mismatch? T t with
    | none => simp [Except.isOk, Except.toBool, Signature.mismatch?_eq_none.mp h]
    | some mismatch =>
      have : s.widens T t ≠ true := fun hw => by simp [Signature.mismatch?_eq_none.mpr hw] at h
      simpa [Except.isOk, Except.toBool] using this

/-- The kind of a conversion says whether the handles are one handle, and does not depend on the table. -/
theorem Signature.convert_eq_ok_iff {s t : Signature} {kind : Conversion} :
    s.convert T t = .ok kind ↔
      s.widens T t = true ∧ kind = if s = t then .identity else .handleToHandle := by
  rw [← Signature.isOk_convert]
  unfold Signature.convert
  by_cases same : s = t
  · simp [same, Except.isOk, Except.toBool, eq_comm]
  · cases s.mismatch? T t <;> simp [same, Except.isOk, Except.toBool, eq_comm]

/-- A type widens by the kind that fits the two types. Equal handles are left to the identity. -/
theorem Widening.any_applies {a b : Ty} :
    (Widening.all.any fun kind => kind.applies T a b) = a.widens T b := by
  rw [Bool.eq_iff_iff]
  cases a with
  | handle s =>
    cases b with
    | handle t =>
      by_cases h : s = t
      · simp [Widening.all, Widening.applies, Ty.widens, h, Signature.widens_refl]
      · simp [Widening.all, Widening.applies, Ty.widens, h]
    | _ => simp [Widening.all, Widening.applies, Ty.widens]
  | _ => cases b <;> simp [Widening.all, Widening.applies, Ty.widens]

/-! ## Widening against the order -/

theorem Ty.le_of_derives {m n : String} (h : T.Derives m n) : Ty.Le T (.con m) (.con n) := by
  induction h with
  | base hb => exact .base hb
  | step hb _ ih => exact .trans (.base hb) ih

/-- A handle step of the order from the two halves of a widening between handles. -/
theorem Ty.le_of_descriptors {s t : Signature}
    (params : List.Forall₂ (fun p q => p.widens T q = true) s.params t.params)
    (ret : t.ret.widens T s.ret = true) (convention : s.convention = t.convention)
    (hp : ∀ pair ∈ s.params.zip t.params,
      pair.1.ty.widens T pair.2.ty = true → Ty.Le T pair.1.ty pair.2.ty)
    (hr : t.ret.ty.widens T s.ret.ty = true → Ty.Le T t.ret.ty s.ret.ty) :
    Ty.Le T (.handle s) (.handle t) := by
  obtain ⟨length, pairs⟩ := List.forall₂_iff_zip.mp params
  simp only [Param.widens_iff] at pairs
  obtain ⟨mode, passes⟩ := Return.widens_iff.mp ret
  refine .handle length (fun _ h => (pairs h).1) ?_ ?_ mode.symm ?_ ?_ convention
  · intro pair h byValue
    have := (pairs h).2
    simp only [Ty.Passes, ParamMode.isByRef, byValue] at this
    exact hp pair h this
  · intro pair h byRef
    simpa [Ty.Passes, ParamMode.isByRef, byRef] using (pairs h).2
  · intro byValue
    simp only [Ty.Passes, ReturnMode.isByRef, mode, byValue] at passes
    exact hr passes
  · intro byRef
    have : t.ret.ty = s.ret.ty := by
      simpa [Ty.Passes, ReturnMode.isByRef, mode, byRef] using passes
    exact this.symm

/-- Widening takes steps of the order only. Both directions go through the induction together,
since the return of a handle is compared the other way round. -/
theorem Ty.le_of_widens_both (a : Ty) : ∀ b : Ty,
    (a.widens T b = true → Ty.Le T a b) ∧ (b.widens T a = true → Ty.Le T b a) := by
  induction a with
  | con m =>
    intro b
    constructor
    · intro h
      obtain ⟨n, rfl, rfl | hn⟩ := Ty.con_widens.mp h
      · exact .refl _
      · exact Ty.le_of_derives hn
    · intro h
      obtain ⟨n, rfl, rfl | hn⟩ := Ty.widens_con.mp h
      · exact .refl _
      · exact Ty.le_of_derives hn
  | ptr t _ =>
    intro b
    constructor
    · intro h
      rcases Ty.ptr_widens.mp h with rfl | rfl
      · exact .refl _
      · exact .pointer t
    · intro h
      obtain rfl := Ty.widens_ptr.mp h
      exact .refl _
  | voidPtr =>
    intro b
    constructor
    · intro h
      obtain rfl := Ty.voidPtr_widens.mp h
      exact .refl _
    · intro h
      cases b with
      | ptr t => exact .pointer t
      | voidPtr => exact .refl _
      | handle s => exact .untyped s
      | con _ => simp [Ty.widens] at h
      | void => simp [Ty.widens] at h
  | void =>
    intro b
    constructor
    · intro h
      obtain rfl := Ty.void_widens.mp h
      exact .refl _
    · intro h
      cases b with
      | void => exact .refl _
      | _ => simp [Ty.widens] at h
  | handle s hps hr =>
    intro b
    constructor
    · intro h
      rcases Ty.handle_widens.mp h with rfl | ⟨t, rfl, hst⟩
      · exact .untyped s
      · obtain ⟨params, ret, convention⟩ := Signature.widens_iff.mp hst
        refine Ty.le_of_descriptors params ret convention ?_ (hr _).2
        intro pair hp
        exact (hps _ (List.of_mem_zip hp).1 _).1
    · intro h
      obtain ⟨t, rfl, hts⟩ := Ty.widens_handle.mp h
      obtain ⟨params, ret, convention⟩ := Signature.widens_iff.mp hts
      refine Ty.le_of_descriptors params ret convention ?_ (hr _).1
      intro pair hp
      exact (hps _ (List.of_mem_zip hp).2 _).2

/-- Every step of the order is a widening, and widenings compose. -/
theorem Ty.widens_of_le {a b : Ty} (h : Ty.Le T a b) : a.widens T b = true := by
  induction h with
  | refl t => exact Ty.widens_refl T t
  | trans _ _ hab hbc => exact Ty.widens_trans hab hbc
  | base hb => exact Ty.con_widens.mpr ⟨_, rfl, .inr (.base hb)⟩
  | pointer t => exact Ty.ptr_widens.mpr (.inr rfl)
  | untyped s => exact Ty.handle_widens.mpr (.inl rfl)
  | @handle s t length modes _ types retMode _ retType convention ihp ihr =>
    refine Ty.handle_widens.mpr (.inr ⟨t, rfl, Signature.widens_iff.mpr ⟨?_, ?_, convention⟩⟩)
    · refine List.forall₂_iff_zip.mpr ⟨length, fun {p q} hp => Param.widens_iff.mpr ⟨modes _ hp, ?_⟩⟩
      by_cases byValue : p.mode = .byValue
      · simpa [Ty.Passes, ParamMode.isByRef, byValue] using ihp _ hp byValue
      · simpa [Ty.Passes, ParamMode.isByRef, byValue] using types _ hp byValue
    · refine Return.widens_iff.mpr ⟨retMode.symm, ?_⟩
      by_cases byValue : s.ret.mode = .byValue
      · simpa [Ty.Passes, ReturnMode.isByRef, ← retMode, byValue] using ihr byValue
      · simpa [Ty.Passes, ReturnMode.isByRef, ← retMode, byValue] using (retType byValue).symm

theorem Ty.widens_iff_le {a b : Ty} : a.widens T b = true ↔ Ty.Le T a b :=
  ⟨(Ty.le_of_widens_both a b).1, Ty.widens_of_le⟩

/-- **Conversion decides the order.** Widening, whether asked at once or kind by kind, is the order
of types, and a handle converts to another exactly when the order has a step or a chain of steps
between them. So conversion goes from every handle to itself and composes. -/
theorem conversion_decides_order (T : ClassTable) :
    (∀ a b : Ty, a.widens T b = true ↔ Ty.Le T a b) ∧
      (∀ a b : Ty, a.widens T b = Widening.all.any fun kind => kind.applies T a b) ∧
      (∀ s t : Signature, Widening.pointer.applies T (.handle s) (.handle t) =
        (s != t && (s.convert T t).isOk)) ∧
      (∀ s t : Signature, (s.convert T t).isOk = true ↔ Ty.Le T (.handle s) (.handle t)) ∧
      (∀ s : Signature, (s.convert T s).isOk = true) ∧
      ∀ s t u : Signature, (s.convert T t).isOk = true → (t.convert T u).isOk = true →
        (s.convert T u).isOk = true := by
  refine ⟨fun a b => Ty.widens_iff_le, fun a b => Widening.any_applies.symm, ?_, ?_, ?_, ?_⟩
  · intro s t
    rw [Signature.isOk_convert]
    rfl
  · intro s t
    rw [Signature.isOk_convert, ← Ty.widens_iff_le, Ty.widens]
  · intro s
    rw [Signature.isOk_convert]
    exact s.widens_refl T
  · intro s t u hst htu
    rw [Signature.isOk_convert] at hst htu ⊢
    exact Signature.widens_trans hst htu

/-- Three handles in a row: a parameter that is a handle itself goes from one that takes a `Dog` to
one that takes an `Animal` to `void*`, a reference stays, and the return goes down to a `Dog`. -/
theorem conversion_chain :
    let T := (ClassTable.standard.register "Dog" "Animal").register "Animal" "object"
    let taking (name : String) : Ty :=
      .handle ⟨[⟨.con name, .byValue⟩], ⟨.void, .byValue⟩, .managed⟩
    let call (first : Ty) (result : String) : Signature :=
      ⟨[⟨first, .byValue⟩, ⟨.con "Dog", .byOut⟩], ⟨.con result, .byValue⟩, .cdecl⟩
    let s := call (taking "Dog") "object"
    let t := call (taking "Animal") "Animal"
    let u := call .voidPtr "Dog"
    (s.convert T t).isOk = true ∧ (t.convert T u).isOk = true ∧ (s.convert T u).isOk = true := by
  intro T taking call s t u
  have hst : (s.convert T t).isOk = true := by decide +kernel
  have htu : (t.convert T u).isOk = true := by decide +kernel
  exact ⟨hst, htu, (conversion_decides_order T).2.2.2.2.2 s t u hst htu⟩

end CallHandle
