import CallHandle.Proofs.Nesting
import CallHandle.Signature.Formation
import CallHandle.Signature.Relabel

namespace CallHandle

/-- The conventions in a type, in the order in which they are stored. -/
def Ty.conventions (t : Ty) : List Convention :=
  t.signatures.map Signature.convention

theorem Param.signatures_eq : Param.signatures = fun p => p.ty.signatures := by
  funext p
  cases p
  rfl

theorem Signature.signatures_eq (s : Signature) :
    s.signatures = s :: (s.params.flatMap fun p => p.ty.signatures) ++ s.ret.ty.signatures := by
  obtain ⟨params, ⟨ty, mode⟩, convention⟩ := s
  simp only [Signature.signatures, Signature.signaturesIn_eq_flatMap, Param.signatures_eq,
    Return.signatures, List.cons_append]

theorem Signature.conventions_eq (s : Signature) :
    s.conventions =
      s.convention :: (s.params.flatMap fun p => p.ty.conventions) ++ s.ret.ty.conventions := by
  rw [Signature.conventions, s.signatures_eq]
  simp [Ty.conventions, List.map_flatMap]

@[simp] theorem Ty.conventions_handle (s : Signature) :
    (Ty.handle s).conventions = s.conventions :=
  rfl

@[simp] theorem Ty.conventions_ptr (t : Ty) : (Ty.ptr t).conventions = t.conventions :=
  rfl

/-- A handle type is valid when its signature keeps the rules and the types inside are valid. -/
theorem Ty.valid_handle {s : Signature} :
    (Ty.handle s).Valid ↔ s.WellFormed ∧ (∀ p ∈ s.params, p.ty.Valid) ∧ s.ret.ty.Valid := by
  have : (Ty.handle s).signatures = s.signatures := rfl
  simp only [Ty.Valid, this, s.signatures_eq, List.cons_append, List.mem_cons, List.mem_append,
    List.mem_flatMap]
  constructor
  · intro h
    exact ⟨h s (.inl rfl), fun p hp t ht => h t (.inr (.inl ⟨p, hp, ht⟩)),
      fun t ht => h t (.inr (.inr ht))⟩
  · rintro ⟨own, params, ret⟩ t (rfl | ⟨p, hp, ht⟩ | ht)
    · exact own
    · exact params p hp t ht
    · exact ret t ht

theorem Signature.valid_iff {s : Signature} :
    s.Valid ↔ s.WellFormed ∧ (∀ p ∈ s.params, p.ty.Valid) ∧ s.ret.ty.Valid :=
  Ty.valid_handle

/-! ## Relabeling -/

variable {f g : Convention → Convention}

theorem Param.relabel_eq (p : Param) : p.relabel f = ⟨p.ty.relabel f, p.mode⟩ := by
  cases p
  rfl

theorem Return.relabel_eq (r : Return) : r.relabel f = ⟨r.ty.relabel f, r.mode⟩ := by
  cases r
  rfl

theorem Signature.relabel_eq (s : Signature) :
    s.relabel f = ⟨s.params.map (Param.relabel f), s.ret.relabel f, f s.convention⟩ := by
  rw [← Signature.relabelParams_eq_map]
  cases s
  rfl

theorem Ty.relabel_relabel (t : Ty) : (t.relabel f).relabel g = t.relabel (g ∘ f) := by
  induction t with
  | con | voidPtr | void => rfl
  | ptr t ih => simp only [Ty.relabel, ih]
  | handle s hps hr =>
    have params : s.params.map (Param.relabel g ∘ Param.relabel f) =
        s.params.map (Param.relabel (g ∘ f)) := by
      apply List.map_congr_left
      intro p hp
      simp only [Function.comp_apply, Param.relabel_eq, hps p hp]
    simp only [Ty.relabel, Signature.relabel_eq, List.map_map, params, Return.relabel_eq, hr,
      Function.comp_apply]

theorem Signature.relabel_relabel (s : Signature) :
    (s.relabel f).relabel g = s.relabel (g ∘ f) :=
  Ty.handle.inj (Ty.handle s).relabel_relabel

/-- What two relabelings agree on is what they do to the conventions that occur. -/
theorem Ty.relabel_congr {t : Ty} :
    t.relabel f = t.relabel g ↔ ∀ c ∈ t.conventions, f c = g c := by
  induction t with
  | con | voidPtr | void => simp [Ty.relabel, Ty.conventions, Ty.signatures]
  | ptr t ih => simpa only [Ty.relabel, Ty.conventions_ptr, Ty.ptr.injEq] using ih
  | handle s hps hr =>
    have params : s.params.map (Param.relabel f) = s.params.map (Param.relabel g) ↔
        ∀ p ∈ s.params, ∀ c ∈ p.ty.conventions, f c = g c := by
      rw [List.map_inj_left]
      refine forall₂_congr fun p hp => ?_
      simp only [Param.relabel_eq, Param.mk.injEq, and_true, hps p hp]
    simp only [Ty.relabel, Signature.relabel_eq, Ty.handle.injEq, Signature.mk.injEq, params,
      Return.relabel_eq, Return.mk.injEq, and_true, hr, Ty.conventions_handle,
      Signature.conventions_eq, List.cons_append, List.mem_cons, List.mem_append, List.mem_flatMap]
    constructor
    · rintro ⟨params, ret, own⟩ c (rfl | ⟨p, hp, hc⟩ | hc)
      · exact own
      · exact params p hp c hc
      · exact ret c hc
    · intro h
      exact ⟨fun p hp c hc => h c (.inr (.inl ⟨p, hp, hc⟩)), fun c hc => h c (.inr (.inr hc)),
        h s.convention (.inl rfl)⟩

theorem Signature.relabel_congr {s : Signature} :
    s.relabel f = s.relabel g ↔ ∀ c ∈ s.conventions, f c = g c := by
  have := Ty.relabel_congr (f := f) (g := g) (t := .handle s)
  simpa only [Ty.relabel, Ty.handle.injEq, Ty.conventions_handle] using this

@[simp] theorem Ty.relabel_id (t : Ty) : t.relabel id = t := by
  induction t with
  | con | voidPtr | void => rfl
  | ptr t ih => simp only [Ty.relabel, ih]
  | handle s hps hr =>
    have params : s.params.map (Param.relabel id) = s.params := by
      rw [List.map_congr_left (g := id), List.map_id]
      intro p hp
      rw [Param.relabel_eq, hps p hp]
      exact Param.ext rfl rfl
    have ret : s.ret.relabel id = s.ret := by
      rw [Return.relabel_eq, hr]
      exact Return.ext rfl rfl
    rw [Ty.relabel, Signature.relabel_eq, params, ret]
    exact congrArg Ty.handle (Signature.ext rfl rfl rfl)

@[simp] theorem Signature.relabel_id (s : Signature) : s.relabel id = s :=
  Ty.handle.inj (Ty.handle s).relabel_id

/-- A relabeling that keeps every convention that occurs keeps the signature, and no other does. -/
theorem Signature.eq_relabel_iff {s : Signature} :
    s = s.relabel f ↔ ∀ c ∈ s.conventions, f c = c := by
  have agree := Signature.relabel_congr (s := s) (f := f) (g := id)
  rwa [Signature.relabel_id, eq_comm] at agree

theorem Ty.conventions_relabel (t : Ty) : (t.relabel f).conventions = t.conventions.map f := by
  induction t with
  | con | voidPtr | void => rfl
  | ptr t ih => exact ih
  | handle s hps hr =>
    have params : (s.params.flatMap fun p => (p.ty.relabel f).conventions) =
        s.params.flatMap fun p => p.ty.conventions.map f := by
      simp only [List.flatMap_def]
      rw [List.map_congr_left hps]
    simp only [Ty.relabel, Ty.conventions_handle, Signature.conventions_eq, Signature.relabel_eq,
      List.flatMap_map, Param.relabel_eq, Return.relabel_eq, params, hr, List.cons_append,
      List.map_cons, List.map_append, List.map_flatMap]

theorem Signature.conventions_relabel (s : Signature) :
    (s.relabel f).conventions = s.conventions.map f :=
  (Ty.handle s).conventions_relabel

@[simp] theorem Ty.isVoid_relabel (t : Ty) : (t.relabel f).isVoid = t.isVoid := by
  cases t <;> rfl

end CallHandle
