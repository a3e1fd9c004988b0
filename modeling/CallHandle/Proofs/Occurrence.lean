import CallHandle.Proofs.Reading
import CallHandle.Proofs.Relabeling
import CallHandle.Proofs.StoredNesting

namespace CallHandle

/-! ## In types -/

namespace Ty

/-- The type stands somewhere in the other, at any depth. -/
inductive OccursIn (u : Ty) : Ty → Prop where
  | here : OccursIn u u
  | pointee {t : Ty} (inside : OccursIn u t) : OccursIn u (ptr t)
  | param {s : Signature} {p : Param} (hp : p ∈ s.params) (inside : OccursIn u p.ty) :
      OccursIn u (handle s)
  | ret {s : Signature} (inside : OccursIn u s.ret.ty) : OccursIn u (handle s)

variable {t u v : Ty} {s : Signature}

theorem OccursIn.trans (inner : u.OccursIn t) (outer : t.OccursIn v) : u.OccursIn v := by
  induction outer with
  | here => exact inner
  | pointee _ ih => exact .pointee ih
  | param hp _ ih => exact .param hp ih
  | ret _ ih => exact .ret ih

theorem occursIn_con_iff {name : String} : u.OccursIn (con name) ↔ u = con name := by
  constructor
  · intro h
    cases h
    rfl
  · rintro rfl
    exact .here

theorem occursIn_voidPtr_iff : u.OccursIn voidPtr ↔ u = voidPtr := by
  constructor
  · intro h
    cases h
    rfl
  · rintro rfl
    exact .here

theorem occursIn_void_iff : u.OccursIn void ↔ u = void := by
  constructor
  · intro h
    cases h
    rfl
  · rintro rfl
    exact .here

theorem occursIn_ptr_iff : u.OccursIn (ptr t) ↔ u = ptr t ∨ u.OccursIn t := by
  constructor
  · intro h
    cases h with
    | here => exact .inl rfl
    | pointee inside => exact .inr inside
  · rintro (rfl | inside)
    · exact .here
    · exact .pointee inside

theorem occursIn_handle_iff :
    u.OccursIn (handle s) ↔
      u = handle s ∨ (∃ p ∈ s.params, u.OccursIn p.ty) ∨ u.OccursIn s.ret.ty := by
  constructor
  · intro h
    cases h with
    | here => exact .inl rfl
    | param hp inside => exact .inr (.inl ⟨_, hp, inside⟩)
    | ret inside => exact .inr (.inr inside)
  · rintro (rfl | ⟨p, hp, inside⟩ | inside)
    · exact .here
    · exact .param hp inside
    · exact .ret inside

/-- The signatures of a type are those of the handles that occur in it. -/
theorem handle_occursIn_iff : (handle s).OccursIn t ↔ s ∈ t.signatures := by
  induction t with
  | con | voidPtr | void =>
    simp [occursIn_con_iff, occursIn_voidPtr_iff, occursIn_void_iff, signatures]
  | ptr t ih => simpa [occursIn_ptr_iff, signatures] using ih
  | handle q hps hr =>
    have params : (∃ p ∈ q.params, (handle s).OccursIn p.ty) ↔
        ∃ p ∈ q.params, s ∈ p.ty.signatures :=
      exists_congr fun p => and_congr_right fun hp => hps p hp
    rw [occursIn_handle_iff, params, hr, signatures, q.signatures_eq]
    simp only [handle.injEq, List.cons_append, List.mem_cons, List.mem_append, List.mem_flatMap]

theorem valid_iff_occursIn : t.Valid ↔ ∀ s, (handle s).OccursIn t → s.WellFormed := by
  simp only [handle_occursIn_iff, Valid]

/-- A handle inside a handle is behind it, so the outermost one is found behind the data pointers. -/
theorem containsHandle_iff : t.containsHandle = true ↔ ∃ s, (handle s).OccursIn t := by
  induction t with
  | con | voidPtr | void =>
    simp [occursIn_con_iff, occursIn_voidPtr_iff, occursIn_void_iff, containsHandle]
  | ptr t ih => simpa [occursIn_ptr_iff, containsHandle] using ih
  | handle q => exact iff_of_true rfl ⟨q, .here⟩

end Ty

/-! ## In what is loaded -/

namespace StoredTy

/-- The stored type stands somewhere in the other, at any depth. -/
inductive OccursIn (f : StoredTy) : StoredTy → Prop where
  | here : OccursIn f f
  | pointee {e : StoredTy} (inside : OccursIn f e) : OccursIn f (ptr e)
  | param {e : StoredSignature} {d : StoredDescriptor} (hd : d ∈ e.params) (inside : OccursIn f d.ty) :
      OccursIn f (handle e)
  | ret {e : StoredSignature} (inside : OccursIn f e.ret.ty) : OccursIn f (handle e)

variable {r : Registry} {e f : StoredTy} {t u : Ty}

/-- A stored type is loaded as what occurs where it does itself. -/
theorem OccursIn.load (occurs : f.OccursIn e) (ht : e.load r = .ok t) (hu : f.load r = .ok u) :
    u.OccursIn t := by
  induction occurs generalizing t with
  | here =>
    obtain rfl : u = t := Except.ok.inj (hu.symm.trans ht)
    exact .here
  | pointee _ ih =>
    obtain ⟨v, hv, rfl⟩ := load_ptr_eq_ok_iff.mp ht
    exact .pointee (ih hv)
  | param hd _ ih =>
    obtain ⟨s, hs, rfl⟩ := load_handle_eq_ok_iff.mp ht
    obtain ⟨-, params, -⟩ := StoredSignature.load_eq_ok_iff.mp hs
    obtain ⟨p, hp, -, -, ty⟩ := exists_of_mem_left (StoredSignature.loadParams_eq_ok_iff.mp params) hd
    exact .param hp (ih ty)
  | ret _ ih =>
    obtain ⟨s, hs, rfl⟩ := load_handle_eq_ok_iff.mp ht
    obtain ⟨-, -, ret, -⟩ := StoredSignature.load_eq_ok_iff.mp hs
    obtain ⟨-, -, ty⟩ := StoredDescriptor.loadReturn_eq_ok_iff.mp ret
    exact .ret (ih ty)

theorem exists_of_occursIn_load (ht : e.load r = .ok t) (occurs : u.OccursIn t) :
    ∃ f : StoredTy, f.OccursIn e ∧ f.load r = .ok u := by
  induction e generalizing t with
  | named | voidPtr | void =>
    obtain ⟨⟩ := ht
    cases occurs
    exact ⟨_, .here, rfl⟩
  | ptr e ih =>
    obtain ⟨v, hv, rfl⟩ := load_ptr_eq_ok_iff.mp ht
    cases occurs with
    | here => exact ⟨_, .here, ht⟩
    | pointee inside =>
      obtain ⟨f, hf, loaded⟩ := ih hv inside
      exact ⟨f, .pointee hf, loaded⟩
  | handle e hps hr =>
    obtain ⟨s, hs, rfl⟩ := load_handle_eq_ok_iff.mp ht
    obtain ⟨-, params, ret, -⟩ := StoredSignature.load_eq_ok_iff.mp hs
    cases occurs with
    | here => exact ⟨_, .here, ht⟩
    | param hp inside =>
      obtain ⟨d, hd, -, -, ty⟩ :=
        exists_of_mem_right (StoredSignature.loadParams_eq_ok_iff.mp params) hp
      obtain ⟨f, hf, loaded⟩ := hps d hd ty inside
      exact ⟨f, .param hd hf, loaded⟩
    | ret inside =>
      obtain ⟨-, -, ty⟩ := StoredDescriptor.loadReturn_eq_ok_iff.mp ret
      obtain ⟨f, hf, loaded⟩ := hr ty inside
      exact ⟨f, .ret hf, loaded⟩

theorem occursIn_load_iff (ht : e.load r = .ok t) :
    u.OccursIn t ↔ ∃ f : StoredTy, f.OccursIn e ∧ f.load r = .ok u := by
  constructor
  · exact exists_of_occursIn_load ht
  · rintro ⟨f, occurs, loaded⟩
    exact occurs.load ht loaded

end StoredTy

/-! ## In what is read -/

mutual

/-- Whatever occurs in a type that is read was read itself, from the value or from one inside it. -/
theorem Ty.exists_within_of_read {j : Json} {t u : Ty} (h : Ty.read j = .ok t) (occurs : u.OccursIn t) :
    ∃ k, k.Within j ∧ Ty.read k = .ok u := by
  rcases Ty.cases_of_read h with ⟨name, rfl⟩ | ⟨part, t, within, read, rfl⟩ | rfl |
    ⟨part, s, within, read, rfl⟩ | rfl
  · obtain rfl := Ty.occursIn_con_iff.mp occurs
    exact ⟨j, .here, h⟩
  · rcases Ty.occursIn_ptr_iff.mp occurs with rfl | inside
    · exact ⟨j, .here, h⟩
    · obtain ⟨k, deeper, found⟩ := Ty.exists_within_of_read read inside
      exact ⟨k, deeper.trans within, found⟩
  · obtain rfl := Ty.occursIn_voidPtr_iff.mp occurs
    exact ⟨j, .here, h⟩
  · rcases Ty.occursIn_handle_iff.mp occurs with rfl | inside
    · exact ⟨j, .here, h⟩
    · obtain ⟨k, deeper, found⟩ := Signature.exists_within_of_readHandle read inside
      exact ⟨k, deeper.trans within, found⟩
  · obtain rfl := Ty.occursIn_void_iff.mp occurs
    exact ⟨j, .here, h⟩
termination_by sizeOf j
decreasing_by all_goals exact part.2

theorem Signature.exists_within_of_read {j : Json} {s : Signature} {u : Ty}
    (h : Signature.read j = .ok s) (occurs : (∃ p ∈ s.params, u.OccursIn p.ty) ∨ u.OccursIn s.ret.ty) :
    ∃ k, k.Within j ∧ Ty.read k = .ok u := by
  obtain ⟨-, params, ⟨last, ret, readRet⟩, -⟩ := Signature.make_of_read h
  rcases occurs with ⟨p, hp, inside⟩ | inside
  · obtain ⟨item, param, readParam⟩ := params p hp
    obtain ⟨ty, field, read⟩ := Param.ty_of_read readParam
    obtain ⟨k, deeper, found⟩ := Ty.exists_within_of_read read inside
    exact ⟨k, deeper.trans (field.trans param), found⟩
  · obtain ⟨ty, field, read⟩ := Return.ty_of_read readRet
    obtain ⟨k, deeper, found⟩ := Ty.exists_within_of_read read inside
    exact ⟨k, deeper.trans (field.trans ret), found⟩
termination_by sizeOf j
decreasing_by
  · exact Nat.lt_trans ty.2 item.2
  · exact Nat.lt_trans ty.2 last.2

theorem Signature.exists_within_of_readHandle {j : Json} {s : Signature} {u : Ty}
    (h : Signature.readHandle j = .ok s)
    (occurs : (∃ p ∈ s.params, u.OccursIn p.ty) ∨ u.OccursIn s.ret.ty) :
    ∃ k, k.Within j ∧ Ty.read k = .ok u := by
  obtain ⟨part, within, read⟩ := Signature.exists_of_readHandle h
  obtain ⟨k, deeper, found⟩ := Signature.exists_within_of_read read occurs
  exact ⟨k, deeper.trans within, found⟩
termination_by sizeOf j
decreasing_by exact part.2

end

end CallHandle
