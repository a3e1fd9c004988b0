import CallHandle.Proofs.Ancestry
import CallHandle.Proofs.Nesting
import CallHandle.Widening
import Mathlib.Data.List.Forall2

namespace CallHandle

variable {T : ClassTable}

/-! ## What widens to what -/

theorem Ty.con_widens {m : String} {b : Ty} :
    (Ty.con m).widens T b = true ↔ ∃ n, b = .con n ∧ (m = n ∨ T.Derives m n) := by
  cases b <;> simp [Ty.widens, ClassTable.isSubclass_iff_derives]

theorem Ty.ptr_widens {t b : Ty} :
    (Ty.ptr t).widens T b = true ↔ b = .ptr t ∨ b = .voidPtr := by
  cases b with
  | ptr u => simpa [Ty.widens] using eq_comm
  | _ => simp [Ty.widens]

theorem Ty.voidPtr_widens {b : Ty} : Ty.voidPtr.widens T b = true ↔ b = .voidPtr := by
  cases b <;> simp [Ty.widens]

theorem Ty.void_widens {b : Ty} : Ty.void.widens T b = true ↔ b = .void := by
  cases b <;> simp [Ty.widens]

theorem Ty.handle_widens {s : Signature} {b : Ty} :
    (Ty.handle s).widens T b = true ↔ b = .voidPtr ∨ ∃ t, b = .handle t ∧ s.widens T t = true := by
  cases b <;> simp [Ty.widens]

theorem Ty.widens_con {a : Ty} {n : String} :
    a.widens T (.con n) = true ↔ ∃ m, a = .con m ∧ (m = n ∨ T.Derives m n) := by
  cases a <;> simp [Ty.widens, ClassTable.isSubclass_iff_derives]

theorem Ty.widens_ptr {a t : Ty} : a.widens T (.ptr t) = true ↔ a = .ptr t := by
  cases a <;> simp [Ty.widens]

theorem Ty.widens_handle {a : Ty} {t : Signature} :
    a.widens T (.handle t) = true ↔ ∃ s, a = .handle s ∧ s.widens T t = true := by
  cases a <;> simp [Ty.widens]

/-- What is asked of the types of two descriptors with one mode. -/
def Ty.Passes (T : ClassTable) (byRef : Bool) (t u : Ty) : Prop :=
  if byRef then t = u else t.widens T u = true

theorem Param.widens_iff {p q : Param} :
    p.widens T q = true ↔ p.mode = q.mode ∧ p.ty.Passes T p.mode.isByRef q.ty := by
  obtain ⟨t, m⟩ := p
  obtain ⟨u, n⟩ := q
  cases hm : m.isByRef <;> simp [Param.widens, Ty.Passes, hm]

theorem Return.widens_iff {r q : Return} :
    r.widens T q = true ↔ r.mode = q.mode ∧ r.ty.Passes T r.mode.isByRef q.ty := by
  obtain ⟨t, m⟩ := r
  obtain ⟨u, n⟩ := q
  cases hm : m.isByRef <;> simp [Return.widens, Ty.Passes, hm]

theorem Signature.paramsWiden_iff {ps qs : List Param} :
    Signature.paramsWiden T ps qs = true ↔
      List.Forall₂ (fun p q => p.widens T q = true) ps qs := by
  induction ps generalizing qs with
  | nil => cases qs <;> simp [Signature.paramsWiden]
  | cons p ps ih => cases qs <;> simp [Signature.paramsWiden, ih]

theorem Signature.widens_iff {s t : Signature} :
    s.widens T t = true ↔
      List.Forall₂ (fun p q => p.widens T q = true) s.params t.params ∧
        t.ret.widens T s.ret = true ∧ s.convention = t.convention := by
  obtain ⟨ps, r, c⟩ := s
  obtain ⟨qs, q, d⟩ := t
  simp [Signature.widens, Signature.paramsWiden_iff, and_assoc]

/-! ## Composing -/

theorem forall₂_trans {α : Type} {R : α → α → Prop} {xs ys zs : List α}
    (h : ∀ y ∈ ys, ∀ x z, R x y → R y z → R x z) (hxy : List.Forall₂ R xs ys)
    (hyz : List.Forall₂ R ys zs) : List.Forall₂ R xs zs := by
  induction hxy generalizing zs with
  | nil => exact hyz
  | cons hx _ ih =>
    cases hyz with
    | cons hz hzs =>
      exact .cons (h _ (by simp) _ _ hx hz) (ih (fun y hy => h y (by simp [hy])) hzs)

theorem Ty.Passes.trans {byRef : Bool} {a b c : Ty}
    (h : a.widens T b = true → b.widens T c = true → a.widens T c = true)
    (hab : a.Passes T byRef b) (hbc : b.Passes T byRef c) : a.Passes T byRef c := by
  cases byRef with
  | true => exact Eq.trans (b := b) hab hbc
  | false => exact h hab hbc

/-- Widening composes. The induction is on the type in the middle: it stands between the two others
in the parameters of a handle, and between them the other way round in the return. -/
theorem Ty.widens_trans {a b c : Ty} (hab : a.widens T b = true) (hbc : b.widens T c = true) :
    a.widens T c = true := by
  induction b generalizing a c with
  | con n =>
    obtain ⟨k, rfl, hk⟩ := Ty.con_widens.mp hbc
    obtain ⟨m, rfl, hm⟩ := Ty.widens_con.mp hab
    refine Ty.con_widens.mpr ⟨k, rfl, ?_⟩
    rcases hm with rfl | hm
    · exact hk
    · rcases hk with rfl | hk
      · exact .inr hm
      · exact .inr (hm.trans hk)
  | ptr t _ =>
    obtain rfl := Ty.widens_ptr.mp hab
    exact hbc
  | voidPtr =>
    obtain rfl := Ty.voidPtr_widens.mp hbc
    exact hab
  | void =>
    obtain rfl := Ty.void_widens.mp hbc
    exact hab
  | handle t hps hr =>
    obtain ⟨s, rfl, hst⟩ := Ty.widens_handle.mp hab
    rcases Ty.handle_widens.mp hbc with rfl | ⟨u, rfl, htu⟩
    · exact Ty.handle_widens.mpr (.inl rfl)
    · refine Ty.handle_widens.mpr (.inr ⟨u, rfl, ?_⟩)
      obtain ⟨hsp, hsr, hsc⟩ := Signature.widens_iff.mp hst
      obtain ⟨htp, htr, htc⟩ := Signature.widens_iff.mp htu
      refine Signature.widens_iff.mpr ⟨forall₂_trans ?_ hsp htp, ?_, hsc.trans htc⟩
      · intro q hq p v hpq hqv
        rw [Param.widens_iff] at hpq hqv ⊢
        rw [← hpq.1] at hqv
        exact ⟨hqv.1, hpq.2.trans (hps q hq) hqv.2⟩
      · rw [Return.widens_iff] at hsr htr ⊢
        rw [← htr.1] at hsr
        exact ⟨hsr.1, htr.2.trans hr hsr.2⟩

theorem Signature.widens_trans {s t u : Signature} (hst : s.widens T t = true)
    (htu : t.widens T u = true) : s.widens T u = true := by
  have h : (Ty.handle s).widens T (.handle u) = true :=
    Ty.widens_trans (Ty.handle_widens.mpr (.inr ⟨t, rfl, hst⟩))
      (Ty.handle_widens.mpr (.inr ⟨u, rfl, htu⟩))
  simpa [Ty.widens] using h

/-! ## Both ways -/

/-- Two relations that together leave only equality do so for lists as well. -/
theorem eq_of_forall₂ {α : Type} {R S : α → α → Prop} {xs ys : List α}
    (h : ∀ x ∈ xs, ∀ y, R x y → S x y → x = y) (hR : List.Forall₂ R xs ys)
    (hS : List.Forall₂ S xs ys) : xs = ys := by
  induction hR with
  | nil => rfl
  | cons hx _ ih =>
    cases hS with
    | cons hy hys =>
      rw [h _ (by simp) _ hx hy, ih (fun x hx => h x (by simp [hx])) hys]

theorem Ty.Passes.antisymm {byRef : Bool} {a b : Ty}
    (h : a.widens T b = true → b.widens T a = true → a = b)
    (hab : a.Passes T byRef b) (hba : b.Passes T byRef a) : a = b := by
  cases byRef with
  | true => exact hab
  | false => exact h hab hba

/-- Only a cycle of classes makes two types widen to each other. -/
theorem Ty.widens_antisymm (hT : T.Acyclic) {a b : Ty} (hab : a.widens T b = true)
    (hba : b.widens T a = true) : a = b := by
  induction a generalizing b with
  | con m =>
    obtain ⟨n, rfl, hn⟩ := Ty.con_widens.mp hab
    obtain ⟨_, hm, hm'⟩ := Ty.con_widens.mp hba
    obtain rfl := Ty.con.inj hm
    rcases hn with rfl | hn
    · rfl
    · rcases hm' with rfl | hm'
      · rfl
      · exact absurd (hn.trans hm') (hT m)
  | ptr t _ => exact (Ty.widens_ptr.mp hba).symm
  | voidPtr => exact (Ty.voidPtr_widens.mp hab).symm
  | void => exact (Ty.void_widens.mp hab).symm
  | handle s hps hr =>
    obtain ⟨t, rfl, hts⟩ := Ty.widens_handle.mp hba
    rcases Ty.handle_widens.mp hab with h | ⟨_, h, hst⟩
    · cases h
    obtain rfl := Ty.handle.inj h
    obtain ⟨hsp, hsr, hsc⟩ := Signature.widens_iff.mp hst
    obtain ⟨htp, htr, -⟩ := Signature.widens_iff.mp hts
    rw [Return.widens_iff] at hsr htr
    rw [← htr.1] at hsr
    have params : s.params = t.params := by
      refine eq_of_forall₂ ?_ hsp (List.Forall₂.flip htp)
      intro p hp q hpq hqp
      rw [Param.widens_iff] at hpq hqp
      rw [← hpq.1] at hqp
      exact Param.ext (hpq.2.antisymm (hps p hp) hqp.2) hpq.1
    have ret : s.ret = t.ret := Return.ext (htr.2.antisymm hr hsr.2) htr.1
    rw [Signature.ext params ret hsc]

theorem Signature.widens_antisymm (hT : T.Acyclic) {s t : Signature} (hst : s.widens T t = true)
    (hts : t.widens T s = true) : s = t :=
  Ty.handle.inj (Ty.widens_antisymm hT (Ty.handle_widens.mpr (.inr ⟨t, rfl, hst⟩))
    (Ty.handle_widens.mpr (.inr ⟨s, rfl, hts⟩)))

theorem Param.widens_antisymm (hT : T.Acyclic) {p q : Param} (hpq : p.widens T q = true)
    (hqp : q.widens T p = true) : p = q := by
  rw [Param.widens_iff] at hpq hqp
  rw [← hpq.1] at hqp
  exact Param.ext (hpq.2.antisymm (Ty.widens_antisymm hT) hqp.2) hpq.1

/-! ## On one line -/

/-- Above a type that is no handle there are a class and its ancestors, or a pointer and `void*`,
and of any two of them one widens to the other. Handles have parameters to differ in. -/
theorem Ty.widens_comparable {a b c : Ty} (ha : ∀ s, a ≠ .handle s) (hb : a.widens T b = true)
    (hc : a.widens T c = true) : b.widens T c = true ∨ c.widens T b = true := by
  cases a with
  | con m =>
    obtain ⟨n, rfl, hn⟩ := Ty.con_widens.mp hb
    obtain ⟨k, rfl, hk⟩ := Ty.con_widens.mp hc
    rcases hn with rfl | hn
    · exact .inl hc
    rcases hk with rfl | hk
    · exact .inr hb
    rcases hn.comparable hk with rfl | h | h
    · exact .inl (Ty.widens_refl T _)
    · exact .inl (Ty.con_widens.mpr ⟨k, rfl, .inr h⟩)
    · exact .inr (Ty.con_widens.mpr ⟨n, rfl, .inr h⟩)
  | ptr t =>
    rcases Ty.ptr_widens.mp hb with rfl | rfl
    · exact .inl hc
    · rcases Ty.ptr_widens.mp hc with rfl | rfl
      · exact .inr hb
      · exact .inl (Ty.widens_refl T _)
  | voidPtr =>
    obtain rfl := Ty.voidPtr_widens.mp hb
    exact .inl hc
  | void =>
    obtain rfl := Ty.void_widens.mp hb
    exact .inl hc
  | handle s => exact absurd rfl (ha s)

end CallHandle
