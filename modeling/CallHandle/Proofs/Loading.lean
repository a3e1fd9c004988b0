import CallHandle.Proofs.Nesting
import CallHandle.Proofs.StoredNesting
import CallHandle.Stored.Encode
import CallHandle.Stored.Load
import Mathlib.Data.List.Forall2

/-! When loading succeeds each part of what comes out answers to one part of what was stored. These
equivalences say it for each shape, so that no later proof opens the loading. -/

namespace CallHandle

variable {r : Registry}

theorem bind_eq_ok_iff {ε α β : Type} {first : Except ε α} {next : α → Except ε β} {b : β} :
    (first >>= next) = .ok b ↔ ∃ a, first = .ok a ∧ next a = .ok b := by
  cases first with
  | error e => simp [bind, Except.bind]
  | ok a => simp [bind, Except.bind]

theorem bind_eq_error_iff {ε α β : Type} {first : Except ε α} {next : α → Except ε β} {e : ε} :
    (first >>= next) = .error e ↔
      first = .error e ∨ ∃ a, first = .ok a ∧ next a = .error e := by
  cases first with
  | error e' => simp [bind, Except.bind]
  | ok a => simp [bind, Except.bind]

theorem mapError_eq_ok_iff {ε ε' α : Type} {f : ε → ε'} {first : Except ε α} {a : α} :
    first.mapError f = .ok a ↔ first = .ok a := by
  cases first <;> simp [Except.mapError]

theorem exists_of_mem_left {α β : Type} {R : α → β → Prop} {xs : List α} {ys : List β}
    (h : List.Forall₂ R xs ys) {x : α} (hx : x ∈ xs) : ∃ y ∈ ys, R x y := by
  induction h with
  | nil => cases hx
  | cons first _ ih =>
    rcases List.mem_cons.mp hx with rfl | hx
    · exact ⟨_, List.mem_cons_self, first⟩
    · obtain ⟨y, hy, related⟩ := ih hx
      exact ⟨y, List.mem_cons_of_mem _ hy, related⟩

theorem exists_of_mem_right {α β : Type} {R : α → β → Prop} {xs : List α} {ys : List β}
    (h : List.Forall₂ R xs ys) {y : β} (hy : y ∈ ys) : ∃ x ∈ xs, R x y :=
  exists_of_mem_left (R := flip R) (List.Forall₂.flip h) hy

/-! ## Modes -/

namespace StoredDescriptor

variable {d : StoredDescriptor}

theorem binding_eq (d : StoredDescriptor) :
    d.binding = (if d.requires .readOnly then [⟨.readOnly, true⟩] else []) ++
      if d.requires .output then [⟨.output, true⟩] else [] := by
  unfold binding
  cases h : d.requires .readOnly <;> cases h' : d.requires .output <;> simp [h, h']

/-- A parameter has the mode whose flag and marker it is stored with, at any position. -/
theorem paramMode_eq_ok_iff {index : Nat} {mode : ParamMode} :
    d.paramMode index = .ok mode ↔
      mode.isByRef = d.byRef ∧ Marker.modifiers mode.marker? = d.binding := by
  rw [paramMode, binding_eq]
  generalize d.requires .readOnly = readOnly
  generalize d.requires .output = output
  generalize d.byRef = byRef
  cases readOnly <;> cases output <;> cases byRef <;> cases mode <;>
    simp [ParamMode.isByRef, ParamMode.marker?, Marker.modifiers]

theorem returnMode_eq_ok_iff {mode : ReturnMode} :
    d.returnMode = .ok mode ↔
      mode.isByRef = d.byRef ∧ Marker.modifiers mode.marker? = d.binding := by
  rw [returnMode, binding_eq]
  generalize d.requires .readOnly = readOnly
  generalize d.requires .output = output
  generalize d.byRef = byRef
  cases readOnly <;> cases output <;> cases byRef <;> cases mode <;>
    simp [ReturnMode.isByRef, ReturnMode.marker?, Marker.modifiers]

/-! ## Descriptors -/

theorem loadParam_eq_ok_iff {index : Nat} {p : Param} :
    d.loadParam r index = .ok p ↔
      p.mode.isByRef = d.byRef ∧ Marker.modifiers p.mode.marker? = d.binding ∧
        d.ty.load r = .ok p.ty := by
  have spelled : d.paramMode index = .ok p.mode ↔
      p.mode.isByRef = d.byRef ∧ Marker.modifiers p.mode.marker? = d.binding := paramMode_eq_ok_iff
  rw [← and_assoc, ← spelled]
  obtain ⟨ty, byRef, modifiers⟩ := d
  obtain ⟨pty, mode⟩ := p
  rw [loadParam]
  simp only [bind_eq_ok_iff, mapError_eq_ok_iff, pure, Except.pure, Except.ok.injEq,
    Param.mk.injEq]
  constructor
  · rintro ⟨_, hm, _, ht, rfl, rfl⟩
    exact ⟨hm, ht⟩
  · rintro ⟨hm, ht⟩
    exact ⟨mode, hm, pty, ht, rfl, rfl⟩

theorem loadReturn_eq_ok_iff {ret : Return} :
    d.loadReturn r = .ok ret ↔
      ret.mode.isByRef = d.byRef ∧ Marker.modifiers ret.mode.marker? = d.binding ∧
        d.ty.load r = .ok ret.ty := by
  rw [← and_assoc, ← returnMode_eq_ok_iff]
  obtain ⟨ty, byRef, modifiers⟩ := d
  obtain ⟨rty, mode⟩ := ret
  rw [loadReturn]
  simp only [bind_eq_ok_iff, mapError_eq_ok_iff, pure, Except.pure, Except.ok.injEq,
    Return.mk.injEq]
  constructor
  · rintro ⟨_, hm, _, ht, rfl, rfl⟩
    exact ⟨hm, ht⟩
  · rintro ⟨hm, ht⟩
    exact ⟨mode, hm, rty, ht, rfl, rfl⟩

end StoredDescriptor

/-! ## Signatures -/

theorem Registry.load_eq_ok_iff {code : UInt8} {c : Convention} :
    r.load code = .ok c ↔ r.ofCode? code = some c := by
  unfold Registry.load
  cases r.ofCode? code <;> simp

theorem Ty.isVoid_iff {t : Ty} : t.isVoid = true ↔ t = .void := by
  cases t <;> simp [Ty.isVoid]

/-- Forming changes nothing and refuses `void` where it may not stand. -/
theorem Signature.make_eq_ok_iff {params : List Param} {ret : Return} {c : Convention}
    {s : Signature} :
    Signature.make params ret c = .ok s ↔
      s = ⟨params, ret, c⟩ ∧ (∀ p ∈ params, p.ty ≠ .void) ∧ (ret.ty = .void → ret.mode = .byValue) := by
  have noVoid : (params.findIdx? fun p => p.ty.isVoid) = none ↔ ∀ p ∈ params, p.ty ≠ .void := by
    simp only [List.findIdx?_eq_none_iff, Bool.eq_false_iff, ne_eq, Ty.isVoid_iff]
  have noReference : (ret.ty.isVoid && ret.mode.isByRef) = false ↔
      (ret.ty = .void → ret.mode = .byValue) := by
    rw [Bool.and_eq_false_imp, Ty.isVoid_iff]
    simp [ReturnMode.isByRef]
  rw [← noVoid, ← noReference]
  unfold Signature.make
  cases params.findIdx? fun p => p.ty.isVoid with
  | some index => simp
  | none => cases ret.ty.isVoid && ret.mode.isByRef <;> simp [eq_comm]

/-- Forming refuses no signature that keeps its own rules. -/
theorem Signature.make_of_wellFormed {s : Signature} (h : s.WellFormed) :
    Signature.make s.params s.ret s.convention = .ok s := by
  obtain ⟨noVoid, noReference, -⟩ := h
  exact Signature.make_eq_ok_iff.mpr ⟨Signature.ext rfl rfl rfl, noVoid, noReference⟩

namespace StoredSignature

theorem loadParams_eq_ok_iff {index : Nat} {ds : List StoredDescriptor} {params : List Param} :
    loadParams r index ds = .ok params ↔
      List.Forall₂ (fun d p => p.mode.isByRef = d.byRef ∧
        Marker.modifiers p.mode.marker? = d.binding ∧ d.ty.load r = .ok p.ty) ds params := by
  induction ds generalizing index params with
  | nil =>
    simp only [loadParams, Except.ok.injEq, List.forall₂_nil_left_iff]
    exact eq_comm
  | cons d ds ih =>
    simp only [loadParams, bind_eq_ok_iff, StoredDescriptor.loadParam_eq_ok_iff, ih, pure,
      Except.pure, Except.ok.injEq]
    constructor
    · rintro ⟨p, first, ps, rest, rfl⟩
      exact .cons first rest
    · rintro (_ | ⟨first, rest⟩)
      exact ⟨_, first, _, rest, rfl⟩

theorem load_eq_ok_iff {e : StoredSignature} {s : Signature} :
    e.load r = .ok s ↔
      r.ofCode? e.convention = some s.convention ∧ loadParams r 0 e.params = .ok s.params ∧
        e.ret.loadReturn r = .ok s.ret ∧ (∀ p ∈ s.params, p.ty ≠ .void) ∧
        (s.ret.ty = .void → s.ret.mode = .byValue) := by
  obtain ⟨code, ds, d⟩ := e
  rw [load]
  simp only [bind_eq_ok_iff, mapError_eq_ok_iff, Registry.load_eq_ok_iff, Signature.make_eq_ok_iff]
  constructor
  · rintro ⟨c, hc, params, hps, ret, hr, rfl, noVoid, noReference⟩
    exact ⟨hc, hps, hr, noVoid, noReference⟩
  · rintro ⟨hc, hps, hr, noVoid, noReference⟩
    exact ⟨_, hc, _, hps, _, hr, Signature.ext rfl rfl rfl, noVoid, noReference⟩

end StoredSignature

/-! ## Types -/

theorem StoredTy.load_ptr_eq_ok_iff {t : StoredTy} {u : Ty} :
    (StoredTy.ptr t).load r = .ok u ↔ ∃ v, t.load r = .ok v ∧ u = .ptr v := by
  rw [StoredTy.load, bind_eq_ok_iff]
  simp only [pure, Except.pure, Except.ok.injEq, eq_comm (a := u)]

theorem StoredTy.load_handle_eq_ok_iff {e : StoredSignature} {u : Ty} :
    (StoredTy.handle e).load r = .ok u ↔ ∃ s, e.load r = .ok s ∧ u = .handle s := by
  rw [StoredTy.load, bind_eq_ok_iff]
  simp only [pure, Except.pure, Except.ok.injEq, eq_comm (a := u)]

end CallHandle
