import CallHandle.Proofs.Loading
import CallHandle.Proofs.Lookup
import CallHandle.Proofs.RoundTrip
import Mathlib.Data.List.Dedup

namespace CallHandle

variable {r : Registry}

/-! ## The binding modifiers -/

namespace StoredDescriptor

variable {d : StoredDescriptor}

theorem requires_iff {marker : Marker} : d.requires marker = true ↔ ⟨marker, true⟩ ∈ d.modifiers := by
  unfold requires
  rw [List.any_eq_true]
  constructor
  · rintro ⟨⟨other, required⟩, hm, h⟩
    obtain ⟨rfl, rfl⟩ : required = true ∧ other = marker := by simpa using h
    exact hm
  · intro hm
    exact ⟨_, hm, by simp⟩

theorem mem_binding {m : Modifier} : m ∈ d.binding ↔ m ∈ d.modifiers ∧ m.required = true := by
  obtain ⟨marker, required⟩ := m
  have all : marker ∈ [Marker.readOnly, .output] := by cases marker <;> decide
  simp only [binding, List.mem_map, List.mem_filter, requires_iff, Modifier.mk.injEq]
  constructor
  · rintro ⟨_, ⟨-, hm⟩, rfl, rfl⟩
    exact ⟨hm, rfl⟩
  · rintro ⟨hm, rfl⟩
    exact ⟨marker, ⟨all, hm⟩, rfl, rfl⟩

theorem nodup_binding (d : StoredDescriptor) : d.binding.Nodup := by
  rw [binding_eq]
  cases d.requires .readOnly <;> cases d.requires .output <;> decide

/-- The binding modifiers are the required ones, each once. -/
theorem binding_perm (d : StoredDescriptor) :
    d.binding.Perm (d.modifiers.filter Modifier.required).dedup := by
  rw [List.perm_ext_iff_of_nodup d.nodup_binding (List.nodup_dedup _)]
  intro m
  rw [mem_binding, List.mem_dedup, List.mem_filter]

/-- Where no more than one marker binds their order is no matter. -/
theorem binding_eq_dedup (few : d.binding.length ≤ 1) :
    d.binding = (d.modifiers.filter Modifier.required).dedup := by
  have perm := d.binding_perm
  cases binding : d.binding with
  | nil =>
    rw [binding] at perm
    exact (List.nil_perm.mp perm).symm
  | cons m more =>
    rw [binding] at perm few
    obtain rfl : more = [] := List.eq_nil_of_length_eq_zero (by simpa using few)
    exact List.singleton_perm.mp perm

end StoredDescriptor

theorem Marker.length_modifiers (marker? : Option Marker) : (modifiers marker?).length ≤ 1 := by
  cases marker? <;> simp [modifiers]

/-! ## The normal form -/

/-- What the type is loaded as stores back as its normal form. -/
def StoredTy.StoresBack (r : Registry) (t : StoredTy) : Prop :=
  ∀ u, t.load r = .ok u → u.store = t.normalize

theorem StoredSignature.store_of_load_of {e : StoredSignature} {s : Signature}
    (params : ∀ d ∈ e.params, d.ty.StoresBack r) (ret : e.ret.ty.StoresBack r)
    (h : e.load r = .ok s) : s.store = e.normalize := by
  obtain ⟨byte, hps, hr, -, -⟩ := load_eq_ok_iff.mp h
  have sameParams : s.params.map Param.store = e.params.map StoredDescriptor.normalize := by
    have each := (List.forall₂_and_left _ _).mpr ⟨params, loadParams_eq_ok_iff.mp hps⟩
    rw [eq_comm, ← List.forall₂_eq_eq_eq, List.forall₂_map_left_iff, List.forall₂_map_right_iff]
    refine each.imp fun d p ⟨back, byRef, marker, ty⟩ => ?_
    rw [Param.store_eq, StoredDescriptor.normalize_eq, byRef, marker, back _ ty]
  have sameRet : s.ret.store = e.ret.normalize := by
    obtain ⟨byRef, marker, ty⟩ := StoredDescriptor.loadReturn_eq_ok_iff.mp hr
    rw [Return.store_eq, StoredDescriptor.normalize_eq, byRef, marker, ret _ ty]
  rw [s.store_eq, e.normalize_eq, sameParams, sameRet, Registry.code_of_ofCode? byte]

theorem StoredTy.storesBack (t : StoredTy) : t.StoresBack r := by
  induction t with
  | named | voidPtr | void =>
    rintro _ ⟨⟩
    rfl
  | ptr t ih =>
    intro u h
    obtain ⟨v, hv, rfl⟩ := StoredTy.load_ptr_eq_ok_iff.mp h
    rw [Ty.store, StoredTy.normalize, ih v hv]
  | handle e hps hr =>
    intro u h
    obtain ⟨s, hs, rfl⟩ := StoredTy.load_handle_eq_ok_iff.mp h
    rw [Ty.store, StoredTy.normalize, StoredSignature.store_of_load_of hps hr hs]

theorem Signature.store_of_load {e : StoredSignature} {s : Signature} (h : e.load r = .ok s) :
    s.store = e.normalize :=
  StoredSignature.store_of_load_of (fun d _ => d.ty.storesBack) e.ret.ty.storesBack h

/-! ## What is nested -/

/-- A signature nested in what is loaded is loaded on the way. -/
theorem StoredTy.load_nested {t : StoredTy} {u : Ty} (h : t.load r = .ok u) :
    ∀ e ∈ t.signatures, ∃ s, e.load r = .ok s := by
  induction t generalizing u with
  | named | voidPtr | void => simp [StoredTy.signatures]
  | ptr t ih =>
    obtain ⟨v, hv, -⟩ := StoredTy.load_ptr_eq_ok_iff.mp h
    exact ih hv
  | handle e hps hr =>
    obtain ⟨s, hs, -⟩ := StoredTy.load_handle_eq_ok_iff.mp h
    obtain ⟨-, params, ret, -, -⟩ := StoredSignature.load_eq_ok_iff.mp hs
    refine StoredSignature.forall_signatures.mpr ⟨⟨s, hs⟩, ?_, ?_⟩
    · intro d hd
      obtain ⟨p, -, -, -, ty⟩ := exists_of_mem_left (StoredSignature.loadParams_eq_ok_iff.mp params) hd
      exact hps d hd ty
    · obtain ⟨-, -, ty⟩ := StoredDescriptor.loadReturn_eq_ok_iff.mp ret
      exact hr ty

/-- No descriptor of a signature that loads has more than one binding marker. -/
theorem StoredSignature.length_binding_le {e : StoredSignature} {s : Signature}
    (h : e.load r = .ok s) : ∀ d ∈ e.descriptors, d.binding.length ≤ 1 := by
  obtain ⟨-, params, ret, -, -⟩ := load_eq_ok_iff.mp h
  intro d hd
  rcases List.mem_append.mp hd with hd | hd
  · obtain ⟨p, -, -, marker, -⟩ := exists_of_mem_left (loadParams_eq_ok_iff.mp params) hd
    rw [← marker]
    exact Marker.length_modifiers _
  · obtain ⟨-, marker, -⟩ := StoredDescriptor.loadReturn_eq_ok_iff.mp ret
    rw [List.mem_singleton.mp hd, ← marker]
    exact Marker.length_modifiers _

/-! ## What comes out -/

/-- Every extension of the registry lies in the extension range. -/
theorem Registry.Coherent.wellFormed (coherent : r.Coherent) {c : Convention}
    (known : c ∈ r.conventions) : c.WellFormed := by
  cases c with
  | extension tag =>
    obtain ⟨own, h, ⟨⟩⟩ : ∃ own ∈ r.extensions, Convention.extension own = .extension tag := by
      simpa [Registry.conventions, Convention.builtIns] using known
    exact UInt8.le_iff_toNat_le.mpr (coherent.firstCode_le h)
  | _ => trivial

theorem Ty.valid_of_load (coherent : r.Coherent) {t : StoredTy} {u : Ty} (h : t.load r = .ok u) :
    u.Valid := by
  induction t generalizing u with
  | named | voidPtr | void =>
    obtain ⟨⟩ := h
    simp [Ty.Valid, Ty.signatures]
  | ptr t ih =>
    obtain ⟨v, hv, rfl⟩ := StoredTy.load_ptr_eq_ok_iff.mp h
    have valid := ih hv
    exact valid
  | handle e hps hr =>
    obtain ⟨s, hs, rfl⟩ := StoredTy.load_handle_eq_ok_iff.mp h
    obtain ⟨byte, params, ret, noVoid, noReference⟩ := StoredSignature.load_eq_ok_iff.mp hs
    have convention := coherent.wellFormed (List.mem_of_find?_eq_some byte)
    refine Ty.valid_handle.mpr ⟨⟨noVoid, noReference, convention⟩, ?_, ?_⟩
    · intro p hp
      obtain ⟨d, hd, -, -, ty⟩ :=
        exists_of_mem_right (StoredSignature.loadParams_eq_ok_iff.mp params) hp
      exact hps d hd ty
    · obtain ⟨-, -, ty⟩ := StoredDescriptor.loadReturn_eq_ok_iff.mp ret
      exact hr ty

theorem Signature.valid_of_load (coherent : r.Coherent) {e : StoredSignature} {s : Signature}
    (h : e.load r = .ok s) : s.Valid := by
  have : (StoredTy.handle e).load r = .ok (.handle s) := by
    rw [StoredTy.load]
    exact bind_eq_ok_iff.mpr ⟨s, h, rfl⟩
  exact Ty.valid_of_load coherent this

/-- **Normal forms.** What a stored signature is loaded as stores back as its normal form, in which
every descriptor at every depth keeps its required markers, each once, and so one at most, and all else
is as it was. The normal forms that load are what the valid signatures that the registry knows are
stored as, and only stored signatures of one normal form are loaded as the same. -/
theorem normal_form_of_loaded (r : Registry) (reachable : r.Reachable) (e : StoredSignature) :
    (∀ s, e.load r = .ok s →
        s.store = e.normalize ∧
          ∀ t ∈ e.signatures, ∀ d ∈ t.descriptors, d.binding.length ≤ 1 ∧
            d.binding = (d.modifiers.filter Modifier.required).dedup) ∧
      ((∃ s : Signature, s.Valid ∧ (∀ c ∈ s.conventions, r.ofCode? c.code = some c) ∧ e = s.store) ↔
        (∃ s, e.load r = .ok s) ∧ e.normalize = e) ∧
      ∀ (f : StoredSignature) (s : Signature), e.load r = .ok s → f.load r = .ok s →
        e.normalize = f.normalize := by
  refine ⟨?_, ⟨?_, ?_⟩, ?_⟩
  · intro s h
    refine ⟨Signature.store_of_load h, fun t ht d hd => ?_⟩
    have loaded := StoredTy.load_handle_eq_ok_iff.mpr ⟨s, h, rfl⟩
    obtain ⟨u, hu⟩ := StoredTy.load_nested loaded t ht
    have few := StoredSignature.length_binding_le hu d hd
    exact ⟨few, d.binding_eq_dedup few⟩
  · rintro ⟨s, valid, known, rfl⟩
    have back := (Signature.load_store_eq_self_iff valid).mpr known
    exact ⟨⟨s, back⟩, (Signature.store_of_load back).symm⟩
  · rintro ⟨⟨s, h⟩, normal⟩
    have same : e = s.store := by rw [Signature.store_of_load h, normal]
    have valid := Signature.valid_of_load reachable.coherent h
    rw [same] at h
    exact ⟨s, valid, (Signature.load_store_eq_self_iff valid).mp h, same⟩
  · intro f s he hf
    rw [← Signature.store_of_load he, Signature.store_of_load hf]

/-- A handle behind a data pointer has a required marker twice and optional ones around it. It is loaded
all the same, and is stored with the one marker that binds. -/
theorem normal_form_of_repeated_marker :
    let r := Registry.empty.after ["Fast"]
    let stored (modifiers : List Modifier) : StoredSignature :=
      ⟨0, [⟨.ptr (.handle ⟨0x10, [⟨.named "int", true, modifiers⟩], ⟨.void, false, []⟩⟩), false, []⟩],
        ⟨.void, false, [⟨.output, false⟩]⟩⟩
    let e := stored [⟨.output, false⟩, ⟨.readOnly, true⟩, ⟨.readOnly, false⟩, ⟨.readOnly, true⟩]
    let s : Signature :=
      ⟨[⟨.ptr (.handle ⟨[⟨.con "int", .byIn⟩], ⟨.void, .byValue⟩, .extension ⟨0x10, "Fast"⟩⟩),
        .byValue⟩], ⟨.void, .byValue⟩, .managed⟩
    r.Reachable ∧ e.load r = .ok s ∧ s.store = e.normalize ∧ e.normalize ≠ e := by
  intro r stored e s
  have reachable : r.Reachable := ⟨["Fast"], rfl⟩
  have loaded : e.load r = .ok s := by decide +kernel
  have back := ((normal_form_of_loaded r reachable e).1 s loaded).1
  exact ⟨reachable, loaded, back, by decide +kernel⟩

end CallHandle
