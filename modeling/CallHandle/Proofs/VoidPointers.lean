import CallHandle.Conversion
import CallHandle.Proofs.Keywords
import CallHandle.Proofs.Occurrence
import CallHandle.Proofs.RoundTrip
import CallHandle.Proofs.Spelling

namespace CallHandle

/-! ## Where `void` stands -/

namespace Ty

/-- At every depth, `void` is at most what a handle returns as a value. Nothing points to it and no handle
takes it. -/
structure VoidOnlyReturned (t : Ty) : Prop where
  pointers : ¬(ptr void).OccursIn t
  params : ∀ s, (handle s).OccursIn t → ∀ p ∈ s.params, p.ty ≠ void
  returns : ∀ s, (handle s).OccursIn t → s.ret.ty = void → s.ret.mode = .byValue

variable {t u : Ty} {s : Signature}

/-- The rules on signatures leave nothing but the pointers open. -/
theorem voidOnlyReturned_iff (valid : t.Valid) : t.VoidOnlyReturned ↔ ¬(ptr void).OccursIn t := by
  rw [valid_iff_occursIn] at valid
  constructor
  · exact VoidOnlyReturned.pointers
  · intro pointers
    exact ⟨pointers, fun s occurs => (valid s occurs).1, fun s occurs => (valid s occurs).2.1⟩

/-- A signature has a data pointer to `void` where one of its descriptors has. -/
theorem voidOnlyReturned_handle_iff (valid : s.Valid) :
    (handle s).VoidOnlyReturned ↔
      (∀ p ∈ s.params, ¬(ptr void).OccursIn p.ty) ∧ ¬(ptr void).OccursIn s.ret.ty := by
  have whole : (handle s).Valid := valid
  have itself : ptr void ≠ handle s := by simp
  rw [voidOnlyReturned_iff whole, occursIn_handle_iff]
  simp only [itself, false_or, not_or, not_exists, not_and]

/-! ## Written forms -/

/-- A handle is written with a word of its own in front. -/
theorem text_handle_ne {word : String} (h : word.toList.head? ≠ some 'd') : (handle s).text ≠ word := by
  obtain ⟨c, rest, opened, -⟩ := s.exists_of_text
  rintro rfl
  rw [text, opened] at h
  exact h rfl

theorem text_eq_void_iff : t.text = "void" ↔ t = void ∨ t = con "void" := by
  cases t with
  | con | voidPtr | void => simp [text]
  | ptr pointee =>
    have starred : pointee.text ++ "*" ≠ "void" := by
      intro same
      have last := congrArg (fun text => text.toList.getLast?) same
      simp at last
    simp [text, starred]
  | handle s =>
    have other : (handle s).text ≠ "void" := text_handle_ne (by decide)
    simp [other]

/-- Besides the untyped pointer these are a data pointer to `void` and two that take a name for it. -/
theorem text_eq_voidPtr_iff :
    t.text = "void*" ↔ t = voidPtr ∨ t = ptr void ∨ t = ptr (con "void") ∨ t = con "void*" := by
  cases t with
  | con | voidPtr | void => simp [text]
  | ptr pointee =>
    have starred : pointee.text ++ "*" = "void" ++ "*" ↔ pointee.text = "void" :=
      String.append_left_inj "*"
    have last : "void" ++ "*" = "void*" := by decide
    rw [last] at starred
    simp [text, starred, text_eq_void_iff]
  | handle s =>
    have other : (handle s).text ≠ "void*" := text_handle_ne (by decide)
    simp [other]

/-- Where neither `void` is pointed to nor a name stands for it, one type is written so. -/
theorem VoidOnlyReturned.eq_voidPtr (h : t.VoidOnlyReturned)
    (names : ∀ name, (con name).OccursIn t → name ≠ "void" ∧ name ≠ "void*") (occurs : u.OccursIn t)
    (written : u.text = "void*") : u = voidPtr := by
  rcases text_eq_voidPtr_iff.mp written with rfl | rfl | rfl | rfl
  · rfl
  · exact absurd occurs h.pointers
  · have inside : (con "void").OccursIn t := OccursIn.trans (.pointee .here) occurs
    exact absurd rfl (names _ inside).1
  · exact absurd rfl (names _ occurs).2

end Ty

/-! ## In the stored form -/

namespace StoredTy

variable {r : Registry} {e : StoredTy}

theorem load_eq_ptr_void_iff : e.load r = .ok (.ptr .void) ↔ e = .ptr .void := by
  cases e with
  | ptr e =>
    rw [load_ptr_eq_ok_iff]
    cases e with
    | ptr e => simp [load_ptr_eq_ok_iff]
    | handle e => simp [load_handle_eq_ok_iff]
    | _ => simp [load]
  | handle e => simp [load_handle_eq_ok_iff]
  | _ => simp [load]

/-- Loading puts no pointer to `void` where none is stored, and takes none away. -/
theorem ptr_void_occursIn_load_iff {t : Ty} (h : e.load r = .ok t) :
    (Ty.ptr .void).OccursIn t ↔ (ptr void).OccursIn e := by
  rw [occursIn_load_iff h]
  simp only [load_eq_ptr_void_iff, exists_eq_right]

end StoredTy

/-! ## In what is read -/

/-- The two forms of a data pointer to `void`. -/
def Json.voidPointers : List Json :=
  [.obj [("Ptr", .str "Void")], .obj [("Ptr", .obj [("Void", .null)])]]

namespace Ty

variable {j : Json}

theorem read_eq_ptr_iff {u : Ty} :
    Ty.read j = .ok (ptr u) ↔ ∃ k, j = .obj [("Ptr", k)] ∧ Ty.read k = .ok u := by
  constructor
  · intro h
    rw [Ty.read] at h
    simp only [bind_eq_ok_iff, pure, Except.pure] at h
    obtain ⟨⟨name, content?⟩, variant, h⟩ := h
    split at h <;> simp only [bind_eq_ok_iff, Except.ok.injEq, reduceCtorEq, ptr.injEq, and_false,
      exists_false] at h
    rename_i named
    obtain rfl : name = "Ptr" := named
    obtain ⟨part, content, u, read, rfl⟩ := h
    cases content? with
    | none => cases content
    | some other =>
      obtain rfl : other = part := Except.ok.inj content
      exact ⟨other.1, Json.eq_obj_of_variant variant, read⟩
  · rintro ⟨k, rfl, read⟩
    rw [Ty.read]
    simp only [Json.variant, Json.content, bind, Except.bind, read]
    rfl

theorem read_eq_void_iff : Ty.read j = .ok void ↔ j = .str "Void" ∨ j = .obj [("Void", .null)] := by
  constructor
  · intro h
    rw [Ty.read] at h
    simp only [bind_eq_ok_iff, pure, Except.pure] at h
    obtain ⟨⟨name, content?⟩, variant, h⟩ := h
    split at h <;> simp only [bind_eq_ok_iff, Except.ok.injEq, reduceCtorEq, and_false, exists_false,
      and_true] at h
    rename_i named
    obtain rfl : name = "Void" := named
    obtain ⟨⟨⟩, empty⟩ := h
    rcases content? with _ | ⟨part, smaller⟩
    · exact .inl (Json.eq_str_of_variant variant)
    · cases part with
      | null => exact .inr (Json.eq_obj_of_variant variant)
      | _ => cases empty
  · rintro (rfl | rfl)
    · rw [Ty.read]
      rfl
    · rw [Ty.read]
      rfl

theorem read_eq_ptr_void_iff : Ty.read j = .ok (ptr void) ↔ j ∈ Json.voidPointers := by
  simp only [read_eq_ptr_iff, read_eq_void_iff, Json.voidPointers, List.mem_cons, List.not_mem_nil,
    or_false]
  constructor
  · rintro ⟨_, rfl, rfl | rfl⟩
    · exact .inl rfl
    · exact .inr rfl
  · rintro (rfl | rfl)
    · exact ⟨_, rfl, .inl rfl⟩
    · exact ⟨_, rfl, .inr rfl⟩

end Ty

namespace Signature

variable {j : Json} {s : Signature}

/-- A pointer to `void` that comes out of reading was written in the value. -/
theorem voidOnlyReturned_of_read (h : read j = .ok s) (absent : ∀ k ∈ Json.voidPointers, ¬k.Within j) :
    (Ty.handle s).VoidOnlyReturned := by
  have nowhere : ¬((∃ p ∈ s.params, (Ty.ptr .void).OccursIn p.ty) ∨ (Ty.ptr .void).OccursIn s.ret.ty) := by
    intro occurs
    obtain ⟨k, within, found⟩ := exists_within_of_read h occurs
    exact absent k (Ty.read_eq_ptr_void_iff.mp found) within
  rw [Ty.voidOnlyReturned_handle_iff (valid_of_read h)]
  simpa only [not_or, not_exists, not_and] using nowhere

theorem voidOnlyReturned_of_readHandle (h : readHandle j = .ok s)
    (absent : ∀ k ∈ Json.voidPointers, ¬k.Within j) : (Ty.handle s).VoidOnlyReturned := by
  obtain ⟨part, within, read⟩ := exists_of_readHandle h
  apply voidOnlyReturned_of_read read
  intro k hk deeper
  exact absent k hk (deeper.trans within)

end Signature

/-! ## Every route -/

/-- **Where a pointer to `void` comes from.** A signature that is formed from given or written descriptors, or
loaded, has `void` as a returned value only, at every depth, exactly when no data pointer to `void` was put in;
and one that is read has, when no such pointer is written in the value. None of the routes refuses a valid
signature for its pointers. Where `void` is only returned, and no name stands for it, the untyped pointer is
the one type that is written as it is. -/
theorem void_only_returned (s : Signature) :
    (∀ (params : List Param) (ret : Return) (c : Convention), (∀ p ∈ params, p.ty.Valid) →
        ret.ty.Valid → c.WellFormed → Signature.make params ret c = .ok s →
          ((Ty.handle s).VoidOnlyReturned ↔
            (∀ p ∈ params, ¬(Ty.ptr .void).OccursIn p.ty) ∧ ¬(Ty.ptr .void).OccursIn ret.ty)) ∧
      (∀ (ws : List Signature.Written) (w : Signature.Written) (c : Convention),
        (∀ v ∈ ws, v.ty.Valid) → w.ty.Valid → c.WellFormed → Signature.ofWritten ws w c = .ok s →
          ((Ty.handle s).VoidOnlyReturned ↔
            (∀ v ∈ ws, ¬(Ty.ptr .void).OccursIn v.ty) ∧ ¬(Ty.ptr .void).OccursIn w.ty)) ∧
      (∀ (r : Registry) (e : StoredSignature), r.Reachable → e.load r = .ok s →
        ((Ty.handle s).VoidOnlyReturned ↔ ¬(StoredTy.ptr .void).OccursIn (.handle e))) ∧
      (∀ j : Json, Signature.read j = .ok s ∨ Signature.readHandle j = .ok s →
        (∀ k ∈ Json.voidPointers, ¬k.Within j) → (Ty.handle s).VoidOnlyReturned) ∧
      (s.Valid →
        Signature.make s.params s.ret s.convention = .ok s ∧
          Signature.ofWritten (s.params.map Param.written) s.ret.written s.convention = .ok s ∧
          (∀ r : Registry, (∀ c ∈ s.conventions, r.ofCode? c.code = some c) →
            s.store.load r = .ok s) ∧
          Signature.read s.json = .ok s) ∧
      ((Ty.handle s).VoidOnlyReturned →
        (∀ name, (Ty.con name).OccursIn (.handle s) → name ≠ "void" ∧ name ≠ "void*") →
          ∀ t : Ty, t.OccursIn (.handle s) → t.text = "void*" → t = .voidPtr) := by
  refine ⟨?_, ?_, ?_, ?_, ?_, fun returned names t => returned.eq_voidPtr names⟩
  · intro params ret c hps hr hc made
    have valid : s.Valid := Signature.valid_of_make made hps hr hc
    obtain ⟨rfl, -⟩ := Signature.make_eq_ok_iff.mp made
    exact Ty.voidOnlyReturned_handle_iff valid
  · intro ws w c hws hw hc formed
    have valid : s.Valid := Signature.valid_of_ofWritten formed hws hw hc
    obtain ⟨spelled, -⟩ := Signature.ofWritten_eq_ok_iff_spelled.mp formed
    rw [Ty.voidOnlyReturned_handle_iff valid, ← spelled.ret.2,
      ← List.forall_mem_map (f := Param.ty) (P := fun t => ¬(Ty.ptr .void).OccursIn t),
      ← spelled.types_eq, List.forall_mem_map]
  · intro r e reachable loaded
    have whole : (Ty.handle s).Valid := Signature.valid_of_load reachable.coherent loaded
    have handle : (StoredTy.handle e).load r = .ok (.handle s) :=
      StoredTy.load_handle_eq_ok_iff.mpr ⟨s, loaded, rfl⟩
    rw [Ty.voidOnlyReturned_iff whole, StoredTy.ptr_void_occursIn_load_iff handle]
  · rintro j (read | read) absent
    · exact Signature.voidOnlyReturned_of_read read absent
    · exact Signature.voidOnlyReturned_of_readHandle read absent
  · intro valid
    exact ⟨Signature.make_of_valid valid, Signature.ofWritten_of_spelled valid s.spelled_written,
      fun r known => (Signature.load_store_eq_self_iff valid).mpr known, Signature.read_json valid⟩

/-- Handles that return nothing and take untyped pointers, one of them behind a data pointer, go through every
route. -/
theorem untyped_pointers_by_every_route :
    let called : Signature := ⟨[⟨.ptr .voidPtr, .byOut⟩], ⟨.void, .byValue⟩, .cdecl⟩
    let s : Signature :=
      ⟨[⟨.ptr (.handle called), .byIn⟩, ⟨.voidPtr, .byValue⟩], ⟨.void, .byValue⟩, .managed⟩
    let ws : List Signature.Written := [⟨.ptr (.handle called), [.ref, .readonly]⟩, ⟨.voidPtr, []⟩]
    Signature.make s.params s.ret .managed = .ok s ∧
      Signature.ofWritten ws ⟨.void, []⟩ .managed = .ok s ∧ s.store.load .empty = .ok s ∧
      Signature.read s.json = .ok s ∧ (Ty.handle s).VoidOnlyReturned ∧
      (∀ p ∈ s.params, ¬(Ty.ptr .void).OccursIn p.ty) ∧ (∀ v ∈ ws, ¬(Ty.ptr .void).OccursIn v.ty) ∧
      ¬(StoredTy.ptr .void).OccursIn (.handle s.store) ∧
      ∀ t : Ty, t.OccursIn (.handle s) → t.text = "void*" → t = .voidPtr := by
  intro called s ws
  obtain ⟨making, writing, loading, reading, accepted, spelling⟩ := void_only_returned s
  obtain ⟨made, -, loads, read⟩ := accepted (by decide +kernel)
  have written : Signature.ofWritten ws ⟨.void, []⟩ .managed = .ok s := by decide +kernel
  have loaded : s.store.load .empty = .ok s := loads .empty (by decide +kernel)
  have absent : ∀ k ∈ Json.voidPointers, ¬k.Within s.json := by
    simp [s, called, Json.voidPointers, Signature.json, Signature.jsonParams, Param.json, Return.json,
      Ty.json, ParamMode.json, ReturnMode.json, Convention.json, Json.within_obj_iff, Json.within_arr_iff,
      Json.within_str_iff]
  have names : ∀ name, (Ty.con name).OccursIn (.handle s) → name ≠ "void" ∧ name ≠ "void*" := by
    simp [s, called, Ty.occursIn_handle_iff, Ty.occursIn_ptr_iff, Ty.occursIn_voidPtr_iff,
      Ty.occursIn_void_iff]
  have returned : (Ty.handle s).VoidOnlyReturned := reading s.json (.inl read) absent
  have given := (making s.params s.ret .managed (by decide +kernel) (by decide) trivial made).mp returned
  have spelled := (writing ws _ .managed (by decide +kernel) (by decide) trivial written).mp returned
  have stored := (loading .empty s.store ⟨[], rfl⟩ loaded).mp returned
  exact ⟨made, written, loaded, read, returned, given.1, spelled.1, stored, spelling returned names⟩

/-- A data pointer to `void` goes through every route. The signature is written as the one with the untyped
pointer in its place, is another one, and converts to it while it does not convert back. -/
theorem two_types_for_one_pointer :
    let taking (t : Ty) : Signature := ⟨[⟨t, .byValue⟩], ⟨.void, .byValue⟩, .managed⟩
    let s : Signature := taking (.ptr .void)
    let t : Signature := taking .voidPtr
    ¬(Ty.handle s).VoidOnlyReturned ∧ Signature.make s.params s.ret .managed = .ok s ∧
      Signature.ofWritten [⟨.ptr .void, []⟩] ⟨.void, []⟩ .managed = .ok s ∧
      s.store.load .empty = .ok s ∧ Signature.read s.json = .ok s ∧
      s.text = t.text ∧ s ≠ t ∧ s.convert .standard t = .ok .handleToHandle ∧
      t.convert .standard s = .error (.type 0 .voidPtr (.ptr .void)) := by
  intro taking s t
  have twofold : ¬(Ty.handle s).VoidOnlyReturned :=
    fun returned => returned.pointers (.param List.mem_cons_self .here)
  have read : Signature.read s.json = .ok s := Signature.read_json (by decide +kernel)
  refine ⟨twofold, ?_, ?_, ?_, read, ?_, ?_, ?_, ?_⟩ <;> decide +kernel

end CallHandle
