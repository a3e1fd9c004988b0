import CallHandle.Proofs.ConversionOrder
import CallHandle.Stored.Encode

namespace CallHandle

variable {T : ClassTable}

/-- Both descriptors are stored with the same reference flag and modifiers, and where they are
references the same type is referred to. -/
structure StoredDescriptor.PassedAlike (d e : StoredDescriptor) : Prop where
  byRef : d.byRef = e.byRef
  modifiers : d.modifiers = e.modifiers
  referenced : d.byRef = true → d.ty = e.ty

/-- A value of the first type stands in the place of one of the second. -/
inductive Ty.Fills (T : ClassTable) : Ty → Ty → Prop where
  | same (t : Ty) : Ty.Fills T t t
  /-- A registered class, for a class above it. -/
  | object {m n base : String} :
      T.base? m = some base → T.Derives m n → Ty.Fills T (.con m) (.con n)
  | pointer {a b : Ty} : a.isPointer = true → b.isPointer = true → Ty.Fills T a b

theorem Ty.fills_of_widens {a b : Ty} (h : a.widens T b = true) : a.Fills T b := by
  cases a with
  | con m =>
    obtain ⟨n, rfl, rfl | derives⟩ := Ty.con_widens.mp h
    · exact .same _
    · obtain ⟨base, registered⟩ := derives.registered
      exact .object registered derives
  | ptr t =>
    rcases Ty.ptr_widens.mp h with rfl | rfl
    · exact .same _
    · exact .pointer rfl rfl
  | voidPtr =>
    obtain rfl := Ty.voidPtr_widens.mp h
    exact .same _
  | void =>
    obtain rfl := Ty.void_widens.mp h
    exact .same _
  | handle s =>
    rcases Ty.handle_widens.mp h with rfl | ⟨t, rfl, -⟩
    · exact .pointer rfl rfl
    · exact .pointer rfl rfl

theorem Ty.Passes.fills {byRef : Bool} {a b : Ty} (h : a.Passes T byRef b) : a.Fills T b := by
  cases byRef with
  | true =>
    obtain rfl : a = b := h
    exact .same a
  | false => exact Ty.fills_of_widens h

/-! ## Encodings -/

/-- Stored types that are pointers, typed or not, or handles. -/
def StoredTy.isPointer : StoredTy → Bool
  | .ptr _ | .voidPtr | .handle _ => true
  | .named _ | .void => false

/-- A value stored under the first type stands in the place of one stored under the second. -/
inductive StoredTy.Fills (T : ClassTable) : StoredTy → StoredTy → Prop where
  | same (t : StoredTy) : StoredTy.Fills T t t
  /-- A registered class, for a class above it. -/
  | object {m n base : String} :
      T.base? m = some base → T.Derives m n → StoredTy.Fills T (.named m) (.named n)
  | pointer {a b : StoredTy} : a.isPointer = true → b.isPointer = true → StoredTy.Fills T a b

@[simp] theorem Ty.isPointer_store (t : Ty) : t.store.isPointer = t.isPointer := by
  cases t <;> rfl

/-- Types are stored one for one, so what fills a place fills it when stored. -/
theorem Ty.Fills.store {a b : Ty} (h : a.Fills T b) : a.store.Fills T b.store := by
  cases h with
  | same => exact .same a.store
  | object registered derives => exact .object registered derives
  | pointer ha hb => exact .pointer (by simpa using ha) (by simpa using hb)

theorem StoredDescriptor.PassedAlike.symm {d e : StoredDescriptor} (h : d.PassedAlike e) :
    e.PassedAlike d where
  byRef := h.byRef.symm
  modifiers := h.modifiers.symm
  referenced := by
    intro byRef
    rw [← h.byRef] at byRef
    exact (h.referenced byRef).symm

theorem Ty.Passes.passedAlike {byRef : Bool} {a b : Ty} (h : a.Passes T byRef b)
    (modifiers : List Modifier) :
    StoredDescriptor.PassedAlike ⟨a.store, byRef, modifiers⟩ ⟨b.store, byRef, modifiers⟩ := by
  refine ⟨rfl, rfl, ?_⟩
  rintro rfl
  exact congrArg Ty.store h

theorem Param.passedAlike {p q : Param} (h : p.widens T q = true) :
    p.store.PassedAlike q.store := by
  obtain ⟨mode, types⟩ := Param.widens_iff.mp h
  rw [p.store_eq, q.store_eq, ← mode]
  exact types.passedAlike _

theorem Return.passedAlike {r q : Return} (h : r.widens T q = true) :
    r.store.PassedAlike q.store := by
  obtain ⟨mode, types⟩ := Return.widens_iff.mp h
  rw [r.store_eq, q.store_eq, ← mode]
  exact types.passedAlike _

theorem Signature.descriptors_store (s : Signature) :
    s.store.descriptors = s.params.map Param.store ++ [s.ret.store] := by
  rw [s.store_eq]
  rfl

/-- **The frame is kept.** A handle that converts to another has its convention's byte and stores as many
descriptors, each with the same reference flag and modifiers and, if it is a reference, of the same type.
A value is of the same type on both sides, or a registered class stands for one above it, or a pointer
for a pointer: on the way to the target for parameters, and on the way back for the return. The stored
types show the same. -/
theorem conversion_keeps_frame (T : ClassTable) (s t : Signature)
    (converts : (s.convert T t).isOk = true) :
    s.store.convention = t.store.convention ∧
      s.store.descriptors.length = t.store.descriptors.length ∧
      List.Forall₂ StoredDescriptor.PassedAlike s.store.descriptors t.store.descriptors ∧
      List.Forall₂ (fun p q => p.ty.Fills T q.ty) s.params t.params ∧
      t.ret.ty.Fills T s.ret.ty ∧
      List.Forall₂ (fun d e => d.ty.Fills T e.ty) s.store.params t.store.params ∧
      t.store.ret.ty.Fills T s.store.ret.ty := by
  rw [Signature.isOk_convert, Signature.widens_iff] at converts
  obtain ⟨params, ret, convention⟩ := converts
  have passed : List.Forall₂ (fun p q => p.ty.Fills T q.ty) s.params t.params :=
    params.imp fun _ _ h => (Param.widens_iff.mp h).2.fills
  have returned : t.ret.ty.Fills T s.ret.ty := (Return.widens_iff.mp ret).2.fills
  have alike : List.Forall₂ StoredDescriptor.PassedAlike s.store.descriptors t.store.descriptors := by
    rw [s.descriptors_store, t.descriptors_store]
    apply List.rel_append
    · rw [List.forall₂_map_left_iff, List.forall₂_map_right_iff]
      exact params.imp fun _ _ => Param.passedAlike
    · exact .cons (Return.passedAlike ret).symm .nil
  refine ⟨?_, alike.length_eq, alike, passed, returned, ?_, ?_⟩
  · rw [s.store_eq, t.store_eq, convention]
  · rw [s.store_eq, t.store_eq, List.forall₂_map_left_iff, List.forall₂_map_right_iff]
    simp only [Param.store_eq]
    exact passed.imp fun _ _ => Ty.Fills.store
  · rw [s.store_eq, t.store_eq, Return.store_eq, Return.store_eq]
    exact returned.store

/-- A dog is passed for an animal and a handle for `void*`, the reference stays one to `int`, and the
result is the other way round, a pointer that the caller has as `void*`. -/
theorem frame_of_visitor_conversion :
    let T := (ClassTable.standard.register "Dog" "Animal").register "Animal" "object"
    let visitor (name : String) : Ty :=
      .handle ⟨[⟨.con name, .byValue⟩], ⟨.void, .byValue⟩, .thiscall⟩
    let call (first second ret : Ty) : Signature :=
      ⟨[⟨first, .byValue⟩, ⟨.con "int", .byIn⟩, ⟨second, .byValue⟩], ⟨ret, .byValue⟩, .stdcall⟩
    let s := call (.con "Dog") (visitor "Dog") .voidPtr
    let t := call (.con "object") .voidPtr (.ptr (.con "int"))
    (s.convert T t).isOk = true ∧
      List.Forall₂ StoredDescriptor.PassedAlike s.store.descriptors t.store.descriptors ∧
      (Ty.ptr (.con "int")).Fills T .voidPtr ∧
      (StoredTy.ptr (.named "int")).Fills T .voidPtr := by
  intro T visitor call s t
  have converts : (s.convert T t).isOk = true := by decide +kernel
  obtain ⟨-, -, alike, -, ret, -, stored⟩ := conversion_keeps_frame T s t converts
  exact ⟨converts, alike, ret, stored⟩

end CallHandle
