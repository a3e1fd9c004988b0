import CallHandle.Proofs.Loading
import CallHandle.Proofs.Lookup
import CallHandle.Stored.Violation

namespace CallHandle

variable {r : Registry}

/-! ## Failing with the first error -/

/-- The computation fails with the first of the errors, and succeeds when there is none. -/
def FailsFirst {α : Type} (first : Except LoadError α) (errors : List LoadError) : Prop :=
  match errors with
  | error :: _ => first = .error error
  | [] => ∃ a, first = .ok a

theorem failsFirst_ok {α : Type} (a : α) : FailsFirst (.ok a) [] :=
  ⟨a, rfl⟩

theorem failsFirst_error {α : Type} {errors : List LoadError} {error : LoadError}
    (h : errors.head? = some error) : FailsFirst (.error error : Except LoadError α) errors := by
  obtain ⟨more, rfl⟩ := List.head?_eq_some_iff.mp h
  exact rfl

theorem FailsFirst.bind {α β : Type} {first : Except LoadError α} {next : α → Except LoadError β}
    {errors more : List LoadError} (h : FailsFirst first errors)
    (then' : ∀ a, first = .ok a → FailsFirst (next a) more) :
    FailsFirst (first >>= next) (errors ++ more) := by
  cases errors with
  | nil =>
    obtain ⟨a, rfl⟩ := h
    exact then' a rfl
  | cons error errors =>
    obtain rfl : first = .error error := h
    exact rfl

/-- What cannot fail afterwards adds no error. -/
theorem FailsFirst.bind_ok {α β : Type} {first : Except LoadError α} {errors : List LoadError}
    (h : FailsFirst first errors) (result : α → β) :
    FailsFirst (first >>= fun a => .ok (result a)) errors := by
  simpa using h.bind fun a _ => failsFirst_ok (result a)

theorem FailsFirst.error_iff {α : Type} {first : Except LoadError α} {errors : List LoadError}
    (h : FailsFirst first errors) {error : LoadError} :
    first = .error error ↔ errors.head? = some error := by
  cases errors with
  | nil =>
    obtain ⟨a, rfl⟩ := h
    simp
  | cons error errors =>
    obtain rfl : first = .error error := h
    simp

theorem FailsFirst.ok_iff {α : Type} {first : Except LoadError α} {errors : List LoadError}
    (h : FailsFirst first errors) : (∃ a, first = .ok a) ↔ errors = [] := by
  cases errors with
  | nil => exact ⟨fun _ => rfl, fun _ => h⟩
  | cons error errors =>
    obtain rfl : first = .error error := h
    simp

/-! ## Bytes and modes -/

namespace Registry

theorem knows_iff {code : UInt8} :
    r.knows code = true ↔ code.toNat ∈ [0, 1, 2, 3, 9] ∨
      0x10 ≤ code.toNat ∧ code.toNat < 0x10 + r.extensions.length := by
  have first : Extension.firstCode.toNat = 0x10 := rfl
  rw [knows, first, Bool.or_eq_true, Bool.and_eq_true, List.contains_iff_mem,
    decide_eq_true_eq, decide_eq_true_eq]

theorem Coherent.knows_iff (coherent : r.Coherent) {code : UInt8} :
    r.knows code = true ↔ ∃ c, r.ofCode? code = some c := by
  have bytes : (r.conventions.map Convention.code).map UInt8.toNat =
      [0, 1, 2, 3, 9] ++ List.range' 0x10 r.extensions.length := by
    have first : Extension.firstCode.toNat = 0x10 := rfl
    rw [← first, ← coherent.codes, conventions, List.map_append, List.map_append, List.map_map,
      List.map_map, List.map_map]
    rfl
  have known : (∃ c, r.ofCode? code = some c) ↔ code ∈ r.conventions.map Convention.code := by
    simp only [coherent.ofCode?_eq_some_iff, List.mem_map]
  have injective : Function.Injective UInt8.toNat := fun a b h => UInt8.toNat_inj.mp h
  rw [known, ← List.mem_map_of_injective injective, bytes, List.mem_append, List.mem_range'_1,
    Registry.knows_iff]

theorem Coherent.load_failsFirst (coherent : r.Coherent) (code : UInt8) :
    FailsFirst ((r.load code).mapError .storage)
      (if r.knows code then [] else [.storage (.unknownConvention code)]) := by
  have knows : r.knows code = true ↔ ∃ c, r.ofCode? code = some c := coherent.knows_iff
  unfold Registry.load
  cases h : r.ofCode? code with
  | some c =>
    rw [if_pos (knows.mpr ⟨c, h⟩)]
    exact ⟨c, rfl⟩
  | none =>
    rw [if_neg (by simp [knows, h])]
    rfl

end Registry

namespace StoredDescriptor

theorem paramMode_failsFirst (index : Nat) (d : StoredDescriptor) :
    FailsFirst ((d.paramMode index).mapError .storage) ((d.paramViolations index).map .storage) := by
  unfold paramMode paramViolations
  cases d.requires .readOnly <;> cases d.requires .output <;> cases d.byRef <;>
    simp [FailsFirst, Except.mapError]

theorem returnMode_failsFirst (d : StoredDescriptor) :
    FailsFirst (d.returnMode.mapError .storage) (d.returnViolations.map .storage) := by
  unfold returnMode returnViolations
  cases d.requires .readOnly <;> cases d.requires .output <;> cases d.byRef <;>
    simp [FailsFirst, Except.mapError]

/-- The markers are read before the type. -/
theorem loadParam_failsFirst {d : StoredDescriptor} (ty : FailsFirst (d.ty.load r) (d.ty.violations r))
    (index : Nat) : FailsFirst (d.loadParam r index) (d.violations r (d.paramViolations index)) := by
  have mode := d.paramMode_failsFirst index
  obtain ⟨ty, byRef, modifiers⟩ := d
  exact mode.bind fun mode _ => ty.bind_ok fun u => Param.mk u mode

theorem loadReturn_failsFirst {d : StoredDescriptor} (ty : FailsFirst (d.ty.load r) (d.ty.violations r)) :
    FailsFirst (d.loadReturn r) (d.violations r d.returnViolations) := by
  have mode := d.returnMode_failsFirst
  obtain ⟨ty, byRef, modifiers⟩ := d
  exact mode.bind fun mode _ => ty.bind_ok fun u => Return.mk u mode

end StoredDescriptor

/-! ## Where `void` may not stand -/

/-- Nothing but `void` is loaded as `void`. -/
theorem StoredTy.isVoid_of_load {t : StoredTy} {u : Ty} (h : t.load r = .ok u) :
    u.isVoid = (t == .void) := by
  cases t with
  | named | voidPtr | void =>
    obtain ⟨⟩ := h
    simp [Ty.isVoid]
  | ptr t =>
    obtain ⟨v, -, rfl⟩ := load_ptr_eq_ok_iff.mp h
    simp [Ty.isVoid]
  | handle e =>
    obtain ⟨s, -, rfl⟩ := load_handle_eq_ok_iff.mp h
    simp [Ty.isVoid]

namespace StoredSignature

variable {e : StoredSignature}

theorem voidViolations_head? (e : StoredSignature) :
    e.voidViolations.head? =
      ((e.params.findIdx? StoredDescriptor.isVoid).map .voidParameter).or
        (if e.ret.isVoid && e.ret.byRef then some .voidByReference else none) := by
  have listed : e.voidViolations =
      ((e.params.zipIdx.filter fun p => p.1.isVoid).map fun p => FormationError.voidParameter p.2) ++
        if e.ret.isVoid && e.ret.byRef then [.voidByReference] else [] := rfl
  have first : ((e.params.zipIdx.filter fun p => p.1.isVoid).map fun p =>
      FormationError.voidParameter p.2).head? =
        (e.params.findIdx? StoredDescriptor.isVoid).map .voidParameter := by
    rw [List.head?_map, List.head?_filter, List.findIdx?_eq_fst_find?_zipIdx, Option.map_map]
    rfl
  rw [listed, List.head?_append, first]
  split <;> rfl

theorem make_failsFirst {params : List Param} {ret : Return} (c : Convention)
    (hps : loadParams r 0 e.params = .ok params) (hr : e.ret.loadReturn r = .ok ret) :
    FailsFirst ((Signature.make params ret c).mapError .formation)
      (e.voidViolations.map .formation) := by
  -- What is loaded is `void` where what is stored is, so both sides find the same index.
  have sameParams : e.params.map StoredDescriptor.isVoid = params.map fun p => p.ty.isVoid := by
    rw [← List.forall₂_eq_eq_eq, List.forall₂_map_left_iff, List.forall₂_map_right_iff]
    refine (loadParams_eq_ok_iff.mp hps).imp fun d p ⟨_, _, ty⟩ => ?_
    exact (StoredTy.isVoid_of_load ty).symm
  have first : (params.findIdx? fun p => p.ty.isVoid) =
      e.params.findIdx? StoredDescriptor.isVoid := by
    have := congrArg (List.findIdx? id) sameParams
    rw [List.findIdx?_map, List.findIdx?_map] at this
    exact this.symm
  obtain ⟨byRef, -, ty⟩ := StoredDescriptor.loadReturn_eq_ok_iff.mp hr
  have sameRet : ret.ty.isVoid = e.ret.isVoid := StoredTy.isVoid_of_load ty
  have head : (e.voidViolations.map LoadError.formation).head? =
      (((e.params.findIdx? StoredDescriptor.isVoid).map FormationError.voidParameter).or
        (if e.ret.isVoid && e.ret.byRef then some .voidByReference else none)).map .formation := by
    rw [List.head?_map, voidViolations_head?]
  rw [Signature.make, first, sameRet, byRef]
  cases void : e.params.findIdx? StoredDescriptor.isVoid with
  | some index =>
    rw [void] at head
    exact failsFirst_error head
  | none =>
    rw [void] at head
    cases reference : e.ret.isVoid && e.ret.byRef with
    | true =>
      rw [reference] at head
      exact failsFirst_error head
    | false =>
      rw [reference] at head
      rw [List.head?_eq_none_iff.mp head]
      exact failsFirst_ok _

/-! ## Signatures at every depth -/

theorem loadParams_failsFirst {ds : List StoredDescriptor}
    (types : ∀ d ∈ ds, FailsFirst (d.ty.load r) (d.ty.violations r)) (index : Nat) :
    FailsFirst (loadParams r index ds) (violationsIn r index ds) := by
  induction ds generalizing index with
  | nil => exact failsFirst_ok []
  | cons d ds ih =>
    have rest := ih (fun d hd => types d (List.mem_cons_of_mem _ hd)) (index + 1)
    have first := StoredDescriptor.loadParam_failsFirst (types d List.mem_cons_self) index
    exact first.bind fun p _ => rest.bind_ok fun ps => p :: ps

theorem load_failsFirst_of (coherent : r.Coherent)
    (params : ∀ d ∈ e.params, FailsFirst (d.ty.load r) (d.ty.violations r))
    (ret : FailsFirst (e.ret.ty.load r) (e.ret.ty.violations r)) :
    FailsFirst (e.load r) (e.violations r) := by
  obtain ⟨code, ds, d⟩ := e
  have byte := coherent.load_failsFirst code
  have params := loadParams_failsFirst params 0
  have ret := StoredDescriptor.loadReturn_failsFirst ret
  rw [load, violations, List.append_assoc, List.append_assoc]
  refine byte.bind fun c _ => params.bind fun ps hps => ret.bind fun rt hrt => ?_
  exact make_failsFirst c hps hrt

end StoredSignature

theorem StoredTy.load_failsFirst (coherent : r.Coherent) (t : StoredTy) :
    FailsFirst (t.load r) (t.violations r) := by
  induction t with
  | named | voidPtr | void => exact failsFirst_ok _
  | ptr t ih => exact ih.bind_ok Ty.ptr
  | handle e hps hr => exact (StoredSignature.load_failsFirst_of coherent hps hr).bind_ok Ty.handle

theorem StoredSignature.load_failsFirst (coherent : r.Coherent) (e : StoredSignature) :
    FailsFirst (e.load r) (e.violations r) :=
  load_failsFirst_of coherent (fun d _ => d.ty.load_failsFirst coherent)
    (e.ret.ty.load_failsFirst coherent)

/-! ## The rules -/

/-- The rules that one stored signature keeps on its own. -/
structure StoredSignature.Sound (r : Registry) (e : StoredSignature) : Prop where
  /-- The byte is a built-in convention's or that of one of the extensions. -/
  byte : e.convention.toNat ∈ [0, 1, 2, 3, 9] ∨
    0x10 ≤ e.convention.toNat ∧ e.convention.toNat < 0x10 + r.extensions.length
  /-- A parameter has one required marker at most, and none unless it is a reference. -/
  paramMarkers : ∀ d ∈ e.params, ¬(d.requires .readOnly = true ∧ d.requires .output = true) ∧
    (d.requires .readOnly = true ∨ d.requires .output = true → d.byRef = true)
  paramTypes : ∀ d ∈ e.params, d.ty ≠ .void
  /-- A return is never written, and read only through a reference. -/
  retMarkers : e.ret.requires .output = false ∧ (e.ret.requires .readOnly = true → e.ret.byRef = true)
  retType : ¬(e.ret.ty = .void ∧ e.ret.byRef = true)

namespace StoredDescriptor

variable {d : StoredDescriptor}

theorem violations_eq_nil_iff {own : List StorageError} :
    d.violations r own = [] ↔ own = [] ∧ d.ty.violations r = [] := by
  cases d
  rw [violations, List.append_eq_nil_iff, List.map_eq_nil_iff]

theorem paramViolations_eq_nil_iff {index : Nat} :
    d.paramViolations index = [] ↔ ¬(d.requires .readOnly = true ∧ d.requires .output = true) ∧
      (d.requires .readOnly = true ∨ d.requires .output = true → d.byRef = true) := by
  unfold paramViolations
  cases d.requires .readOnly <;> cases d.requires .output <;> cases d.byRef <;> simp

theorem returnViolations_eq_nil_iff :
    d.returnViolations = [] ↔
      d.requires .output = false ∧ (d.requires .readOnly = true → d.byRef = true) := by
  unfold returnViolations
  cases d.requires .readOnly <;> cases d.requires .output <;> cases d.byRef <;> simp

theorem isVoid_iff : d.isVoid = true ↔ d.ty = .void := by
  simp [isVoid]

end StoredDescriptor

namespace StoredSignature

variable {e : StoredSignature}

theorem voidViolations_eq_nil_iff :
    e.voidViolations = [] ↔
      (∀ d ∈ e.params, d.ty ≠ .void) ∧ ¬(e.ret.ty = .void ∧ e.ret.byRef = true) := by
  rw [← List.head?_eq_none_iff, voidViolations_head?, Option.or_eq_none_iff, Option.map_eq_none_iff,
    List.findIdx?_eq_none_iff]
  simp only [Bool.eq_false_iff, ne_eq, StoredDescriptor.isVoid_iff, ite_eq_right_iff, reduceCtorEq,
    imp_false, Bool.and_eq_true]

theorem violationsIn_eq_nil_iff {ds : List StoredDescriptor} {index : Nat} :
    violationsIn r index ds = [] ↔ ∀ d ∈ ds,
      (¬(d.requires .readOnly = true ∧ d.requires .output = true) ∧
        (d.requires .readOnly = true ∨ d.requires .output = true → d.byRef = true)) ∧
      d.ty.violations r = [] := by
  induction ds generalizing index with
  | nil => simp [violationsIn]
  | cons d ds ih =>
    rw [violationsIn, List.append_eq_nil_iff, StoredDescriptor.violations_eq_nil_iff,
      StoredDescriptor.paramViolations_eq_nil_iff, ih, List.forall_mem_cons]

theorem violations_eq_nil_iff :
    e.violations r = [] ↔ e.Sound r ∧ (∀ d ∈ e.params, d.ty.violations r = []) ∧
      e.ret.ty.violations r = [] := by
  obtain ⟨code, ds, d⟩ := e
  have byte : (if r.knows code then [] else [LoadError.storage (.unknownConvention code)]) = [] ↔
      code.toNat ∈ [0, 1, 2, 3, 9] ∨
        0x10 ≤ code.toNat ∧ code.toNat < 0x10 + r.extensions.length := by
    rw [← Registry.knows_iff]
    cases r.knows code <;> simp
  rw [violations]
  simp only [List.append_eq_nil_iff, byte, violationsIn_eq_nil_iff, List.map_eq_nil_iff,
    StoredDescriptor.violations_eq_nil_iff, StoredDescriptor.returnViolations_eq_nil_iff,
    voidViolations_eq_nil_iff]
  constructor
  · rintro ⟨⟨⟨known, params⟩, ret, retTypes⟩, noVoid, noReference⟩
    exact ⟨⟨known, fun d hd => (params d hd).1, noVoid, ret, noReference⟩,
      fun d hd => (params d hd).2, retTypes⟩
  · rintro ⟨sound, paramTypes, retTypes⟩
    exact ⟨⟨⟨sound.byte, fun d hd => ⟨sound.paramMarkers d hd, paramTypes d hd⟩⟩, sound.retMarkers,
      retTypes⟩, sound.paramTypes, sound.retType⟩

end StoredSignature

theorem StoredTy.violations_eq_nil_iff (t : StoredTy) :
    t.violations r = [] ↔ ∀ e ∈ t.signatures, e.Sound r := by
  induction t with
  | named | voidPtr | void => simp [StoredTy.violations, StoredTy.signatures]
  | ptr t ih => exact ih
  | handle e hps hr =>
    have params : (∀ d ∈ e.params, d.ty.violations r = []) ↔
        ∀ d ∈ e.params, ∀ e ∈ d.ty.signatures, e.Sound r := forall₂_congr hps
    rw [StoredTy.violations, StoredSignature.violations_eq_nil_iff, params, hr, StoredTy.signatures,
      StoredSignature.forall_signatures]

/-- **The first violation.** A stored signature loads exactly when it and every one nested in it keep
the rules, and otherwise the error is the first violation in the order of storage. -/
theorem load_stops_at_first_violation (r : Registry) (reachable : r.Reachable)
    (e : StoredSignature) :
    ((∃ s, e.load r = .ok s) ↔ ∀ t ∈ e.signatures, t.Sound r) ∧
      ∀ error, e.load r = .error error ↔ (e.violations r).head? = some error := by
  have stops := e.load_failsFirst reachable.coherent
  have sound := (StoredTy.handle e).violations_eq_nil_iff (r := r)
  rw [StoredTy.violations, StoredTy.signatures] at sound
  exact ⟨stops.ok_iff.trans sound, fun error => stops.error_iff⟩

/-- A by-value parameter with a marker and a return that is a reference to `void` come after a handle
behind a data pointer, and of what is wrong in the handle its byte comes before a `void` parameter. So
the byte is the error, and the handle is one of the signatures that break a rule. -/
theorem load_of_many_violations :
    let r := Registry.empty.after ["Fast"]
    let inner : StoredSignature :=
      ⟨0x11, [⟨.void, false, []⟩], ⟨.named "int", false, [⟨.output, true⟩]⟩⟩
    let outer : StoredSignature :=
      ⟨0x10, [⟨.named "int", true, [⟨.readOnly, true⟩]⟩, ⟨.ptr (.handle inner), false, []⟩,
        ⟨.named "int", false, [⟨.output, true⟩]⟩], ⟨.void, true, []⟩⟩
    r.Reachable ∧ outer.load r = .error (.storage (.unknownConvention 0x11)) ∧
      ¬∀ t ∈ outer.signatures, t.Sound r := by
  intro r inner outer
  have reachable : r.Reachable := ⟨["Fast"], rfl⟩
  obtain ⟨loads, fails⟩ := load_stops_at_first_violation r reachable outer
  have first : (outer.violations r).head? = some (.storage (.unknownConvention 0x11)) := by
    decide +kernel
  have failed := (fails _).mpr first
  refine ⟨reachable, failed, fun sound => ?_⟩
  obtain ⟨s, loaded⟩ := loads.mpr sound
  rw [failed] at loaded
  cases loaded

end CallHandle
