import CallHandle.Proofs.NormalForm

namespace CallHandle

variable {r : Registry}

/-! ## Being alike -/

mutual

/-- The stored types have one structure and the same names, and what is inside them is alike. -/
def StoredTy.Alike : StoredTy → StoredTy → Prop
  | .named m, .named n => m = n
  | .ptr t, .ptr u => t.Alike u
  | .voidPtr, .voidPtr | .void, .void => True
  | .handle e, .handle f => e.Alike f
  | _, _ => False

/-- The modifier lists may differ in anything but which markers they require. -/
def StoredDescriptor.Alike : StoredDescriptor → StoredDescriptor → Prop
  | ⟨t, byRef, modifiers⟩, ⟨u, byRef', modifiers'⟩ =>
    t.Alike u ∧ byRef = byRef' ∧
      ∀ marker, (⟨marker, true⟩ : Modifier) ∈ modifiers ↔ ⟨marker, true⟩ ∈ modifiers'

/-- The bytes are equal, and the descriptors are as many and alike one by one. -/
def StoredSignature.Alike : StoredSignature → StoredSignature → Prop
  | ⟨code, ds, d⟩, ⟨code', ds', d'⟩ =>
    code = code' ∧ StoredSignature.AlikeParams ds ds' ∧ d.Alike d'

def StoredSignature.AlikeParams : List StoredDescriptor → List StoredDescriptor → Prop
  | [], [] => True
  | d :: ds, d' :: ds' => d.Alike d' ∧ StoredSignature.AlikeParams ds ds'
  | _, _ => False

end

/-! ## Modifiers -/

namespace StoredDescriptor

variable {d d' : StoredDescriptor}

/-- Which markers are required decides the binding modifiers, and they decide it. -/
theorem binding_eq_iff : d.binding = d'.binding ↔
    ∀ marker, (⟨marker, true⟩ : Modifier) ∈ d.modifiers ↔ ⟨marker, true⟩ ∈ d'.modifiers := by
  constructor
  · intro same marker
    have bound (d : StoredDescriptor) :
        (⟨marker, true⟩ : Modifier) ∈ d.binding ↔ ⟨marker, true⟩ ∈ d.modifiers := by
      simp [mem_binding]
    rw [← bound, ← bound, same]
  · intro same
    have requires (marker : Marker) : d.requires marker = d'.requires marker := by
      rw [Bool.eq_iff_iff, requires_iff, requires_iff, same]
    rw [binding_eq, binding_eq, requires, requires]

theorem alike_iff : d.Alike d' ↔ d.ty.Alike d'.ty ∧ d.byRef = d'.byRef ∧
    ∀ marker, (⟨marker, true⟩ : Modifier) ∈ d.modifiers ↔ ⟨marker, true⟩ ∈ d'.modifiers := by
  cases d
  cases d'
  rw [Alike]

theorem alike_iff_normalize_eq_of (ty : d.ty.Alike d'.ty ↔ d.ty.normalize = d'.ty.normalize) :
    d.Alike d' ↔ d.normalize = d'.normalize := by
  rw [alike_iff, ty, ← binding_eq_iff, normalize_eq, normalize_eq, StoredDescriptor.mk.injEq]

end StoredDescriptor

/-! ## The normal form -/

namespace StoredSignature

variable {e f : StoredSignature}

theorem alike_iff : e.Alike f ↔
    e.convention = f.convention ∧ AlikeParams e.params f.params ∧ e.ret.Alike f.ret := by
  cases e
  cases f
  rw [Alike]

theorem alikeParams_iff_map_eq {ds ds' : List StoredDescriptor}
    (each : ∀ d ∈ ds, ∀ d', d.Alike d' ↔ d.normalize = d'.normalize) :
    AlikeParams ds ds' ↔ ds.map StoredDescriptor.normalize = ds'.map StoredDescriptor.normalize := by
  induction ds generalizing ds' with
  | nil => cases ds' <;> simp [AlikeParams]
  | cons d ds ih =>
    cases ds' with
    | nil => simp [AlikeParams]
    | cons d' ds' =>
      have first := each d List.mem_cons_self d'
      have rest : AlikeParams ds ds' ↔
          ds.map StoredDescriptor.normalize = ds'.map StoredDescriptor.normalize :=
        ih fun d hd => each d (List.mem_cons_of_mem _ hd)
      rw [AlikeParams, first, rest, List.map_cons, List.map_cons, List.cons.injEq]

theorem alike_iff_normalize_eq_of
    (params : ∀ d ∈ e.params, ∀ u, d.ty.Alike u ↔ d.ty.normalize = u.normalize)
    (ret : ∀ u, e.ret.ty.Alike u ↔ e.ret.ty.normalize = u.normalize) :
    e.Alike f ↔ e.normalize = f.normalize := by
  have each : ∀ d ∈ e.params, ∀ d', d.Alike d' ↔ d.normalize = d'.normalize := by
    intro d hd d'
    exact StoredDescriptor.alike_iff_normalize_eq_of (params d hd d'.ty)
  rw [alike_iff, alikeParams_iff_map_eq each, StoredDescriptor.alike_iff_normalize_eq_of (ret f.ret.ty),
    normalize_eq, normalize_eq, StoredSignature.mk.injEq]

end StoredSignature

theorem StoredTy.alike_iff_normalize_eq (t u : StoredTy) :
    t.Alike u ↔ t.normalize = u.normalize := by
  induction t generalizing u with
  | named | voidPtr | void => cases u <;> simp [StoredTy.Alike, StoredTy.normalize]
  | ptr t ih => cases u <;> simp [StoredTy.Alike, StoredTy.normalize, ih]
  | handle e hps hr =>
    cases u with
    | handle f =>
      have nested : e.Alike f ↔ e.normalize = f.normalize :=
        StoredSignature.alike_iff_normalize_eq_of hps hr
      simp [StoredTy.Alike, StoredTy.normalize, nested]
    | _ => simp [StoredTy.Alike, StoredTy.normalize]

theorem StoredSignature.alike_iff_normalize_eq (e f : StoredSignature) :
    e.Alike f ↔ e.normalize = f.normalize :=
  alike_iff_normalize_eq_of (fun d _ => d.ty.alike_iff_normalize_eq)
    e.ret.ty.alike_iff_normalize_eq

instance (e f : StoredSignature) : Decidable (e.Alike f) :=
  decidable_of_iff _ (e.alike_iff_normalize_eq f).symm

/-! ## Loading -/

namespace StoredDescriptor

variable {d : StoredDescriptor}

theorem paramMode_normalize (index : Nat) (d : StoredDescriptor) :
    d.normalize.paramMode index = d.paramMode index := by
  unfold paramMode
  rw [requires_normalize, requires_normalize, normalize_eq]

theorem returnMode_normalize (d : StoredDescriptor) : d.normalize.returnMode = d.returnMode := by
  unfold returnMode
  rw [requires_normalize, requires_normalize, normalize_eq]

theorem loadParam_normalize (ty : d.ty.normalize.load r = d.ty.load r) (index : Nat) :
    d.normalize.loadParam r index = d.loadParam r index := by
  have mode := d.paramMode_normalize index
  obtain ⟨t, byRef, modifiers⟩ := d
  rw [normalize] at mode ⊢
  rw [loadParam, loadParam, mode, ty]

theorem loadReturn_normalize (ty : d.ty.normalize.load r = d.ty.load r) :
    d.normalize.loadReturn r = d.loadReturn r := by
  have mode := d.returnMode_normalize
  obtain ⟨t, byRef, modifiers⟩ := d
  rw [normalize] at mode ⊢
  rw [loadReturn, loadReturn, mode, ty]

end StoredDescriptor

namespace StoredSignature

theorem loadParams_normalize {ds : List StoredDescriptor}
    (types : ∀ d ∈ ds, d.ty.normalize.load r = d.ty.load r) (index : Nat) :
    loadParams r index (ds.map StoredDescriptor.normalize) = loadParams r index ds := by
  induction ds generalizing index with
  | nil => rfl
  | cons d ds ih =>
    have first := StoredDescriptor.loadParam_normalize (types d List.mem_cons_self) index
    have rest := ih (fun d hd => types d (List.mem_cons_of_mem _ hd)) (index + 1)
    rw [List.map_cons, loadParams, loadParams, first, rest]

theorem load_normalize_of {e : StoredSignature}
    (params : ∀ d ∈ e.params, d.ty.normalize.load r = d.ty.load r)
    (ret : e.ret.ty.normalize.load r = e.ret.ty.load r) : e.normalize.load r = e.load r := by
  rw [normalize_eq]
  obtain ⟨code, ds, d⟩ := e
  rw [load, load, loadParams_normalize params, StoredDescriptor.loadReturn_normalize ret]

end StoredSignature

theorem StoredTy.load_normalize (t : StoredTy) : t.normalize.load r = t.load r := by
  induction t with
  | named | voidPtr | void => rfl
  | ptr t ih => rw [StoredTy.normalize, StoredTy.load, StoredTy.load, ih]
  | handle e hps hr =>
    rw [StoredTy.normalize, StoredTy.load, StoredTy.load, StoredSignature.load_normalize_of hps hr]

theorem StoredSignature.load_normalize (e : StoredSignature) : e.normalize.load r = e.load r :=
  load_normalize_of (fun d _ => d.ty.load_normalize) e.ret.ty.load_normalize

/-- **Nothing else binds.** Whatever the registry, stored signatures that are alike are loaded alike: as one
signature, or refused with one error at one place. And where one of them is loaded, the stored signatures that
are loaded as the same signature are the ones alike. -/
theorem load_of_alike (r : Registry) (e f : StoredSignature) :
    (e.Alike f → e.load r = f.load r) ∧
      ∀ s, e.load r = .ok s → (f.load r = .ok s ↔ e.Alike f) := by
  have congr (alike : e.Alike f) : e.load r = f.load r := by
    calc e.load r = e.normalize.load r := e.load_normalize.symm
      _ = f.normalize.load r := by rw [(e.alike_iff_normalize_eq f).mp alike]
      _ = f.load r := f.load_normalize
  refine ⟨congr, ?_⟩
  intro s loaded
  constructor
  · intro loaded'
    have back : s.store = e.normalize := Signature.store_of_load loaded
    have back' : s.store = f.normalize := Signature.store_of_load loaded'
    exact (e.alike_iff_normalize_eq f).mpr (back.symm.trans back')
  · intro alike
    rw [← congr alike, loaded]

/-- Behind a data pointer there is a handle whose second parameter requires both markers. Respelled, they
stand in another order, one of them twice and with an optional one between them, and both spellings are
refused at that parameter. Without the parameters an optional marker on the return is of no matter, and a
required one is. -/
theorem load_of_respelled_markers :
    let r := Registry.empty
    let handle (params : List StoredDescriptor) (modifiers : List Modifier) : StoredSignature :=
      ⟨1, [⟨.ptr (.handle ⟨0, params, ⟨.named "int", true, modifiers⟩⟩), false, []⟩], ⟨.void, false, []⟩⟩
    let param (modifiers : List Modifier) : StoredDescriptor := ⟨.named "int", true, modifiers⟩
    let e := handle [⟨.void, false, []⟩, param [⟨.output, true⟩, ⟨.readOnly, true⟩]] []
    let f := handle [⟨.void, false, [⟨.output, false⟩]⟩, param [⟨.readOnly, true⟩, ⟨.output, false⟩,
      ⟨.output, true⟩, ⟨.readOnly, true⟩]] [⟨.output, false⟩]
    let conflict := LoadError.storage (.conflictingMarkers (.parameter 1))
    let s : Signature := ⟨[⟨.ptr (.handle ⟨[], ⟨.con "int", .byRef⟩, .managed⟩), .byValue⟩],
      ⟨.void, .byValue⟩, .cdecl⟩
    e.Alike f ∧ e.load r = .error conflict ∧ f.load r = .error conflict ∧
      (handle [] []).load r = .ok s ∧ (handle [] [⟨.output, false⟩]).load r = .ok s ∧
      (handle [] [⟨.readOnly, true⟩]).load r ≠ .ok s := by
  intro r handle param e f conflict s
  have alike : e.Alike f := by decide +kernel
  have refused : e.load r = .error conflict := by decide +kernel
  have loaded : (handle [] []).load r = .ok s := by decide +kernel
  have same (modifiers : List Modifier) := (load_of_alike r (handle [] []) (handle [] modifiers)).2 s loaded
  refine ⟨alike, refused, ?_, loaded, (same _).mpr (by decide +kernel), ?_⟩
  · rw [← (load_of_alike r e f).1 alike, refused]
  · rw [ne_eq, same]
    decide +kernel

end CallHandle
