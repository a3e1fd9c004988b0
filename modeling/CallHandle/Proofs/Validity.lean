import CallHandle.Proofs.NormalForm
import CallHandle.Proofs.WrittenForms

namespace CallHandle

/-! ## Forming -/

namespace Signature

variable {params : List Param} {ret : Return} {c : Convention} {s : Signature}

theorem valid_of_make (made : make params ret c = .ok s) (hps : ∀ p ∈ params, p.ty.Valid)
    (hr : ret.ty.Valid) (hc : c.WellFormed) : s.Valid := by
  obtain ⟨rfl, noVoid, noReference⟩ := make_eq_ok_iff.mp made
  exact valid_iff.mpr ⟨⟨noVoid, noReference, hc⟩, hps, hr⟩

theorem make_of_valid (valid : s.Valid) : make s.params s.ret s.convention = .ok s :=
  make_of_wellFormed (valid_iff.mp valid).1

/-- Keywords decide the modes and leave the types as they are. -/
theorem readParams_eq_ok_iff {index : Nat} {ws : List Written} :
    readParams index ws = .ok params ↔
      List.Forall₂ (fun w p => ParamMode.ofKeywords? w.keywords = some p.mode ∧ w.ty = p.ty)
        ws params := by
  induction ws generalizing index params with
  | nil =>
    simp only [readParams, Except.ok.injEq, List.forall₂_nil_left_iff]
    exact eq_comm
  | cons w ws ih =>
    unfold readParams
    constructor
    · intro h
      cases spelled : ParamMode.ofKeywords? w.keywords with
      | none =>
        rw [spelled] at h
        cases h
      | some mode =>
        rw [spelled] at h
        obtain ⟨rest, read, h⟩ := bind_eq_ok_iff.mp h
        obtain rfl := Except.ok.inj h
        exact .cons ⟨spelled, rfl⟩ (ih.mp read)
    · rintro (_ | @⟨_, p, _, rest, ⟨spelled, ty⟩, others⟩)
      have same : (⟨w.ty, p.mode⟩ : Param) = p := Param.ext ty rfl
      rw [spelled]
      refine bind_eq_ok_iff.mpr ⟨rest, ih.mpr others, ?_⟩
      rw [same]
      rfl

/-- No mode of a return is spelled with `out`, so what is refused first is refused anyway. -/
theorem readReturn_eq_ok_iff {w : Written} :
    readReturn w = .ok ret ↔
      ReturnMode.ofKeywords? w.keywords = some ret.mode ∧ w.ty = ret.ty := by
  obtain ⟨ty, keywords⟩ := w
  obtain ⟨rty, mode⟩ := ret
  unfold readReturn
  cases spelled : ReturnMode.ofKeywords? keywords with
  | none => split <;> simp
  | some spelledMode =>
    have noOut : Keyword.out ∉ keywords := by
      unfold ReturnMode.ofKeywords? at spelled
      split at spelled
      · simp
      · simp
      · simp
      · cases spelled
    simp [noOut, and_comm]

theorem ofWritten_eq_ok_iff {ws : List Written} {w : Written} :
    ofWritten ws w c = .ok s ↔
      readParams 0 ws = .ok s.params ∧ readReturn w = .ok s.ret ∧
        make s.params s.ret s.convention = .ok s ∧ s.convention = c := by
  unfold ofWritten
  simp only [bind_eq_ok_iff]
  constructor
  · rintro ⟨params, hps, ret, hr, made⟩
    obtain ⟨rfl, -⟩ := make_eq_ok_iff.mp made
    exact ⟨hps, hr, made, rfl⟩
  · rintro ⟨hps, hr, made, rfl⟩
    exact ⟨_, hps, _, hr, made⟩

theorem valid_of_ofWritten {ws : List Written} {w : Written} (formed : ofWritten ws w c = .ok s)
    (hws : ∀ v ∈ ws, v.ty.Valid) (hw : w.ty.Valid) (hc : c.WellFormed) : s.Valid := by
  obtain ⟨params, ret, made, rfl⟩ := ofWritten_eq_ok_iff.mp formed
  apply valid_of_make made
  · intro p hp
    obtain ⟨v, hv, -, ty⟩ := exists_of_mem_right (readParams_eq_ok_iff.mp params) hp
    rw [← ty]
    exact hws v hv
  · rw [← (readReturn_eq_ok_iff.mp ret).2]
    exact hw
  · exact hc

/-- The outermost convention is replaced and the rest is untouched, so the old one need not be valid. -/
theorem valid_withConvention (formed : make s.params s.ret s.convention = .ok s)
    (hps : ∀ p ∈ s.params, p.ty.Valid) (hr : s.ret.ty.Valid) (hc : c.WellFormed) :
    (s.withConvention c).Valid := by
  obtain ⟨-, noVoid, noReference⟩ := make_eq_ok_iff.mp formed
  exact valid_iff.mpr ⟨⟨noVoid, noReference, hc⟩, hps, hr⟩

end Signature

/-! ## Reading -/

mutual

theorem Ty.valid_of_read {j : Json} {t : Ty} (h : Ty.read j = .ok t) : t.Valid := by
  rcases Ty.cases_of_read h with ⟨name, rfl⟩ | ⟨part, u, -, read, rfl⟩ | rfl |
    ⟨part, s, -, read, rfl⟩ | rfl
  · simp [Ty.Valid, Ty.signatures]
  · have pointee : u.Valid := Ty.valid_of_read read
    exact pointee
  · simp [Ty.Valid, Ty.signatures]
  · have inside : s.Valid := Signature.valid_of_readHandle read
    exact inside
  · simp [Ty.Valid, Ty.signatures]
termination_by sizeOf j
decreasing_by all_goals exact part.2

theorem Param.valid_of_read {j : Json} {p : Param} (h : Param.read j = .ok p) : p.ty.Valid := by
  obtain ⟨part, -, read⟩ := Param.ty_of_read h
  exact Ty.valid_of_read read
termination_by sizeOf j
decreasing_by exact part.2

theorem Return.valid_of_read {j : Json} {ret : Return} (h : Return.read j = .ok ret) :
    ret.ty.Valid := by
  obtain ⟨part, -, read⟩ := Return.ty_of_read h
  exact Ty.valid_of_read read
termination_by sizeOf j
decreasing_by exact part.2

theorem Signature.valid_of_read {j : Json} {s : Signature} (h : Signature.read j = .ok s) :
    s.Valid := by
  obtain ⟨made, params, ⟨part, -, ret⟩, _, -, convention⟩ := Signature.make_of_read h
  apply Signature.valid_of_make made
  · intro p hp
    obtain ⟨part, -, read⟩ := params p hp
    exact Param.valid_of_read read
  · exact Return.valid_of_read ret
  · exact Convention.wellFormed_of_read convention
termination_by sizeOf j
decreasing_by all_goals exact part.2

theorem Signature.valid_of_readHandle {j : Json} {s : Signature}
    (h : Signature.readHandle j = .ok s) : s.Valid := by
  obtain ⟨part, -, read⟩ := Signature.exists_of_readHandle h
  exact Signature.valid_of_read read
termination_by sizeOf j
decreasing_by exact part.2

end

/-- **Every route is guarded.** Whatever is read from JSON as a type, a handle type, a signature or a
descriptor, and whatever a registry loads, is valid: at every depth no parameter is `void`, no reference
to `void` is returned and no extension has a byte of a built-in convention. Forming a signature from
written or given descriptors, or putting it under another convention, keeps valid what is valid inside,
and forming refuses no valid signature. -/
theorem valid_by_every_route :
    (∀ (j : Json) (t : Ty), Ty.read j = .ok t → t.Valid) ∧
      (∀ (j : Json) (s : Signature), Signature.readHandle j = .ok s → s.Valid) ∧
      (∀ (j : Json) (s : Signature), Signature.read j = .ok s → s.Valid) ∧
      (∀ (j : Json) (p : Param), Param.read j = .ok p → p.ty.Valid) ∧
      (∀ (j : Json) (ret : Return), Return.read j = .ok ret → ret.ty.Valid) ∧
      (∀ (r : Registry) (e : StoredSignature) (s : Signature), r.Reachable →
        e.load r = .ok s → s.Valid) ∧
      (∀ (ws : List Signature.Written) (w : Signature.Written) (c : Convention) (s : Signature),
        (∀ v ∈ ws, v.ty.Valid) → w.ty.Valid → c.WellFormed →
          Signature.ofWritten ws w c = .ok s → s.Valid) ∧
      (∀ (params : List Param) (ret : Return) (c : Convention) (s : Signature),
        (∀ p ∈ params, p.ty.Valid) → ret.ty.Valid → c.WellFormed →
          Signature.make params ret c = .ok s → s.Valid) ∧
      (∀ s : Signature, s.Valid → Signature.make s.params s.ret s.convention = .ok s) ∧
      ∀ (s : Signature) (c : Convention),
        Signature.make s.params s.ret s.convention = .ok s → (∀ p ∈ s.params, p.ty.Valid) →
          s.ret.ty.Valid → c.WellFormed → (s.withConvention c).Valid := by
  refine ⟨fun j t => Ty.valid_of_read, fun j s => Signature.valid_of_readHandle,
    fun j s => Signature.valid_of_read, fun j p => Param.valid_of_read,
    fun j ret => Return.valid_of_read, ?_, ?_, ?_, fun s => Signature.make_of_valid,
    fun s c => Signature.valid_withConvention⟩
  · intro r e s reachable loaded
    exact Signature.valid_of_load reachable.coherent loaded
  · intro ws w c s hws hw hc formed
    exact Signature.valid_of_ofWritten formed hws hw hc
  · intro params ret c s hps hr hc made
    exact Signature.valid_of_make made hps hr hc

/-- All the routes in turn: a signature read from JSON is written into another behind a data pointer, a
third is formed from this one and a loaded one, and is put under an extension. -/
theorem valid_by_routes_in_turn :
    let j : Json := .obj [("convention", .obj [("Extension", .arr [.int 0x10, .str "Fast"])]),
      ("ret", .obj [("mode", .str "Ref"), ("ty", .obj [("Con", .obj [("name", .str "int")])])]),
      ("params", .arr [.arr [.str "VoidPtr", .str "Out"]])]
    let e : StoredSignature := ⟨0x11, [⟨.voidPtr, true, [⟨.output, true⟩]⟩], ⟨.void, false, []⟩⟩
    let r := Registry.empty.after ["Fast", "Safe"]
    let read : Signature := ⟨[⟨.voidPtr, .byOut⟩], ⟨.con "int", .byRef⟩, .extension ⟨0x10, "Fast"⟩⟩
    let loaded : Signature := ⟨[⟨.voidPtr, .byOut⟩], ⟨.void, .byValue⟩, .extension ⟨0x11, "Safe"⟩⟩
    let written : Signature := ⟨[⟨.ptr (.handle read), .byIn⟩], ⟨.void, .byValue⟩, .stdcall⟩
    let made : Signature := ⟨[⟨.handle written, .byValue⟩], ⟨.handle loaded, .byRef⟩, .managed⟩
    Signature.read j = .ok read ∧ e.load r = .ok loaded ∧
      Signature.ofWritten [⟨.ptr (.handle read), [.ref, .readonly]⟩] ⟨.void, []⟩ .stdcall =
        .ok written ∧
      Signature.make made.params made.ret .managed = .ok made ∧ made.Valid ∧
      (made.withConvention (.extension ⟨0x20, "Swift"⟩)).Valid := by
  intro j e r read loaded written made
  obtain ⟨-, -, reading, -, -, loading, writing, making, -, relabeling⟩ := valid_by_every_route
  have hread : Signature.read j = .ok read := by
    refine Signature.read_obj rfl rfl rfl (eq_ok_of_toOption ?params)
      (Return.read_obj rfl rfl (Ty.read_json (t := .con "int") (by decide)) rfl) rfl ?made
    case params => decide +kernel
    case made => decide +kernel
  have hloaded : e.load r = .ok loaded := by decide +kernel
  have hwritten : Signature.ofWritten [⟨.ptr (.handle read), [.ref, .readonly]⟩] ⟨.void, []⟩ .stdcall =
      .ok written := by decide +kernel
  have hmade : Signature.make made.params made.ret .managed = .ok made := by decide +kernel
  have validRead : read.Valid := reading j read hread
  have validLoaded : loaded.Valid := loading r e loaded ⟨["Fast", "Safe"], rfl⟩ hloaded
  have validWritten : written.Valid := by
    refine writing _ _ .stdcall written ?_ (by decide) trivial hwritten
    intro w hw
    rw [List.mem_singleton.mp hw]
    exact validRead
  have passed : ∀ p ∈ made.params, p.ty.Valid := by
    intro p hp
    rw [List.mem_singleton.mp hp]
    exact validWritten
  exact ⟨hread, hloaded, hwritten, hmade,
    making made.params made.ret .managed made passed validLoaded trivial hmade,
    relabeling made _ hmade passed validLoaded (by decide)⟩

end CallHandle
