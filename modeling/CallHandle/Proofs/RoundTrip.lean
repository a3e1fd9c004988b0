import CallHandle.Proofs.Relabeling
import CallHandle.Stored.Encode
import CallHandle.Stored.Load
import Mathlib.Data.List.Forall2

namespace CallHandle

variable {r : Registry}

/-! ## Bytes -/

namespace Registry

/-- What comes back for a convention that is stored as its byte. One that the registry does not know
is left alone here, and is an error to load. -/
def reread (r : Registry) (c : Convention) : Convention :=
  (r.ofCode? c.code).getD c

theorem code_of_ofCode? {code : UInt8} {c : Convention} (h : r.ofCode? code = some c) :
    c.code = code := by
  simpa using List.find?_some h

theorem ofCode?_builtIn {c : Convention} (hc : c ∈ Convention.builtIns) :
    r.ofCode? c.code = some c := by
  unfold ofCode? conventions
  rw [List.find?_append]
  simp only [Convention.builtIns, List.mem_cons, List.not_mem_nil, or_false] at hc
  rcases hc with rfl | rfl | rfl | rfl | rfl <;> rfl

/-- No built-in convention has a byte of the extension range. -/
theorem extension_of_ofCode? {tag : Extension} {c : Convention}
    (range : Extension.firstCode ≤ tag.code) (h : r.ofCode? tag.code = some c) :
    ∃ name, c = .extension ⟨tag.code, name⟩ := by
  have hc := code_of_ofCode? h
  cases c with
  | extension known =>
    obtain ⟨code, name⟩ := known
    obtain rfl : code = tag.code := hc
    exact ⟨name, rfl⟩
  | _ =>
    rw [← hc] at range
    exact absurd range (by decide)

theorem nameless_reread {c : Convention} (hc : c.WellFormed) :
    (r.reread c).nameless = c.nameless := by
  cases c with
  | extension tag =>
    unfold reread
    cases h : r.ofCode? (Convention.extension tag).code with
    | none => rfl
    | some c =>
      obtain ⟨name, rfl⟩ := extension_of_ofCode? hc h
      rfl
  | _ =>
    unfold reread
    rw [ofCode?_builtIn (by decide)]
    rfl

/-- The name of a built-in convention is not for an extension to change. -/
theorem reread_builtIn {c : Convention} (hc : c.WellFormed)
    (builtIn : c ∈ Convention.builtIns ∨ r.reread c ∈ Convention.builtIns) : r.reread c = c := by
  have same := nameless_reread (r := r) hc
  cases c with
  | extension tag =>
    rcases builtIn with builtIn | builtIn
    · simp [Convention.builtIns] at builtIn
    · simp only [Convention.builtIns, List.mem_cons, List.not_mem_nil, or_false] at builtIn
      rcases builtIn with h | h | h | h | h <;> simp [h, Convention.nameless] at same
  | _ =>
    unfold reread
    rw [ofCode?_builtIn (by decide)]
    rfl

/-! ## The outcome of loading -/

/-- Loads a value that has the given conventions in it, or stops at the first unknown one. -/
def outcome {α : Type} (r : Registry) (cs : List Convention) (value : α) : Except LoadError α :=
  match cs.find? fun c => (r.ofCode? c.code).isNone with
  | none => .ok value
  | some c => .error (.storage (.unknownConvention c.code))

/-- The conventions of what is loaded first stand in front. -/
theorem outcome_bind {α β : Type} {cs ds : List Convention} {a : α} {b : β}
    {next : α → Except LoadError β} (h : next a = r.outcome ds b) :
    (r.outcome cs a >>= next) = r.outcome (cs ++ ds) b := by
  unfold outcome
  rw [List.find?_append]
  cases cs.find? fun c => (r.ofCode? c.code).isNone with
  | none => exact h
  | some c => rfl

/-- What cannot fail afterwards adds no conventions. -/
theorem outcome_bind_ok {α β : Type} {cs : List Convention} {a : α} {b : β}
    {next : α → Except LoadError β} (h : next a = .ok b) :
    (r.outcome cs a >>= next) = r.outcome cs b := by
  have last : next a = r.outcome [] b := h
  simpa using outcome_bind last

theorem load_code (c : Convention) :
    (r.load c.code).mapError .storage = r.outcome [c] (r.reread c) := by
  unfold load outcome reread
  cases h : r.ofCode? c.code <;> simp [h, Except.mapError]

end Registry

/-! ## Modes -/

theorem Param.paramMode_store (p : Param) (index : Nat) :
    p.store.paramMode index = .ok p.mode := by
  obtain ⟨ty, mode⟩ := p
  cases mode <;> rfl

theorem Return.returnMode_store (ret : Return) : ret.store.returnMode = .ok ret.mode := by
  obtain ⟨ty, mode⟩ := ret
  cases mode <;> rfl

/-! ## Types and signatures -/

/-- The type comes back with its conventions looked up. -/
def Ty.Reloads (r : Registry) (t : Ty) : Prop :=
  t.store.load r = r.outcome t.conventions (t.relabel r.reread)

theorem Param.load_store {p : Param} (h : p.ty.Reloads r) (index : Nat) :
    p.store.loadParam r index = r.outcome p.ty.conventions (p.relabel r.reread) := by
  have mode := p.paramMode_store index
  obtain ⟨ty, mode⟩ := p
  simp only [Param.store] at mode
  simp only [Param.store, StoredDescriptor.loadParam, mode, Except.mapError]
  rw [Ty.Reloads] at h
  show (ty.store.load r >>= _) = _
  rw [h]
  apply Registry.outcome_bind_ok
  rw [Param.relabel_eq]
  rfl

theorem Return.load_store {ret : Return} (h : ret.ty.Reloads r) :
    ret.store.loadReturn r = r.outcome ret.ty.conventions (ret.relabel r.reread) := by
  have mode := ret.returnMode_store
  obtain ⟨ty, mode⟩ := ret
  simp only [Return.store] at mode
  simp only [Return.store, StoredDescriptor.loadReturn, mode, Except.mapError]
  rw [Ty.Reloads] at h
  show (ty.store.load r >>= _) = _
  rw [h]
  apply Registry.outcome_bind_ok
  rw [Return.relabel_eq]
  rfl

/-- Parameters are loaded from left to right, whatever position the first one is given. -/
theorem Signature.loadParams_store {params : List Param} (h : ∀ p ∈ params, p.ty.Reloads r)
    (index : Nat) :
    StoredSignature.loadParams r index (params.map Param.store) =
      r.outcome (params.flatMap fun p => p.ty.conventions)
        (params.map (Param.relabel r.reread)) := by
  induction params generalizing index with
  | nil => rfl
  | cons p ps ih =>
    simp only [List.map_cons, List.flatMap_cons, StoredSignature.loadParams]
    rw [Param.load_store (h p List.mem_cons_self),
      ih (fun q hq => h q (List.mem_cons_of_mem _ hq))]
    exact Registry.outcome_bind (Registry.outcome_bind_ok rfl)

/-- Relabeling makes no type void, so the signature is formed again. -/
theorem Signature.make_relabel {s : Signature} (hs : s.WellFormed) (f : Convention → Convention) :
    Signature.make (s.params.map (Param.relabel f)) (s.ret.relabel f) (f s.convention) =
      .ok (s.relabel f) := by
  obtain ⟨params, ret, -⟩ := hs
  have noVoid : ((s.params.map (Param.relabel f)).findIdx? fun p => p.ty.isVoid) = none := by
    rw [List.findIdx?_eq_none_iff]
    intro q hq
    obtain ⟨p, hp, rfl⟩ := List.mem_map.mp hq
    have := params p hp
    rw [Param.relabel_eq, Ty.isVoid_relabel]
    cases h : p.ty <;> simp_all [Ty.isVoid]
  have noReference : ((s.ret.relabel f).ty.isVoid && (s.ret.relabel f).mode.isByRef) = false := by
    rw [Return.relabel_eq, Ty.isVoid_relabel]
    cases h : s.ret.ty <;> simp_all [Ty.isVoid, ReturnMode.isByRef]
  simp only [Signature.make, noVoid, noReference, Signature.relabel_eq]
  rfl

/-- One signature: its own byte, the parameters, the return, and the forming of what was read. -/
theorem Signature.load_store_of {s : Signature} (hs : s.WellFormed)
    (params : ∀ p ∈ s.params, p.ty.Reloads r) (ret : s.ret.ty.Reloads r) :
    s.store.load r = r.outcome s.conventions (s.relabel r.reread) := by
  rw [s.store_eq, StoredSignature.load, Registry.load_code, Signature.loadParams_store params,
    Return.load_store ret, s.conventions_eq, List.cons_append, ← List.singleton_append]
  refine Registry.outcome_bind (Registry.outcome_bind (Registry.outcome_bind_ok ?_))
  rw [Signature.make_relabel hs]
  rfl

theorem Ty.load_store (t : Ty) (valid : t.Valid) : t.Reloads r := by
  induction t with
  | con | voidPtr | void => rfl
  | ptr t ih =>
    unfold Ty.Reloads
    rw [Ty.store, StoredTy.load, ih valid]
    exact Registry.outcome_bind_ok rfl
  | handle s hps hr =>
    obtain ⟨own, params, ret⟩ := Ty.valid_handle.mp valid
    unfold Ty.Reloads
    rw [Ty.store, StoredTy.load, Signature.load_store_of own (fun p hp => hps p hp (params p hp))
      (hr ret)]
    exact Registry.outcome_bind_ok rfl

theorem Signature.load_store {s : Signature} (valid : s.Valid) :
    s.store.load r = r.outcome s.conventions (s.relabel r.reread) := by
  obtain ⟨own, params, ret⟩ := Signature.valid_iff.mp valid
  exact Signature.load_store_of own (fun p hp => p.ty.load_store (params p hp))
    (s.ret.ty.load_store ret)

theorem Signature.wellFormed_conventions {s : Signature} (valid : s.Valid) :
    ∀ c ∈ s.conventions, c.WellFormed := by
  intro c hc
  obtain ⟨t, ht, rfl⟩ := List.mem_map.mp hc
  exact (valid t ht).2.2

/-- Every byte known, loading gives the signature with its conventions reread. -/
theorem Signature.load_store_eq_ok_iff {s t : Signature} (valid : s.Valid) :
    s.store.load r = .ok t ↔
      (∀ c ∈ s.conventions, (r.ofCode? c.code).isSome) ∧ t = s.relabel r.reread := by
  rw [Signature.load_store valid, Registry.outcome]
  cases h : s.conventions.find? fun c => (r.ofCode? c.code).isNone with
  | none =>
    have known : ∀ c ∈ s.conventions, (r.ofCode? c.code).isSome := by
      simpa [Option.isSome_iff_ne_none] using List.find?_eq_none.mp h
    simp only [Except.ok.injEq, eq_comm (a := t), iff_and_self]
    exact fun _ => known
  | some c =>
    simp only [reduceCtorEq, false_iff, not_and]
    intro known
    have unknown := List.find?_some h
    have := known c (List.mem_of_find?_eq_some h)
    simp_all

theorem Signature.nameless_relabel_reread {s : Signature} (valid : s.Valid) :
    (s.relabel r.reread).relabel Convention.nameless = s.relabel Convention.nameless := by
  rw [Signature.relabel_relabel, Signature.relabel_congr]
  exact fun c hc => Registry.nameless_reread (Signature.wellFormed_conventions valid c hc)

theorem Signature.load_store_eq_self_iff {s : Signature} (valid : s.Valid) :
    s.store.load r = .ok s ↔ ∀ c ∈ s.conventions, r.ofCode? c.code = some c := by
  rw [Signature.load_store_eq_ok_iff valid, Signature.eq_relabel_iff, ← forall₂_and]
  refine forall₂_congr fun c _ => ?_
  unfold Registry.reread
  cases r.ofCode? c.code <;> simp

/-- Each convention keeps its byte on the way, and a built-in one is never taken for an extension or
an extension for a built-in one. -/
theorem Signature.conventions_load_store {s t : Signature} (valid : s.Valid)
    (h : s.store.load r = .ok t) :
    List.Forall₂ (fun c d => d.code = c.code ∧
      (c ∈ Convention.builtIns ∨ d ∈ Convention.builtIns → d = c))
        s.conventions t.conventions := by
  obtain ⟨known, rfl⟩ := (Signature.load_store_eq_ok_iff valid).mp h
  rw [Signature.conventions_relabel, List.forall₂_map_right_iff, List.forall₂_same]
  intro c hc
  obtain ⟨d, hd⟩ := Option.isSome_iff_exists.mp (known c hc)
  refine ⟨?_, Registry.reread_builtIn (Signature.wellFormed_conventions valid c hc)⟩
  rw [Registry.reread, hd, Option.getD_some]
  exact Registry.code_of_ofCode? hd

/-- **What a stored signature comes back as.** A valid signature, wherever its extensions are from,
is loaded by any registry with at most the names of extensions changed, or else the error names the
byte of the first convention that the registry does not know. It is loaded as itself exactly when
every convention in it is what the registry has for its byte. -/
theorem load_stored_signature (r : Registry) (s : Signature) (valid : s.Valid) :
    (match s.conventions.find? fun c => (r.ofCode? c.code).isNone with
      | some c => s.store.load r = .error (.storage (.unknownConvention c.code))
      | none => ∃ t, s.store.load r = .ok t ∧
          t.relabel Convention.nameless = s.relabel Convention.nameless) ∧
      (s.store.load r = .ok s ↔ ∀ c ∈ s.conventions, r.ofCode? c.code = some c) ∧
      ∀ t, s.store.load r = .ok t →
        List.Forall₂ (fun c d => d.code = c.code ∧
          (c ∈ Convention.builtIns ∨ d ∈ Convention.builtIns → d = c))
            s.conventions t.conventions := by
  refine ⟨?_, Signature.load_store_eq_self_iff valid,
    fun t h => Signature.conventions_load_store valid h⟩
  have loaded := Signature.load_store (r := r) valid
  unfold Registry.outcome at loaded
  cases h : s.conventions.find? fun c => (r.ofCode? c.code).isNone with
  | some c => simpa only [h] using loaded
  | none =>
    exact ⟨s.relabel r.reread, by simpa only [h] using loaded,
      Signature.nameless_relabel_reread valid⟩

/-- Both signatures have two extensions from elsewhere, the first of them inside a parameter. One has
bytes that the registry gave to other names, and comes back under those. The other has two bytes
that nothing was given, and the one inside the parameter is reported. -/
theorem load_foreign_signatures :
    let r := Registry.empty.after ["Vectorcall", "Fastcall"]
    let call (inner outer : Extension) : Signature :=
      ⟨[⟨.con "int", .byRef⟩, ⟨.ptr (.handle ⟨[], ⟨.void, .byValue⟩, .extension inner⟩), .byOut⟩],
        ⟨.handle ⟨[], ⟨.con "int", .byReadonlyRef⟩, .extension outer⟩, .byValue⟩, .stdcall⟩
    let renamed := call ⟨0x11, "Swift"⟩ ⟨0x10, "Regcall"⟩
    let lost := call ⟨0x20, "Swift"⟩ ⟨0x12, "Regcall"⟩
    renamed.Valid ∧ lost.Valid ∧
      (∃ t, renamed.store.load r = .ok t ∧
        t.relabel Convention.nameless = renamed.relabel Convention.nameless) ∧
      renamed.store.load r ≠ .ok renamed ∧
      lost.store.load r = .error (.storage (.unknownConvention 0x20)) := by
  intro r call renamed lost
  have validRenamed : renamed.Valid := by decide +kernel
  have validLost : lost.Valid := by decide +kernel
  have known : (renamed.conventions.find? fun c => (r.ofCode? c.code).isNone) = none := by
    decide +kernel
  have unknown : (lost.conventions.find? fun c => (r.ofCode? c.code).isNone) =
      some (.extension ⟨0x20, "Swift"⟩) := by
    decide +kernel
  obtain ⟨comesBack, itself, -⟩ := load_stored_signature r renamed validRenamed
  have refused := (load_stored_signature r lost validLost).1
  rw [known] at comesBack
  rw [unknown] at refused
  refine ⟨validRenamed, validLost, comesBack, ?_, refused⟩
  intro same
  exact absurd (itself.mp same) (by decide +kernel)

end CallHandle
