import CallHandle.Proofs.Loading
import CallHandle.Proofs.Registration

/-! A byte that stands for a convention stands for it ever after, so registrations between two loads change
nothing but what an unknown byte comes to. -/

namespace CallHandle

/-- The second registry finds every byte that the first one finds, as the same convention. -/
def Registry.Extends (r r' : Registry) : Prop :=
  ∀ code c, r.ofCode? code = some c → r'.ofCode? code = some c

variable {α β : Type} {r r' : Registry} {code : UInt8}

/-! ## Outcomes that last -/

/-- The second outcome is what the first one becomes when the registry grows. -/
inductive Lasts (r r' : Registry) : Except LoadError α → Except LoadError α → Prop where
  /-- Nothing changes. If a byte was refused, it is unknown to the larger registry as well. -/
  | kept {outcome : Except LoadError α}
      (unknown : ∀ code, outcome = .error (.storage (.unknownConvention code)) →
        r'.ofCode? code = none) :
      Lasts r r' outcome outcome
  /-- A byte was refused that the larger registry knows. -/
  | learnt {code : UInt8} {c : Convention} {after : Except LoadError α}
      (unknown : r.ofCode? code = none) (known : r'.ofCode? code = some c) :
      Lasts r r' (.error (.storage (.unknownConvention code))) after

namespace Lasts

theorem ok (a : α) : Lasts r r' (.ok a) (.ok a) :=
  .kept fun _ refused => nomatch refused

theorem of_markers {mode : Except StorageError α}
    (other : ∀ code, mode ≠ .error (.unknownConvention code)) :
    Lasts r r' (mode.mapError .storage) (mode.mapError .storage) := by
  cases mode with
  | ok mode => exact ok mode
  | error error =>
    refine .kept fun code refused => absurd ?_ (other code)
    rw [LoadError.storage.inj (Except.error.inj refused)]

/-- Of two steps the second is looked at only when the first succeeds, and then the first has one outcome
under both registries. -/
theorem bind {before after : Except LoadError α} {next next' : α → Except LoadError β}
    (first : Lasts r r' before after)
    (rest : ∀ a, before = .ok a → Lasts r r' (next a) (next' a)) :
    Lasts r r' (before >>= next) (after >>= next') := by
  cases first with
  | learnt unknown known => exact .learnt unknown known
  | kept unknown =>
    cases before with
    | ok a => exact rest a rfl
    | error error =>
      refine .kept fun code refused => unknown code ?_
      rw [Except.error.inj refused]

/-- What cannot fail afterwards changes nothing. -/
theorem bind_ok {before after : Except LoadError α} (first : Lasts r r' before after)
    (result : α → β) :
    Lasts r r' (before >>= fun a => .ok (result a)) (after >>= fun a => .ok (result a)) :=
  first.bind fun a _ => ok (result a)

/-- Unless the larger registry knows a byte that was refused, both outcomes are one. -/
theorem eq {before after : Except LoadError α} (h : Lasts r r' before after)
    (still : ∀ code, before = .error (.storage (.unknownConvention code)) → r'.ofCode? code = none) :
    after = before := by
  cases h with
  | kept _ => rfl
  | learnt _ known =>
    rw [still _ rfl] at known
    cases known

end Lasts

/-! ## Loading -/

theorem Registry.load_lasts (larger : r.Extends r') (code : UInt8) :
    Lasts r r' ((r.load code).mapError .storage) ((r'.load code).mapError .storage) := by
  unfold Registry.load
  cases found : r.ofCode? code with
  | some c =>
    rw [larger code c found]
    exact .ok c
  | none =>
    cases found' : r'.ofCode? code with
    | some c => exact .learnt found found'
    | none =>
      refine .kept fun other refused => ?_
      obtain rfl : code = other := by simpa [Except.mapError] using refused
      exact found'

/-- Forming looks at no registry. -/
theorem Signature.make_lasts (params : List Param) (ret : Return) (c : Convention) :
    Lasts r r' ((Signature.make params ret c).mapError .formation)
      ((Signature.make params ret c).mapError .formation) := by
  refine .kept fun code refused => ?_
  cases formed : Signature.make params ret c <;> simp [formed, Except.mapError] at refused

namespace StoredDescriptor

variable {d : StoredDescriptor}

/-- The markers are read without a registry, and no error of theirs is about a byte. -/
theorem paramMode_lasts (index : Nat) (d : StoredDescriptor) :
    Lasts r r' ((d.paramMode index).mapError .storage) ((d.paramMode index).mapError .storage) := by
  apply Lasts.of_markers
  intro code
  unfold paramMode
  cases d.requires .readOnly <;> cases d.requires .output <;> cases d.byRef <;> simp

theorem returnMode_lasts (d : StoredDescriptor) :
    Lasts r r' (d.returnMode.mapError .storage) (d.returnMode.mapError .storage) := by
  apply Lasts.of_markers
  intro code
  unfold returnMode
  cases d.requires .readOnly <;> cases d.requires .output <;> cases d.byRef <;> simp

theorem loadParam_lasts (ty : Lasts r r' (d.ty.load r) (d.ty.load r')) (index : Nat) :
    Lasts r r' (d.loadParam r index) (d.loadParam r' index) := by
  have mode : Lasts r r' ((d.paramMode index).mapError .storage) _ := d.paramMode_lasts index
  obtain ⟨ty, byRef, modifiers⟩ := d
  exact mode.bind fun mode _ => ty.bind_ok fun u => Param.mk u mode

theorem loadReturn_lasts (ty : Lasts r r' (d.ty.load r) (d.ty.load r')) :
    Lasts r r' (d.loadReturn r) (d.loadReturn r') := by
  have mode : Lasts r r' (d.returnMode.mapError .storage) _ := d.returnMode_lasts
  obtain ⟨ty, byRef, modifiers⟩ := d
  exact mode.bind fun mode _ => ty.bind_ok fun u => Return.mk u mode

end StoredDescriptor

namespace StoredSignature

variable {e : StoredSignature}

theorem loadParams_lasts {ds : List StoredDescriptor}
    (types : ∀ d ∈ ds, Lasts r r' (d.ty.load r) (d.ty.load r')) (index : Nat) :
    Lasts r r' (loadParams r index ds) (loadParams r' index ds) := by
  induction ds generalizing index with
  | nil => exact .ok []
  | cons d ds ih =>
    have first := StoredDescriptor.loadParam_lasts (types d List.mem_cons_self) index
    have rest := ih (fun d hd => types d (List.mem_cons_of_mem _ hd)) (index + 1)
    exact first.bind fun p _ => rest.bind_ok fun ps => p :: ps

theorem load_lasts_of (larger : r.Extends r')
    (params : ∀ d ∈ e.params, Lasts r r' (d.ty.load r) (d.ty.load r'))
    (ret : Lasts r r' (e.ret.ty.load r) (e.ret.ty.load r')) :
    Lasts r r' (e.load r) (e.load r') := by
  obtain ⟨code, ds, d⟩ := e
  have byte := Registry.load_lasts larger code
  have params := loadParams_lasts params 0
  have ret := StoredDescriptor.loadReturn_lasts ret
  exact byte.bind fun c _ => params.bind fun ps _ => ret.bind fun rt _ => Signature.make_lasts ps rt c

end StoredSignature

theorem StoredTy.load_lasts (larger : r.Extends r') (t : StoredTy) :
    Lasts r r' (t.load r) (t.load r') := by
  induction t with
  | named | voidPtr | void => exact .ok _
  | ptr t ih => exact ih.bind_ok Ty.ptr
  | handle e hps hr => exact (StoredSignature.load_lasts_of larger hps hr).bind_ok Ty.handle

namespace StoredSignature

theorem load_lasts (larger : r.Extends r') (e : StoredSignature) :
    Lasts r r' (e.load r) (e.load r') :=
  load_lasts_of larger (fun d _ => d.ty.load_lasts larger) (e.ret.ty.load_lasts larger)

/-- A registry extends itself, so both ways for an outcome to last say that a byte it refuses is unknown. -/
theorem unknown_of_load {e : StoredSignature}
    (refused : e.load r = .error (.storage (.unknownConvention code))) : r.ofCode? code = none := by
  have lasts : Lasts r r (e.load r) (e.load r) := e.load_lasts fun _ _ found => found
  rw [refused] at lasts
  cases lasts with
  | kept unknown => exact unknown code rfl
  | learnt unknown _ => exact unknown

end StoredSignature

/-- **Registering more changes no meaning.** After any further registrations, answered or refused, a stored
signature that was loaded is loaded as the same signature, and one that was refused is refused with the same
error, unless that was the byte of an unknown convention and the byte is known now. -/
theorem load_after_registrations (r : Registry) (names : List String) (e : StoredSignature) :
    let r' := r.after names
    (∀ s, e.load r = .ok s → e.load r' = .ok s) ∧
      (∀ error, e.load r = .error error → (∀ code, error ≠ .storage (.unknownConvention code)) →
        e.load r' = .error error) ∧
      ∀ code, e.load r = .error (.storage (.unknownConvention code)) →
        (e.load r' = .error (.storage (.unknownConvention code)) ↔ r'.ofCode? code = none) := by
  intro r'
  have larger : r.Extends r' := fun code c found => Registry.ofCode?_after found names
  have lasts : Lasts r r' (e.load r) (e.load r') := e.load_lasts larger
  refine ⟨?_, ?_, ?_⟩
  · intro s loaded
    rw [← loaded]
    refine lasts.eq fun code refused => ?_
    rw [loaded] at refused
    cases refused
  · intro error refused other
    rw [← refused]
    refine lasts.eq fun code refused' => ?_
    rw [refused] at refused'
    exact absurd (Except.error.inj refused') (other code)
  · intro code refused
    constructor
    · exact StoredSignature.unknown_of_load
    · intro unknown
      rw [← refused]
      refine lasts.eq fun code' refused' => ?_
      rw [refused] at refused'
      cases refused'
      exact unknown

/-- Behind a data pointer there is a handle whose convention is given by its byte, and before that a marker
may stand on a value. One more convention is registered. What was loaded is loaded as before. The marker is
still the first thing to be wrong, although the byte after it is known now. Of two unknown bytes the one that
is given to the new convention is refused no longer. -/
theorem load_before_and_after_vec :
    let r := Registry.empty.after ["Fast"]
    let r' := r.after ["Vec"]
    let call (modifiers : List Modifier) (code : UInt8) : StoredSignature :=
      ⟨0x10, [⟨.named "int", false, modifiers⟩, ⟨.ptr (.handle ⟨code, [], ⟨.void, false, []⟩⟩), false, []⟩],
        ⟨.void, false, []⟩⟩
    let fast := Convention.extension ⟨0x10, "Fast"⟩
    let s : Signature :=
      ⟨[⟨.con "int", .byValue⟩, ⟨.ptr (.handle ⟨[], ⟨.void, .byValue⟩, fast⟩), .byValue⟩],
        ⟨.void, .byValue⟩, fast⟩
    let marked := LoadError.storage (.markedValue (.parameter 0))
    let unknown (code : UInt8) := LoadError.storage (.unknownConvention code)
    (call [] 0x10).load r = .ok s ∧ (call [] 0x10).load r' = .ok s ∧
      (call [⟨.output, true⟩] 0x11).load r = .error marked ∧
      (call [⟨.output, true⟩] 0x11).load r' = .error marked ∧
      (call [] 0x12).load r = .error (unknown 0x12) ∧ (call [] 0x12).load r' = .error (unknown 0x12) ∧
      (call [] 0x11).load r = .error (unknown 0x11) ∧ (call [] 0x11).load r' ≠ .error (unknown 0x11) := by
  intro r r' call fast s marked unknown
  have loaded : (call [] 0x10).load r = .ok s := by decide +kernel
  have refused : (call [⟨.output, true⟩] 0x11).load r = .error marked := by decide +kernel
  have beyond : (call [] 0x12).load r = .error (unknown 0x12) := by decide +kernel
  have next : (call [] 0x11).load r = .error (unknown 0x11) := by decide +kernel
  have later (e : StoredSignature) := load_after_registrations r ["Vec"] e
  refine ⟨loaded, (later _).1 s loaded, refused, (later _).2.1 marked refused ?_, beyond,
    ((later _).2.2 0x12 beyond).mpr (by decide +kernel), next, ?_⟩
  · intro code same
    exact nomatch LoadError.storage.inj same
  · rw [ne_eq, (later _).2.2 0x11 next]
    decide +kernel

end CallHandle
