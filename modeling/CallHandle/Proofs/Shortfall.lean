import CallHandle.Proofs.FirstMismatch
import CallHandle.Proofs.StaticMembers

/-! The selection has compared the counts, the modes and the types of references, which are the same either
way. Only a value can be taken in one direction alone, and the selection looks at no return and no
convention. -/

namespace CallHandle

variable {T : ClassTable} {s t : Signature} {strategy : Strategy} {g : Group}

/-! ## A handle that takes the target's parameters -/

theorem FirstApart.rel_of_forall₂ {R S : Param → Param → Prop} {ps qs : List Param} {i : Nat}
    {p q : Param} (first : FirstApart R ps qs i p q) (h : List.Forall₂ S ps qs) : S p q := by
  obtain ⟨q', found, rel⟩ := forall₂_getElem? h first.source
  rw [first.target] at found
  rwa [Option.some.inj found]

/-- A reference that takes another has its type, and passes for it. -/
theorem Param.byValue_of_apart {p q : Param} (takes : q.widens T p = true)
    (apart : ¬p.TypePasses T q) :
    p.mode = .byValue ∧ q.mode = .byValue ∧ q.ty.widens T p.ty = true := by
  obtain ⟨mode, passes⟩ := Param.widens_iff.mp takes
  have value : q.mode = .byValue := by
    by_contra reference
    have byRef : q.mode.isByRef = true := by simp [ParamMode.isByRef, reference]
    have same : q.ty = p.ty := by simpa [Ty.Passes, byRef] using passes
    apply apart
    simp [Param.TypePasses, Ty.Passes, ← mode, byRef, same]
  refine ⟨mode ▸ value, value, ?_⟩
  simpa [Ty.Passes, value, ParamMode.isByRef] using passes

/-- What keeps a handle from the target although it takes the target's parameters: the first value that is
wider than the target's and does not go back, then the return, then the convention. -/
inductive Signature.FallsShort (T : ClassTable) (s t : Signature) : Mismatch → Prop where
  | type {i : Nat} {a b : Ty} (wider : b.widens T a = true)
      (first : FirstApart (Param.TypePasses T) s.params t.params i ⟨a, .byValue⟩ ⟨b, .byValue⟩) :
      FallsShort T s t (.type i a b)
  | result (types : List.Forall₂ (Param.TypePasses T) s.params t.params)
      (fails : ¬s.ReturnPasses T t) : FallsShort T s t (.result s.ret t.ret)
  | convention (types : List.Forall₂ (Param.TypePasses T) s.params t.params)
      (ret : s.ReturnPasses T t) (differ : s.convention ≠ t.convention) :
      FallsShort T s t (.convention s.convention t.convention)

theorem Signature.firstBroken_iff_fallsShort {reason : Mismatch}
    (takes : List.Forall₂ (fun q p : Param => q.widens T p = true) t.params s.params) :
    s.FirstBroken T t reason ↔ s.FallsShort T t reason := by
  have modes : List.Forall₂ Param.SameMode s.params t.params :=
    takes.flip.imp fun _ _ h => (Param.widens_iff.mp h).1.symm
  constructor
  · intro broken
    cases broken with
    | count differ => exact absurd modes.length_eq differ
    | mode _ first => exact absurd (first.rel_of_forall₂ modes) first.apart
    | @type i p q _ first =>
      have taken : q.widens T p = true := first.rel_of_forall₂ takes.flip
      obtain ⟨hp, hq, wider⟩ := Param.byValue_of_apart taken first.apart
      obtain ⟨a, m⟩ := p
      obtain ⟨b, n⟩ := q
      obtain rfl : m = .byValue := hp
      obtain rfl : n = .byValue := hq
      exact .type wider first
    | result _ types fails => exact .result types fails
    | convention _ types ret differ => exact .convention types ret differ
  · intro short
    cases short with
    | type _ first => exact .type modes first
    | result types fails => exact .result modes types fails
    | convention types ret differ => exact .convention modes types ret differ

/-! ## The refusals -/

namespace Group

theorem onlyStatic_ne_mismatch {name : String} {handle : Signature} {reason : Mismatch} :
    g.onlyStatic ≠ .error (.mismatch name handle reason) := by
  unfold onlyStatic
  split <;> simp

/-- A member is selected because its parameters take those of the target, so falling short of it is all that
can keep its handle from converting. -/
theorem convert_eq_error_iff_of_select {c : Candidate} {reason : Mismatch}
    (selected : g.select T t = .ok c) :
    (c.overload.handle strategy).convert T t = .error reason ↔
      (c.overload.handle strategy).FallsShort T t reason := by
  have applicable : c.overload.applicable T t.params = true :=
    (mem_applicable.mp (select_eq_ok_iff.mp selected).1).2
  have takes : List.Forall₂ (fun q p : Param => q.widens T p = true) t.params
      (c.overload.handle strategy).params := Overload.applicable_iff.mp applicable
  rw [Signature.convert_eq_error_iff, Signature.firstBroken_iff_fallsShort takes]

theorem address_eq_mismatch_iff {target : AddressTarget} {name : String} {handle : Signature}
    {reason : Mismatch} :
    g.address T strategy target = .error (.mismatch name handle reason) ↔
      name = g.name ∧ ∃ t c, target = .handle t ∧ g.select T t = .ok c ∧
        handle = c.overload.handle strategy ∧ handle.FallsShort T t reason := by
  rcases g.address_cases T strategy target with ⟨t, rfl⟩ | ⟨handleless, conversion, address⟩
  · rw [address_eq_error_iff]
    constructor
    · rintro (selection | ⟨c, r, selected, converted, same⟩)
      · rcases select_eq_error_cases selection with same | same <;> cases same
      · cases same
        have short := (convert_eq_error_iff_of_select selected).mp converted
        exact ⟨rfl, t, c, rfl, selected, rfl, short⟩
    · rintro ⟨rfl, _, c, same, selected, rfl, short⟩
      cases same
      have refused := (convert_eq_error_iff_of_select selected).mpr short
      exact .inr ⟨c, reason, selected, refused, rfl⟩
  · rw [address]
    constructor
    · intro refused
      cases only : g.onlyStatic with
      | ok c => simp [only, Except.map] at refused
      | error e =>
        rw [only] at refused
        cases refused
        exact absurd only onlyStatic_ne_mismatch
    · rintro ⟨-, t, -, rfl, -⟩
      exact absurd rfl (handleless t)

end Group

/-- **A selected member falls short in three ways.** An address is refused for a mismatch exactly when the
target is a handle for which a member is selected, and that member's handle, under the convention that
functions of its kind have, falls short of the target for the reason given. The member is static and
applicable. The reason is never a count, a mode or a missing cast, and where it is a type, both sides are
values there and the target's widens to the member's and not the other way round. -/
theorem address_falls_short (T : ClassTable) (strategy : Strategy) (g : Group) (target : AddressTarget)
    (name : String) (handle : Signature) (reason : Mismatch) :
    (g.address T strategy target = .error (.mismatch name handle reason) ↔
      name = g.name ∧ ∃ t c, target = .handle t ∧ g.select T t = .ok c ∧
        handle = c.overload.handle strategy ∧ handle.FallsShort T t reason) ∧
    (g.address T strategy target = .error (.mismatch name handle reason) →
      ∃ t c, target = .handle t ∧ c ∈ g.statics ∧ c.overload.applicable T t.params = true ∧
        handle = c.overload.signature.withConvention ((strategy c.overload).getD .managed) ∧
        (∀ m n, reason ≠ .parameterCount m n) ∧ (∀ i m n, reason ≠ .mode i m n) ∧
        (∀ u, reason ≠ .castRequired u) ∧
        ∀ i a b, reason = .type i a b →
          handle.params[i]? = some ⟨a, .byValue⟩ ∧ t.params[i]? = some ⟨b, .byValue⟩ ∧
            b.widens T a = true ∧ a.widens T b = false) := by
  refine ⟨Group.address_eq_mismatch_iff, fun refused => ?_⟩
  obtain ⟨-, t, c, rfl, selected, same, short⟩ := Group.address_eq_mismatch_iff.mp refused
  obtain ⟨static, applicable⟩ := Group.mem_applicable.mp (Group.select_eq_ok_iff.mp selected).1
  refine ⟨t, c, rfl, static, applicable, same, ?_⟩
  cases short with
  | result | convention => simp
  | @type i a b wider first =>
    refine ⟨by simp, by simp, by simp, ?_⟩
    rintro _ _ _ ⟨⟩
    have narrow : a.widens T b = false := by
      simpa [Param.TypePasses, Ty.Passes, ParamMode.isByRef] using first.apart
    exact ⟨first.source, first.target, wider, narrow⟩

/-- Of two static members that can be called with two dogs, the one that wants the first as a `Dog` is
selected. It takes any `object` as the second, which a `Dog` widens to and which does not widen to a `Dog`.
That is reported, although the conventions differ as well. The instance member has the target's parameters. -/
theorem address_of_wider_last :
    let T := ClassTable.standard.register "Dog" "object"
    let walk (first last : String) (convention : Convention) : Signature :=
      ⟨[⟨.con first, .byValue⟩, ⟨.con "int", .byRef⟩, ⟨.con last, .byValue⟩], ⟨.void, .byValue⟩,
        convention⟩
    let g : Group := ⟨"walk", [⟨"walk", walk "Dog" "Dog" .cdecl, false⟩,
      ⟨"walk", walk "object" "object" .managed, true⟩, ⟨"walk", walk "Dog" "object" .managed, true⟩]⟩
    let strategy := Strategy.ofBeginnings [("w", some .cdecl)]
    let target := walk "Dog" "Dog" .stdcall
    let reason := Mismatch.type 2 (.con "object") (.con "Dog")
    g.address T strategy (.handle target) =
        .error (.mismatch "walk" (walk "Dog" "object" .cdecl) reason) ∧
      ∃ c ∈ g.statics, c.overload.applicable T target.params = true ∧
        (walk "Dog" "object" .cdecl).params[2]? = some ⟨.con "object", .byValue⟩ ∧
        (Ty.con "Dog").widens T (.con "object") = true ∧
        (Ty.con "object").widens T (.con "Dog") = false := by
  intro T walk g strategy target reason
  have refused : g.address T strategy (.handle target) =
      .error (.mismatch "walk" (walk "Dog" "object" .cdecl) reason) := by decide +kernel
  obtain ⟨t, c, same, static, applicable, -, -, -, -, type⟩ :=
    (address_falls_short T strategy g (.handle target) "walk" (walk "Dog" "object" .cdecl) reason).2
      refused
  cases same
  obtain ⟨source, -, wider, narrow⟩ := type 2 _ _ rfl
  exact ⟨refused, c, static, applicable, source, wider, narrow⟩

end CallHandle
