import CallHandle.Proofs.Selection

/-! Applicability asks the target's parameters to widen to a member's, and the conversion of the member's
handle asks them to widen back. Without a cycle of classes only the target's own parameters do both. -/

namespace CallHandle

variable {T : ClassTable} {strategy : Strategy} {g : Group} {target : Signature} {c : Candidate}

/-- The static member at `c` has the target's parameters, types and modes alike, and no static
member at another position has them. -/
def Group.OnlyExact (g : Group) (target : Signature) (c : Candidate) : Prop :=
  c ∈ g.statics ∧ c.overload.signature.params = target.params ∧
    ∀ d ∈ g.statics, d.overload.signature.params = target.params → d = c

/-- The member returns what the target promises, and has the target's convention by itself. -/
def Overload.Answers (T : ClassTable) (strategy : Strategy) (target : Signature) (m : Overload) :
    Prop :=
  m.signature.ret.mode = target.ret.mode ∧
    (target.ret.mode ≠ .byValue → m.signature.ret.ty = target.ret.ty) ∧
    (target.ret.mode = .byValue → target.ret.ty.widens T m.signature.ret.ty = true) ∧
    (strategy m).getD .managed = target.convention

theorem Overload.answers_iff {m : Overload} :
    m.Answers T strategy target ↔
      target.ret.widens T m.signature.ret = true ∧
        (m.handle strategy).convention = target.convention := by
  have types : target.ret.ty.Passes T target.ret.mode.isByRef m.signature.ret.ty ↔
      (target.ret.mode ≠ .byValue → m.signature.ret.ty = target.ret.ty) ∧
        (target.ret.mode = .byValue → target.ret.ty.widens T m.signature.ret.ty = true) := by
    by_cases byValue : target.ret.mode = .byValue
    · simp [Ty.Passes, ReturnMode.isByRef, byValue]
    · simpa [Ty.Passes, ReturnMode.isByRef, byValue] using eq_comm
  rw [Return.widens_iff, types]
  simp only [Overload.Answers, Overload.handle, Signature.withConvention, and_assoc]
  rw [eq_comm (a := m.signature.ret.mode)]

/-- Whatever a member widens to besides, its handle converts to the target when its parameters are
the target's and it answers to the rest. -/
theorem Overload.handle_widens_iff {m : Overload} :
    (m.handle strategy).widens T target = true ↔
      List.Forall₂ (fun p q => p.widens T q = true) m.signature.params target.params ∧
        m.Answers T strategy target := by
  rw [Signature.widens_iff, Overload.answers_iff]
  rfl

namespace Group

theorem mem_applicable_of_exact (hc : c ∈ g.statics)
    (h : c.overload.signature.params = target.params) : c ∈ g.applicable T target :=
  mem_applicable.mpr ⟨hc, Overload.applicable_of_exact h⟩

/-- The exact member beats every applicable member, since none has the same parameters. -/
theorem select_onlyExact (h : g.OnlyExact target c) : g.select T target = .ok c := by
  obtain ⟨hc, exact, only⟩ := h
  refine select_eq_ok_iff.mpr ⟨mem_applicable_of_exact hc exact, ?_⟩
  rw [Candidate.beatsOthers_iff]
  intro d hd other
  obtain ⟨hs, applicable⟩ := mem_applicable.mp hd
  apply Overload.better_of_exact exact applicable
  intro hd
  exact other (by rw [only d hs hd])

/-- The selected member has no rival with its own parameters. -/
theorem onlyExact_of_select (h : g.select T target = .ok c)
    (exact : c.overload.signature.params = target.params) : g.OnlyExact target c := by
  obtain ⟨hc, beats⟩ := select_eq_ok_iff.mp h
  refine ⟨(mem_applicable.mp hc).1, exact, ?_⟩
  intro d hd hexact
  by_cases same : d.position = c.position
  · exact eq_of_position hd (mem_applicable.mp hc).1 same
  · have better := Candidate.beatsOthers_iff.mp beats d (mem_applicable_of_exact hd hexact) same
    rw [Overload.not_better_of_params (exact.trans hexact.symm)] at better
    cases better

/-- The parameters of a bound member widen both ways, from the target's by applicability and to them
by the conversion of its handle, so they are the target's. -/
theorem onlyExact_of_address (hT : T.Acyclic) {a : Address}
    (h : g.address T strategy (.handle target) = .ok a) :
    g.OnlyExact target a.candidate ∧ a.candidate.overload.Answers T strategy target := by
  obtain ⟨selected, handle, converts⟩ := address_eq_ok_iff.mp h
  have applicable := (mem_applicable.mp (select_eq_ok_iff.mp selected).1).2
  have widens : (a.candidate.overload.handle strategy).widens T target = true := by
    rw [← Signature.isOk_convert, ← handle, converts]
    rfl
  obtain ⟨params, answers⟩ := Overload.handle_widens_iff.mp widens
  have exact := eq_of_forall₂ (fun _ _ _ => Param.widens_antisymm hT) params
    (List.Forall₂.flip (Overload.applicable_iff.mp applicable))
  exact ⟨onlyExact_of_select selected exact, answers⟩

theorem exists_address_of_onlyExact (only : g.OnlyExact target c)
    (answers : c.overload.Answers T strategy target) :
    ∃ a, g.address T strategy (.handle target) = .ok a := by
  have params : List.Forall₂ (fun p q => p.widens T q = true) c.overload.signature.params
      target.params := by
    rw [only.2.1]
    exact List.forall₂_same.mpr fun p _ => p.widens_refl T
  have converts : ((c.overload.handle strategy).convert T target).isOk = true := by
    rw [Signature.isOk_convert]
    exact Overload.handle_widens_iff.mpr ⟨params, answers⟩
  cases hc : (c.overload.handle strategy).convert T target with
  | error reason => simp [hc, Except.isOk, Except.toBool] at converts
  | ok conversion =>
    exact ⟨⟨c, _, conversion⟩, address_eq_ok_iff.mpr ⟨select_onlyExact only, rfl, hc⟩⟩

end Group

/-- **The address of the exact member.** Without a cycle of classes a group has an address for a
handle type exactly when one static member has its parameters, and that member's return and natural
convention answer to it. The address is then that member's, under its natural convention, with the
conversion from there to the handle type; a member whose parameters merely widen is never taken. -/
theorem address_iff_exact (T : ClassTable) (hT : T.Acyclic) (strategy : Strategy) (g : Group)
    (target : Signature) :
    ((∃ a, g.address T strategy (.handle target) = .ok a) ↔
        ∃ c, g.OnlyExact target c ∧ c.overload.Answers T strategy target) ∧
      ∀ a, g.address T strategy (.handle target) = .ok a →
        g.OnlyExact target a.candidate ∧ a.candidate.overload.Answers T strategy target ∧
          a.handle = a.candidate.overload.signature.withConvention
            ((strategy a.candidate.overload).getD .managed) ∧
          a.handle.convert T target = .ok a.conversion ∧
          ∀ d ∈ g.statics, d.overload.signature.params ≠ target.params →
            d.position ≠ a.candidate.position := by
  constructor
  · constructor
    · rintro ⟨a, h⟩
      exact ⟨a.candidate, Group.onlyExact_of_address hT h⟩
    · rintro ⟨c, only, answers⟩
      exact Group.exists_address_of_onlyExact only answers
  · intro a h
    obtain ⟨only, answers⟩ := Group.onlyExact_of_address hT h
    obtain ⟨-, handle, converts⟩ := Group.address_eq_ok_iff.mp h
    refine ⟨only, answers, handle, converts, ?_⟩
    intro d hd wider same
    rw [Group.eq_of_position hd only.1 same] at wider
    exact wider only.2.1

/-- A `Dog` widens to the parameter of every static member here, and of these the first takes it as
an `Animal`. The handle types in the second place differ one level down. The member that is bound is
the third, past an instance member that has its very signature. -/
theorem address_of_exact_member :
    let T := (ClassTable.standard.register "Animal" "object").register "Dog" "Animal"
    let visitor (name : String) : Ty :=
      .handle ⟨[⟨.con name, .byValue⟩], ⟨.void, .byValue⟩, .managed⟩
    let signature (first second result : String) : Signature :=
      ⟨[⟨.con first, .byValue⟩, ⟨visitor second, .byValue⟩], ⟨.con result, .byValue⟩, .managed⟩
    let target := (signature "Dog" "Dog" "Dog").withConvention .cdecl
    let g : Group := ⟨"walk",
      [⟨"walk", signature "Animal" "Dog" "Dog", true⟩,
        ⟨"walk", signature "Dog" "Dog" "object", false⟩,
        ⟨"walk", signature "Dog" "Dog" "object", true⟩,
        ⟨"walk", signature "Dog" "Animal" "Dog", true⟩]⟩
    let strategy := Strategy.ofBeginnings [("w", some .cdecl)]
    T.Acyclic ∧ (∀ c ∈ g.statics, c.overload.applicable T target.params = true) ∧
      ∃ a, g.address T strategy (.handle target) = .ok a ∧ a.candidate.position = 2 ∧
        g.OnlyExact target a.candidate := by
  intro T visitor signature target g strategy
  have acyclic : T.Acyclic := by decide +kernel
  obtain ⟨iff, bound⟩ := address_iff_exact T acyclic strategy g target
  have only : g.OnlyExact target ⟨2, ⟨"walk", signature "Dog" "Dog" "object", true⟩⟩ := by
    unfold Group.OnlyExact
    decide +kernel
  have answers : Overload.Answers T strategy target
      ⟨"walk", signature "Dog" "Dog" "object", true⟩ := by
    unfold Overload.Answers
    decide +kernel
  obtain ⟨a, h⟩ := iff.mpr ⟨_, only, answers⟩
  refine ⟨acyclic, by decide +kernel, a, h, ?_, (bound a h).1⟩
  rw [← (bound a h).1.2.2 _ only.1 only.2.1]

end CallHandle
