import CallHandle.Proofs.Ambiguity
import CallHandle.Proofs.ExactAddress
import CallHandle.Proofs.FirstMismatch

namespace CallHandle

namespace Group

variable {T : ClassTable} {strategy : Strategy} {g : Group} {target : Signature} {c : Candidate}

/-- The static members that have the target's parameters, types and modes alike, in order. -/
def exactMembers (target : Signature) (g : Group) : List Candidate :=
  g.statics.filter fun c => c.overload.signature.params == target.params

theorem mem_exactMembers : c ∈ g.exactMembers target ↔
    c ∈ g.statics ∧ c.overload.signature.params = target.params := by
  simp [exactMembers]

theorem nodup_exactMembers_positions (target : Signature) (g : Group) :
    ((g.exactMembers target).map Candidate.position).Nodup :=
  g.nodup_positions.sublist ((List.filter_sublist.trans List.filter_sublist).map _)

/-- No applicable member is better than an exact one. -/
theorem not_better_of_exact {d : Candidate} (hc : c ∈ g.exactMembers target)
    (hd : d ∈ g.applicable T target) :
    d.overload.better T target.params c.overload = false := by
  have exact := (mem_exactMembers.mp hc).2
  by_cases hexact : d.overload.signature.params = target.params
  · exact Overload.not_better_of_params (hexact.trans exact.symm)
  · exact Overload.better_asymm
      (Overload.better_of_exact exact (mem_applicable.mp hd).2 hexact)

/-- An exact member leaves no other kind of member unbeaten. -/
theorem unbeaten_eq_exactMembers (nonempty : g.exactMembers target ≠ []) :
    g.unbeaten T target = g.exactMembers target := by
  obtain ⟨e, he⟩ := List.exists_mem_of_ne_nil _ nonempty
  obtain ⟨hstatic, hexact⟩ := mem_exactMembers.mp he
  show (g.statics.filter fun c => c.overload.applicable T target.params).filter
    (Candidate.undominated T target.params (g.applicable T target)) = g.exactMembers target
  -- Both sides keep some of the static members, so it is one test against the other.
  rw [List.filter_filter]
  apply List.filter_congr
  intro c hc
  rw [Bool.eq_iff_iff, Bool.and_eq_true, Candidate.undominated_iff, beq_iff_eq]
  constructor
  · rintro ⟨unbeaten, reached⟩
    by_contra wider
    have beaten := unbeaten e (mem_applicable_of_exact hstatic hexact)
    rw [Overload.better_of_exact hexact reached wider] at beaten
    cases beaten
  · intro exact
    exact ⟨fun d hd => not_better_of_exact (mem_exactMembers.mpr ⟨hc, exact⟩) hd,
      Overload.applicable_of_exact exact⟩

theorem exists_elsewhere {cs : List Candidate} (positions : (cs.map Candidate.position).Nodup)
    (several : 2 ≤ cs.length) (position : Nat) : ∃ d ∈ cs, d.position ≠ position := by
  match cs with
  | [] | [_] => simp at several
  | d :: e :: _ =>
    have apart : d.position ≠ e.position := by
      rintro same
      simp [same] at positions
    by_cases here : d.position = position
    · exact ⟨e, by simp, fun there => apart (here.trans there.symm)⟩
    · exact ⟨d, by simp, here⟩

/-- Of several exact members each keeps all others from being selected. -/
theorem address_of_exact_rivals (several : 2 ≤ (g.exactMembers target).length) :
    g.address T strategy (.handle target) =
      .error (.ambiguous g.name ((g.exactMembers target).map fun c => c.overload.signature)) := by
  have nonempty : g.exactMembers target ≠ [] := by
    intro empty
    simp [empty] at several
  have reached {c : Candidate} (hc : c ∈ g.exactMembers target) : c ∈ g.applicable T target :=
    mem_applicable_of_exact (mem_exactMembers.mp hc).1 (mem_exactMembers.mp hc).2
  rw [address_eq_ambiguous_iff, ← unbeaten, unbeaten_eq_exactMembers nonempty]
  obtain ⟨e, he⟩ := List.exists_mem_of_ne_nil _ nonempty
  refine ⟨rfl, List.ne_nil_of_mem (reached he), ?_, rfl⟩
  -- Whatever member is looked at, an exact one at another position is not beaten by it.
  intro c hc
  obtain ⟨d, hd, other⟩ := exists_elsewhere (nodup_exactMembers_positions target g) several c.position
  exact beatsOthers_eq_false_iff.mpr ⟨d, reached hd, other, not_better_of_exact hd hc⟩

theorem onlyExact_of_exactMembers_eq (only : g.exactMembers target = [c]) : g.OnlyExact target c := by
  have member : c ∈ g.exactMembers target := by simp [only]
  obtain ⟨static, exact⟩ := mem_exactMembers.mp member
  refine ⟨static, exact, fun d hd hexact => ?_⟩
  have : d ∈ g.exactMembers target := mem_exactMembers.mpr ⟨hd, hexact⟩
  simpa [only] using this

/-- The handle of the only exact member has the target's parameters, so the return comes next. -/
theorem address_breaks_result (only : g.OnlyExact target c)
    (ret : target.ret.widens T c.overload.signature.ret = false) :
    g.address T strategy (.handle target) = .error (.mismatch g.name (c.overload.handle strategy)
      (.result c.overload.signature.ret target.ret)) := by
  have params : (c.overload.handle strategy).params = target.params := only.2.1
  rw [address_handle, select_onlyExact only]
  dsimp only
  rw [Signature.convert_breaks_result params ret]
  rfl

theorem address_breaks_convention (only : g.OnlyExact target c)
    (ret : target.ret.widens T c.overload.signature.ret = true)
    (differ : (c.overload.handle strategy).convention ≠ target.convention) :
    g.address T strategy (.handle target) = .error (.mismatch g.name (c.overload.handle strategy)
      (.convention (c.overload.handle strategy).convention target.convention)) := by
  have params : (c.overload.handle strategy).params = target.params := only.2.1
  rw [address_handle, select_onlyExact only]
  dsimp only
  rw [Signature.convert_breaks_convention params ret differ]

theorem address_of_onlyExact (only : g.OnlyExact target c)
    (ret : target.ret.widens T c.overload.signature.ret = true)
    (same : (c.overload.handle strategy).convention = target.convention) :
    ∃ conversion, g.address T strategy (.handle target) =
      .ok ⟨c, c.overload.handle strategy, conversion⟩ := by
  obtain ⟨⟨d, handle, conversion⟩, taken⟩ :=
    exists_address_of_onlyExact only (Overload.answers_iff.mpr ⟨ret, same⟩)
  obtain ⟨selected, natural, -⟩ := address_eq_ok_iff.mp taken
  dsimp only at selected natural
  rw [select_onlyExact only] at selected
  obtain rfl := Except.ok.inj selected
  exact ⟨conversion, natural ▸ taken⟩

end Group

/-- **Exact members decide.** Whatever the classes derive from and whatever else the group holds, two or
more static members with the target's parameters make the address ambiguous, and they are the ones
reported, in the order in which they are declared. A single one is selected, and then only its return can be
wrong or, where that passes, its convention. -/
theorem address_by_exact_members (T : ClassTable) (strategy : Strategy) (g : Group)
    (target : Signature) :
    (2 ≤ (g.exactMembers target).length →
        g.address T strategy (.handle target) =
          .error (.ambiguous g.name ((g.exactMembers target).map fun c => c.overload.signature))) ∧
      ∀ c, g.exactMembers target = [c] →
        g.select T target = .ok c ∧
          (target.ret.widens T c.overload.signature.ret = false →
            g.address T strategy (.handle target) = .error (.mismatch g.name
              (c.overload.handle strategy) (.result c.overload.signature.ret target.ret))) ∧
          (target.ret.widens T c.overload.signature.ret = true →
            (c.overload.handle strategy).convention ≠ target.convention →
            g.address T strategy (.handle target) = .error (.mismatch g.name
              (c.overload.handle strategy)
              (.convention (c.overload.handle strategy).convention target.convention))) ∧
          (target.ret.widens T c.overload.signature.ret = true →
            (c.overload.handle strategy).convention = target.convention →
            ∃ conversion, g.address T strategy (.handle target) =
              .ok ⟨c, c.overload.handle strategy, conversion⟩) := by
  refine ⟨Group.address_of_exact_rivals, ?_⟩
  intro c single
  have only := Group.onlyExact_of_exactMembers_eq single
  exact ⟨Group.select_onlyExact only, Group.address_breaks_result only,
    Group.address_breaks_convention only, Group.address_of_onlyExact only⟩

/-- `A` and `B` derive from each other, so the first member takes an `A` as well, and the second is an
instance member. With the other two the address is ambiguous between these. With the one that returns an
`object` alone the return is wrong, and with the one that returns an `A` the convention, unless the strategy
gives it. -/
theorem address_between_exact_members :
    let T := (ClassTable.standard.register "A" "B").register "B" "A"
    let visitor : Ty := .handle ⟨[⟨.con "A", .byValue⟩], ⟨.void, .byValue⟩, .managed⟩
    let walk (first ret : String) (c : Convention) : Signature :=
      ⟨[⟨.con first, .byValue⟩, ⟨visitor, .byIn⟩], ⟨.con ret, .byValue⟩, c⟩
    let group (more : List Overload) : Group := ⟨"walk",
      ⟨"walk", walk "B" "A" .stdcall, true⟩ :: ⟨"walk", walk "A" "A" .stdcall, false⟩ :: more⟩
    let objects : Overload := ⟨"walk", walk "A" "object" .cdecl, true⟩
    let letters : Overload := ⟨"walk", walk "A" "A" .thiscall, true⟩
    let target := walk "A" "A" .stdcall
    let named : Strategy := fun _ => some .stdcall
    ¬T.Acyclic ∧
      (group [objects, letters]).address T .managed (.handle target) =
        .error (.ambiguous "walk" [walk "A" "object" .cdecl, walk "A" "A" .thiscall]) ∧
      (group [objects]).address T .managed (.handle target) =
        .error (.mismatch "walk" (walk "A" "object" .managed)
          (.result ⟨.con "object", .byValue⟩ ⟨.con "A", .byValue⟩)) ∧
      (group [letters]).address T .managed (.handle target) =
        .error (.mismatch "walk" (walk "A" "A" .managed) (.convention .managed .stdcall)) ∧
      ∃ conversion, (group [letters]).address T named (.handle target) =
        .ok ⟨⟨2, letters⟩, target, conversion⟩ := by
  intro T visitor walk group objects letters target named
  have rivals : (group [objects, letters]).exactMembers target = [⟨2, objects⟩, ⟨3, letters⟩] := by
    decide +kernel
  have wrongReturn : (group [objects]).exactMembers target = [⟨2, objects⟩] := by decide +kernel
  have right : (group [letters]).exactMembers target = [⟨2, letters⟩] := by decide +kernel
  have ambiguous := (address_by_exact_members T .managed (group [objects, letters]) target).1
  rw [rivals] at ambiguous
  obtain ⟨-, result, -, -⟩ :=
    (address_by_exact_members T .managed (group [objects]) target).2 _ wrongReturn
  obtain ⟨-, -, convention, -⟩ :=
    (address_by_exact_members T .managed (group [letters]) target).2 _ right
  obtain ⟨-, -, -, taken⟩ :=
    (address_by_exact_members T named (group [letters]) target).2 _ right
  exact ⟨by decide +kernel, ambiguous (by decide), result (by decide +kernel),
    convention (by decide +kernel) (by decide +kernel), taken (by decide +kernel) rfl⟩

end CallHandle
