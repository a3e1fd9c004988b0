import CallHandle.Proofs.Partners

namespace CallHandle

/-- The strategy looks at the name of a member and at nothing else. -/
def Strategy.ByName (strategy : Strategy) : Prop :=
  ∀ m n : Overload, m.name = n.name → strategy m = strategy n

theorem Strategy.byName_ofBeginnings (rules : List (String × Option Convention)) :
    (ofBeginnings rules).ByName := by
  intro m n same
  unfold ofBeginnings
  rw [same]

/-- The declarations agree in name, parameters and return, and may differ in the declared convention. -/
structure Overload.SameCall (m n : Overload) : Prop where
  name : m.name = n.name
  params : m.signature.params = n.signature.params
  ret : m.signature.ret = n.signature.ret

theorem Overload.SameCall.handle_eq {m n : Overload} (h : m.SameCall n) {strategy : Strategy}
    (byName : strategy.ByName) : m.handle strategy = n.handle strategy := by
  unfold Overload.handle
  rw [byName m n h.name]
  exact Signature.ext h.params h.ret rfl

namespace Group

variable {T : ClassTable} {strategy : Strategy} {g g' : Group} {c c' : Candidate}

/-- The candidates are the static members at one place when the instance members of either group are left
out, and agree as declarations. -/
def Abreast (g g' : Group) (c c' : Candidate) : Prop :=
  (∃ place : Nat, g.statics[place]? = some c ∧ g'.statics[place]? = some c') ∧
    c.overload.SameCall c'.overload

/-- Members of one group stand at different places. -/
theorem nodup_statics (g : Group) : g.statics.Nodup :=
  (g.nodup_positions.of_map _).filter _

/-- A position is a place among the static members, in either group. -/
theorem abreast_pairing (g g' : Group) : Candidate.Pairing (g.Abreast g') := by
  have place {h : Group} {c d : Candidate} {i j : Nat} (hc : h.statics[i]? = some c)
      (hd : h.statics[j]? = some d) : c.position = d.position ↔ i = j := by
    constructor
    · intro same
      have member := eq_of_position (List.mem_of_getElem? hc) (List.mem_of_getElem? hd) same
      rw [← member, ← hc] at hd
      exact (List.getElem?_inj (List.getElem?_eq_some_iff.mp hc).1 h.nodup_statics).mp hd.symm
    · rintro rfl
      rw [hc] at hd
      rw [Option.some.inj hd]
  constructor
  · exact fun h => h.2.params
  · rintro _ _ _ _ ⟨⟨i, hc, hc'⟩, -⟩ ⟨⟨j, hd, hd'⟩, -⟩
    exact (place hc hd).trans (place hc' hd').symm

/-- Going through the static members of both groups side by side. -/
theorem forall₂_abreast (alike : List.Forall₂ Overload.SameCall (g.members.filter Overload.isStatic)
    (g'.members.filter Overload.isStatic)) : List.Forall₂ (g.Abreast g') g.statics g'.statics := by
  rw [← map_overload_statics, ← map_overload_statics, List.forall₂_map_left_iff,
    List.forall₂_map_right_iff] at alike
  rw [List.forall₂_iff_get] at alike ⊢
  obtain ⟨count, same⟩ := alike
  refine ⟨count, fun i hi hi' => ⟨⟨i, ?_, ?_⟩, same i hi hi'⟩⟩
  · exact List.getElem?_eq_getElem hi
  · exact List.getElem?_eq_getElem hi'

theorem paired_of_forall₂ {R : Candidate → Candidate → Prop} {cs cs' : List Candidate}
    (h : List.Forall₂ R cs cs') : Candidate.Paired R cs cs' := by
  constructor
  · intro c hc
    obtain ⟨i, hi⟩ := List.getElem?_of_mem hc
    obtain ⟨c', hc', partners⟩ := forall₂_getElem? h hi
    exact ⟨c', List.mem_of_getElem? hc', partners⟩
  · intro c' hc'
    obtain ⟨i, hi⟩ := List.getElem?_of_mem hc'
    obtain ⟨c, hc, partners⟩ := forall₂_getElem? h.flip hi
    exact ⟨c, List.mem_of_getElem? hc, partners⟩

/-- The unbeaten members of both groups are abreast in the order in which they are declared. -/
theorem forall₂_unbeaten (alike : List.Forall₂ (g.Abreast g') g.statics g'.statics)
    (target : Signature) :
    List.Forall₂ (g.Abreast g') (g.unbeaten T target) (g'.unbeaten T target) := by
  have pairing := g.abreast_pairing g'
  have applicable : List.Forall₂ (g.Abreast g') (g.applicable T target) (g'.applicable T target) :=
    List.rel_filter (fun _ _ h => Bool.eq_iff_iff.mp (pairing.applicable_eq h)) alike
  have paired := paired_of_forall₂ applicable
  exact List.rel_filter (fun _ _ h => Bool.eq_iff_iff.mp (paired.undominated_eq pairing h)) applicable

theorem onlyStatic_eq_noTarget_iff {name : String} {count : Nat} :
    g.onlyStatic = .error (.noTarget name count) ↔
      name = g.name ∧ count = (g.members.filter Overload.isStatic).length ∧ 2 ≤ count := by
  rw [← map_overload_statics, List.length_map]
  unfold onlyStatic
  match g.statics with
  | [] => simp; omega
  | [c] => simp; omega
  | c :: d :: cs =>
    simp only [Except.error.injEq, AddressError.noTarget.injEq, List.length_cons]
    constructor
    · rintro ⟨rfl, rfl⟩
      exact ⟨rfl, rfl, by omega⟩
    · rintro ⟨rfl, rfl, -⟩
      exact ⟨rfl, rfl⟩

/-- The target is a handle, or else the only static member is taken, under its own handle type. -/
theorem address_cases (T : ClassTable) (strategy : Strategy) (g : Group) (target : AddressTarget) :
    (∃ t, target = .handle t) ∨ (∀ t, target ≠ .handle t) ∧
      ∃ conversion, g.address T strategy target =
        g.onlyStatic.map fun c => ⟨c, c.overload.handle strategy, conversion⟩ := by
  cases target with
  | handle t => exact .inl ⟨t, rfl⟩
  | untyped =>
    refine .inr ⟨by simp, .handleToUntyped, ?_⟩
    unfold address
    cases g.onlyStatic <;> rfl
  | unconstrained =>
    refine .inr ⟨by simp, .identity, ?_⟩
    unfold address
    cases g.onlyStatic <;> rfl

theorem address_eq_noTarget_iff {target : AddressTarget} {name : String} {count : Nat} :
    g.address T strategy target = .error (.noTarget name count) ↔
      (∀ t, target ≠ .handle t) ∧ g.onlyStatic = .error (.noTarget name count) := by
  rcases g.address_cases T strategy target with ⟨t, rfl⟩ | ⟨handleless, conversion, address⟩
  · have typed : ¬∀ u, AddressTarget.handle t ≠ .handle u := fun handleless => handleless t rfl
    simp only [typed, false_and, iff_false]
    intro refused
    rcases address_eq_error_iff.mp refused with selection | ⟨_, _, _, _, same⟩
    · rcases select_eq_error_cases selection with same | same <;> cases same
    · cases same
  · rw [address]
    cases g.onlyStatic <;> simp [Except.map, handleless]

/-- An address is that of a static member of the group. -/
theorem mem_statics_of_address {target : AddressTarget} {a : Address}
    (h : g.address T strategy target = .ok a) : a.candidate ∈ g.statics := by
  rcases g.address_cases T strategy target with ⟨t, rfl⟩ | ⟨-, conversion, address⟩
  · exact (mem_applicable.mp (select_eq_ok_iff.mp (address_eq_ok_iff.mp h).1).1).1
  · rw [address] at h
    unfold onlyStatic at h
    match hs : g.statics with
    | [] | _ :: _ :: _ => simp [hs, Except.map] at h
    | [c] =>
      simp only [hs, Except.map, Except.ok.injEq] at h
      simp [← h]

end Group

/-- **Binding sees static members alone.** Under a strategy that looks at names, two groups of one name
whose static members agree one by one in name, parameters and return have addresses that agree, whatever
instance members stand between them and whatever conventions are declared: of the static members at one
place, as one handle with one conversion, or refused alike, where only the declared conventions of the
rivals listed can differ. An address is always that of a static member, and the members counted where
several could be meant are the static ones. -/
theorem address_of_statics (T : ClassTable) (strategy : Strategy) (byName : strategy.ByName)
    (g g' : Group) (names : g.name = g'.name)
    (alike : List.Forall₂ Overload.SameCall (g.members.filter Overload.isStatic)
      (g'.members.filter Overload.isStatic)) (target : AddressTarget) :
    AddressesAgree (g.Abreast g') (List.Forall₂ (g.Abreast g')) (g.address T strategy target)
        (g'.address T strategy target) ∧
      (∀ a, g.address T strategy target = .ok a →
        g.members[a.candidate.position]? = some a.candidate.overload ∧
          a.candidate.overload.isStatic = true) ∧
      ∀ name count, g.address T strategy target = .error (.noTarget name count) ↔
        (∀ t, target ≠ .handle t) ∧ name = g.name ∧
          count = (g.members.filter Overload.isStatic).length ∧ 2 ≤ count := by
  have abreast := Group.forall₂_abreast alike
  refine ⟨?_, ?_, ?_⟩
  · apply Group.addresses_agree names (g.abreast_pairing g') (Group.paired_of_forall₂ abreast)
      abreast.length_eq
    · exact fun partners => partners.2.handle_eq byName
    · exact Group.forall₂_unbeaten abreast
  · intro a taken
    obtain ⟨member, static⟩ := Group.mem_statics.mp (Group.mem_statics_of_address taken)
    exact ⟨Group.mem_candidates.mp member, static⟩
  · intro name count
    rw [Group.address_eq_noTarget_iff, Group.onlyStatic_eq_noTarget_iff]

/-- The second group has an instance member before each static one, the first of them with the very
parameters that are wanted, and other conventions are declared. The member bound is the one at the same
place among the static members, and without a target both of these are counted and the others are not. -/
theorem address_past_instance_members :
    let T := ClassTable.standard.register "Dog" "object"
    let take (first second : String) (convention : Convention) : Signature :=
      ⟨[⟨.con first, .byValue⟩, ⟨.con second, .byValue⟩], ⟨.void, .byValue⟩, convention⟩
    let g : Group := ⟨"pair", [⟨"pair", take "Dog" "object" .managed, true⟩,
      ⟨"pair", take "object" "object" .cdecl, true⟩]⟩
    let g' : Group := ⟨"pair", [⟨"pair", take "Dog" "Dog" .cdecl, false⟩,
      ⟨"pair", take "Dog" "object" .stdcall, true⟩, ⟨"pair", take "object" "Dog" .managed, false⟩,
      ⟨"pair", take "object" "object" .thiscall, true⟩]⟩
    let strategy := Strategy.ofBeginnings [("p", some .cdecl)]
    let target := AddressTarget.handle (take "Dog" "object" .cdecl)
    let handle := take "Dog" "object" .cdecl
    strategy.ByName ∧
      List.Forall₂ Overload.SameCall (g.members.filter Overload.isStatic)
        (g'.members.filter Overload.isStatic) ∧
      g.address T strategy target =
        .ok ⟨⟨0, ⟨"pair", take "Dog" "object" .managed, true⟩⟩, handle, .identity⟩ ∧
      g'.address T strategy target =
        .ok ⟨⟨1, ⟨"pair", take "Dog" "object" .stdcall, true⟩⟩, handle, .identity⟩ ∧
      AddressesAgree (g.Abreast g') (List.Forall₂ (g.Abreast g')) (g.address T strategy target)
        (g'.address T strategy target) ∧
      g'.address T strategy .unconstrained = .error (.noTarget "pair" 2) := by
  intro T take g g' strategy target handle
  have byName : strategy.ByName := Strategy.byName_ofBeginnings _
  have alike : List.Forall₂ Overload.SameCall (g.members.filter Overload.isStatic)
      (g'.members.filter Overload.isStatic) :=
    .cons ⟨rfl, rfl, rfl⟩ (.cons ⟨rfl, rfl, rfl⟩ .nil)
  have back : List.Forall₂ Overload.SameCall (g'.members.filter Overload.isStatic)
      (g.members.filter Overload.isStatic) :=
    .cons ⟨rfl, rfl, rfl⟩ (.cons ⟨rfl, rfl, rfl⟩ .nil)
  refine ⟨byName, alike, by decide +kernel, by decide +kernel,
    (address_of_statics T strategy byName g g' rfl alike target).1, ?_⟩
  exact ((address_of_statics T strategy byName g' g rfl back .unconstrained).2.2 "pair" 2).mpr
    ⟨by simp, rfl, rfl, Nat.le_refl 2⟩

end CallHandle
