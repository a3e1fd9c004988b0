import CallHandle.Proofs.Selection

namespace CallHandle

variable {T : ClassTable} {strategy : Strategy} {g : Group} {target : Signature}

theorem two_le_length {α : Type} {xs : List α} {x y : α} (hx : x ∈ xs) (hy : y ∈ xs)
    (h : x ≠ y) : 2 ≤ xs.length := by
  by_contra few
  match xs with
  | [] => simp at hx
  | [z] => simp_all
  | _ :: _ :: _ => simp at few

namespace Group

/-- The applicable members that no applicable member is better than. -/
def unbeaten (T : ClassTable) (target : Signature) (g : Group) : List Candidate :=
  (g.applicable T target).filter (Candidate.undominated T target.params (g.applicable T target))

/-- The signatures are those of two or more static members of the group at different positions, all
of them applicable and none of them beaten. -/
def ListsRivals (T : ClassTable) (target : Signature) (g : Group) (sigs : List Signature) : Prop :=
  ∃ cs : List Candidate, 2 ≤ cs.length ∧ (cs.map Candidate.position).Nodup ∧
    (∀ c ∈ cs, c ∈ g.statics ∧ c.overload.applicable T target.params = true ∧
      ∀ d ∈ g.applicable T target, d.overload.better T target.params c.overload = false) ∧
    sigs = cs.map fun c => c.overload.signature

theorem mem_unbeaten {c : Candidate} :
    c ∈ g.unbeaten T target ↔ c ∈ g.applicable T target ∧
      ∀ d ∈ g.applicable T target, d.overload.better T target.params c.overload = false := by
  rw [unbeaten, List.mem_filter, Candidate.undominated_iff]

theorem nodup_unbeaten_positions (T : ClassTable) (target : Signature) (g : Group) :
    ((g.unbeaten T target).map Candidate.position).Nodup :=
  (g.nodup_applicable_positions T target).sublist (List.filter_sublist.map _)

theorem listsRivals_iff :
    g.ListsRivals T target ((g.unbeaten T target).map fun c => c.overload.signature) ↔
      2 ≤ (g.unbeaten T target).length := by
  constructor
  · rintro ⟨cs, two, -, -, same⟩
    have := congrArg List.length same
    simp only [List.length_map] at this
    omega
  · intro two
    refine ⟨g.unbeaten T target, two, g.nodup_unbeaten_positions T target, ?_, rfl⟩
    intro c hc
    obtain ⟨applicable, unbeaten⟩ := mem_unbeaten.mp hc
    obtain ⟨static, fits⟩ := mem_applicable.mp applicable
    exact ⟨static, fits, unbeaten⟩

/-- Someone else is not beaten by the member. -/
theorem beatsOthers_eq_false_iff {c : Candidate} :
    c.beatsOthers T target.params (g.applicable T target) = false ↔
      ∃ d ∈ g.applicable T target, d.position ≠ c.position ∧
        c.overload.better T target.params d.overload = false := by
  rw [← Bool.not_eq_true, Candidate.beatsOthers_iff]
  push Not
  simp only [Bool.not_eq_true]

theorem exists_unbeaten (free : HandleFree target.params) {c : Candidate}
    (hc : c ∈ g.applicable T target)
    (beaten : ∃ d ∈ g.applicable T target, d.overload.better T target.params c.overload = true) :
    ∃ d ∈ g.unbeaten T target, d.overload.better T target.params c.overload = true := by
  have reaches {d : Candidate} (hd : d ∈ g.applicable T target) :
      d.overload.applicable T target.params = true :=
    (mem_applicable.mp hd).2
  obtain ⟨d, hd, better, top⟩ := @exists_undominated Candidate
    (fun c d => c.overload.better T target.params d.overload) _
    (fun c _ => Overload.not_better_of_params rfl)
    (fun a ha b hb c hc => Overload.better_trans free (reaches ha) (reaches hb) (reaches hc))
    c hc beaten
  exact ⟨d, mem_unbeaten.mpr ⟨hd, top⟩, better⟩

/-- A single unbeaten member would beat all that are beaten, and so all others. -/
theorem two_unbeaten (free : HandleFree target.params) (reached : g.applicable T target ≠ [])
    (noWinner : ∀ c ∈ g.applicable T target,
      c.beatsOthers T target.params (g.applicable T target) = false) :
    2 ≤ (g.unbeaten T target).length := by
  have top {c : Candidate} (hc : c ∈ g.applicable T target) (beaten : c ∉ g.unbeaten T target) :
      ∃ d ∈ g.unbeaten T target, d.overload.better T target.params c.overload = true := by
    apply exists_unbeaten free hc
    by_contra unbeaten
    apply beaten
    refine mem_unbeaten.mpr ⟨hc, fun d hd => ?_⟩
    rw [Bool.eq_false_iff]
    exact fun h => unbeaten ⟨d, hd, h⟩
  obtain ⟨y, hy⟩ : ∃ y, y ∈ g.unbeaten T target := by
    obtain ⟨c, hc⟩ := List.exists_mem_of_ne_nil _ reached
    by_cases beaten : c ∈ g.unbeaten T target
    · exact ⟨c, beaten⟩
    · obtain ⟨d, hd, -⟩ := top hc beaten
      exact ⟨d, hd⟩
  obtain ⟨d, hd, other, notBeaten⟩ := beatsOthers_eq_false_iff.mp (noWinner y (mem_unbeaten.mp hy).1)
  by_cases beaten : d ∈ g.unbeaten T target
  · apply two_le_length hy beaten
    rintro rfl
    exact other rfl
  · obtain ⟨z, hz, better⟩ := top hd beaten
    apply two_le_length hy hz
    rintro rfl
    rw [notBeaten] at better
    cases better

/-- Of two applicable members neither is better when neither beats the other. -/
theorem two_unbeaten_of_pair (pair : (g.applicable T target).length = 2)
    (noWinner : ∀ c ∈ g.applicable T target,
      c.beatsOthers T target.params (g.applicable T target) = false) :
    2 ≤ (g.unbeaten T target).length := by
  have all : g.unbeaten T target = g.applicable T target := by
    rw [unbeaten, List.filter_eq_self]
    intro c hc
    rw [Candidate.undominated_iff]
    intro d hd
    obtain ⟨e, he, other, notBeaten⟩ := beatsOthers_eq_false_iff.mp (noWinner d hd)
    by_cases same : c = d
    · subst same
      exact Overload.not_better_of_params rfl
    · obtain ⟨a, b, h⟩ := List.length_eq_two.mp pair
      have : e = c := by grind
      rwa [this] at notBeaten
  rw [all]
  exact Nat.le_of_eq pair.symm

end Group

/-- **Ambiguous addresses.** A group's address for a handle type is reported ambiguous when two
members or more are applicable and each of them fails to beat some other one, and the report holds
the signatures of the unbeaten members. These are two or more rivals exactly when two members are
unbeaten, as they are when no value parameter of the target is a handle, and when no third member is
applicable. -/
theorem ambiguous_address (T : ClassTable) (strategy : Strategy) (g : Group) (target : Signature)
    (name : String) (sigs : List Signature) :
    (g.address T strategy (.handle target) = .error (.ambiguous name sigs) ↔
        name = g.name ∧ 2 ≤ (g.applicable T target).length ∧
          (∀ c ∈ g.applicable T target, ∃ d ∈ g.applicable T target, d.position ≠ c.position ∧
            c.overload.better T target.params d.overload = false) ∧
          sigs = (g.unbeaten T target).map fun c => c.overload.signature) ∧
      (g.address T strategy (.handle target) = .error (.ambiguous name sigs) →
        (g.ListsRivals T target sigs ↔ 2 ≤ (g.unbeaten T target).length) ∧
        (HandleFree target.params ∨ (g.applicable T target).length = 2 →
          g.ListsRivals T target sigs)) := by
  rw [Group.address_eq_ambiguous_iff, ← Group.unbeaten]
  constructor
  · refine and_congr_right fun _ => ?_
    simp only [Group.beatsOthers_eq_false_iff]
    constructor
    · rintro ⟨reached, noWinner, rfl⟩
      obtain ⟨c, hc⟩ := List.exists_mem_of_ne_nil _ reached
      obtain ⟨d, hd, other, -⟩ := noWinner c hc
      refine ⟨two_le_length hc hd ?_, noWinner, rfl⟩
      rintro rfl
      exact other rfl
    · rintro ⟨two, noWinner, rfl⟩
      refine ⟨?_, noWinner, rfl⟩
      intro h
      simp [h] at two
  · rintro ⟨-, reached, noWinner, rfl⟩
    refine ⟨Group.listsRivals_iff, fun h => Group.listsRivals_iff.mpr ?_⟩
    rcases h with free | pair
    · exact Group.two_unbeaten free reached noWinner
    · exact Group.two_unbeaten_of_pair pair noWinner

/-- Two members that each take one class more exactly are both listed, and an instance member that
would settle it is not. -/
theorem ambiguous_address_of_crossing :
    let T := ClassTable.standard.register "Dog" "object"
    let take (first second : String) : Signature :=
      ⟨[⟨.con first, .byValue⟩, ⟨.con second, .byValue⟩], ⟨.void, .byValue⟩, .managed⟩
    let g : Group := ⟨"pair", [⟨"pair", take "Dog" "object", true⟩,
      ⟨"pair", take "object" "Dog", true⟩, ⟨"pair", take "Dog" "Dog", false⟩]⟩
    let target := take "Dog" "Dog"
    let sigs := [take "Dog" "object", take "object" "Dog"]
    g.address T .managed (.handle target) = .error (.ambiguous "pair" sigs) ∧
      HandleFree target.params ∧ g.ListsRivals T target sigs := by
  intro T take g target sigs
  have ambiguous : g.address T .managed (.handle target) = .error (.ambiguous "pair" sigs) := by
    decide +kernel
  have free : HandleFree target.params := by
    intro arg harg
    simp only [target, take, List.mem_cons, List.not_mem_nil, or_false, or_self] at harg
    subst harg
    intro _ s
    simp
  exact ⟨ambiguous, free,
    ((ambiguous_address T .managed g target "pair" sigs).2 ambiguous).2 (.inl free)⟩

/-- Three members take the same three handles in turn, `x` narrower than `y`, and `z` neither wider
nor narrower than `x` or than `y`. Each is better than the next where it has `x` and the next has
`y`, and neither better nor worse elsewhere, so none is left unbeaten and none is listed. -/
theorem ambiguous_address_of_cycle :
    let T := (ClassTable.standard.register "C" "object").register "D" "C"
    let h (first second : String) : Ty :=
      .handle ⟨[⟨.con first, .byValue⟩, ⟨.con second, .byValue⟩], ⟨.void, .byValue⟩, .managed⟩
    let take (first second third : Ty) : Signature :=
      ⟨[⟨first, .byValue⟩, ⟨second, .byValue⟩, ⟨third, .byValue⟩], ⟨.void, .byValue⟩, .managed⟩
    let x := h "D" "C"
    let y := h "D" "object"
    let z := h "C" "D"
    let g : Group := ⟨"f", [⟨"f", take x z y, true⟩, ⟨"f", take y x z, true⟩,
      ⟨"f", take z y x, true⟩]⟩
    let target := take (h "D" "D") (h "D" "D") (h "D" "D")
    ¬∀ name sigs, g.address T .managed (.handle target) = .error (.ambiguous name sigs) →
      g.ListsRivals T target sigs := by
  intro T h take x y z g target rivals
  have reported : g.address T .managed (.handle target) = .error (.ambiguous "f" []) := by
    decide +kernel
  obtain ⟨cs, two, -, -, empty⟩ := rivals "f" [] reported
  rw [List.map_eq_nil_iff.mp empty.symm] at two
  cases two

end CallHandle
