import CallHandle.Proofs.Ambiguity

/-! What the address of a group comes to depends on its static members only through their parameters, on
which of them are the same member, and on the handle that each would have. -/

namespace CallHandle

variable {T : ClassTable} {strategy : Strategy} {args : List Param} {g g' : Group}
  {R : Candidate → Candidate → Prop} {S : List Candidate → List Candidate → Prop}
  {entries entries' : List Candidate}

/-! ## Partners -/

/-- A way to pair the candidates of two groups: partners have the same parameters, and candidates are
one member in the first group when their partners are one in the second. -/
structure Candidate.Pairing (R : Candidate → Candidate → Prop) : Prop where
  params {c c' : Candidate} : R c c' → c.overload.signature.params = c'.overload.signature.params
  position {c c' d d' : Candidate} :
    R c c' → R d d' → (c.position = d.position ↔ c'.position = d'.position)

/-- Every entry of either list has a partner in the other. -/
structure Candidate.Paired (R : Candidate → Candidate → Prop) (entries entries' : List Candidate) :
    Prop where
  left : ∀ c ∈ entries, ∃ c' ∈ entries', R c c'
  right : ∀ c' ∈ entries', ∃ c ∈ entries, R c c'

/-- Which of two members is better is decided by their parameters. -/
theorem Overload.better_congr {l l' r r' : Overload} (hl : l.signature.params = l'.signature.params)
    (hr : r.signature.params = r'.signature.params) :
    l.better T args r = l'.better T args r' := by
  unfold Overload.better Overload.aligned
  rw [hl, hr]

namespace Candidate

theorem Pairing.applicable_eq (pairing : Pairing R) {c c' : Candidate} (h : R c c') :
    c.overload.applicable T args = c'.overload.applicable T args := by
  unfold Overload.applicable
  rw [pairing.params h]

theorem Paired.filter {p p' : Candidate → Bool} (h : Paired R entries entries')
    (same : ∀ {c c'}, R c c' → p c = p' c') :
    Paired R (entries.filter p) (entries'.filter p') := by
  constructor
  · intro c hc
    obtain ⟨member, kept⟩ := List.mem_filter.mp hc
    obtain ⟨c', member', partners⟩ := h.left c member
    exact ⟨c', List.mem_filter.mpr ⟨member', same partners ▸ kept⟩, partners⟩
  · intro c' hc'
    obtain ⟨member', kept⟩ := List.mem_filter.mp hc'
    obtain ⟨c, member, partners⟩ := h.right c' member'
    exact ⟨c, List.mem_filter.mpr ⟨member, same partners ▸ kept⟩, partners⟩

theorem Paired.nil_iff (h : Paired R entries entries') : entries = [] ↔ entries' = [] := by
  simp only [List.eq_nil_iff_forall_not_mem]
  constructor
  · intro absent c' hc'
    obtain ⟨c, hc, -⟩ := h.right c' hc'
    exact absent c hc
  · intro absent c hc
    obtain ⟨c', hc', -⟩ := h.left c hc
    exact absent c' hc'

theorem Paired.beatsOthers_eq (pairing : Pairing R) (h : Paired R entries entries')
    {c c' : Candidate} (hc : R c c') :
    c.beatsOthers T args entries = c'.beatsOthers T args entries' := by
  apply Bool.eq_iff_iff.mpr
  rw [beatsOthers_iff, beatsOthers_iff]
  constructor
  · intro beats d' hd' other
    obtain ⟨d, hd, partners⟩ := h.right d' hd'
    rw [← Overload.better_congr (pairing.params hc) (pairing.params partners)]
    exact beats d hd fun same => other ((pairing.position partners hc).mp same)
  · intro beats d hd other
    obtain ⟨d', hd', partners⟩ := h.left d hd
    rw [Overload.better_congr (pairing.params hc) (pairing.params partners)]
    exact beats d' hd' fun same => other ((pairing.position partners hc).mpr same)

theorem Paired.undominated_eq (pairing : Pairing R) (h : Paired R entries entries')
    {c c' : Candidate} (hc : R c c') :
    c.undominated T args entries = c'.undominated T args entries' := by
  apply Bool.eq_iff_iff.mpr
  rw [undominated_iff, undominated_iff]
  constructor
  · intro top d' hd'
    obtain ⟨d, hd, partners⟩ := h.right d' hd'
    rw [← Overload.better_congr (pairing.params partners) (pairing.params hc)]
    exact top d hd
  · intro top d hd
    obtain ⟨d', hd', partners⟩ := h.left d hd
    rw [Overload.better_congr (pairing.params partners) (pairing.params hc)]
    exact top d' hd'

end Candidate

/-! ## The answers -/

/-- Two answers that agree: the addresses of partners, as one handle with one conversion, or corresponding
rivals under one name, or one and the same other refusal. -/
inductive AddressesAgree (R : Candidate → Candidate → Prop)
    (S : List Candidate → List Candidate → Prop) :
    Except AddressError Address → Except AddressError Address → Prop
  | address {c c' : Candidate} (handle : Signature) (conversion : Conversion) (partners : R c c') :
      AddressesAgree R S (.ok ⟨c, handle, conversion⟩) (.ok ⟨c', handle, conversion⟩)
  | rivals {cs cs' : List Candidate} (name : String) (corresponding : S cs cs') :
      AddressesAgree R S (.error (.ambiguous name (cs.map fun c => c.overload.signature)))
        (.error (.ambiguous name (cs'.map fun c => c.overload.signature)))
  | refusal {error : AddressError} (other : ∀ name sigs, error ≠ .ambiguous name sigs) :
      AddressesAgree R S (.error error) (.error error)

namespace Group

/-- Without their positions the static candidates are the static members. -/
theorem map_overload_statics (g : Group) :
    g.statics.map Candidate.overload = g.members.filter Overload.isStatic := by
  have members : g.candidates.map Candidate.overload = g.members := by
    rw [candidates, List.map_map]
    exact List.zipIdx_map_fst 0 g.members
  rw [statics, ← members, List.filter_map]
  rfl

theorem select_eq_noCandidate_iff {target : Signature} :
    g.select T target = .error (.noCandidate g.name) ↔ g.applicable T target = [] := by
  have absent : Best.among T target.params (g.applicable T target) = .absent ↔
      g.applicable T target = [] := Best.among_eq_absent_iff
  rw [← absent]
  unfold select
  split <;> simp_all

/-- A member is selected, or there is none to select, or the unbeaten ones are reported. -/
theorem select_cases (T : ClassTable) (target : Signature) (g : Group) :
    (∃ c, g.select T target = .ok c) ∨ g.select T target = .error (.noCandidate g.name) ∨
      g.select T target = .error
        (.ambiguous g.name ((g.unbeaten T target).map fun c => c.overload.signature)) := by
  cases among : Best.among T target.params (g.applicable T target) with
  | unique c => exact .inl ⟨c, by rw [select, among]⟩
  | absent => exact .inr (.inl (by rw [select, among]))
  | ambiguous cs =>
    obtain ⟨-, -, rfl⟩ := Best.among_eq_ambiguous_iff.mp among
    exact .inr (.inr (by rw [select, among, unbeaten]))

/-- The selection refuses for these two reasons and no other. -/
theorem select_eq_error_cases {target : Signature} {e : AddressError}
    (refused : g.select T target = .error e) :
    e = .noCandidate g.name ∨
      e = .ambiguous g.name ((g.unbeaten T target).map fun c => c.overload.signature) := by
  rcases g.select_cases T target with ⟨c, selected⟩ | noMember | rivals
  · rw [selected] at refused
    cases refused
  · rw [noMember] at refused
    exact .inl (Except.error.inj refused).symm
  · rw [rivals] at refused
    exact .inr (Except.error.inj refused).symm

section Agreement

variable (names : g.name = g'.name) (pairing : Candidate.Pairing R)
  (statics : Candidate.Paired R g.statics g'.statics)

include statics in
theorem paired_applicable (pairing : Candidate.Pairing R) (target : Signature) :
    Candidate.Paired R (g.applicable T target) (g'.applicable T target) :=
  statics.filter pairing.applicable_eq

include statics in
theorem paired_unbeaten (pairing : Candidate.Pairing R) (target : Signature) :
    Candidate.Paired R (g.unbeaten T target) (g'.unbeaten T target) :=
  (paired_applicable statics pairing target).filter
    ((paired_applicable statics pairing target).undominated_eq pairing)

include names pairing statics in
/-- The member selected from the second group is the partner of the one selected from the first. -/
theorem select_agree (target : Signature) :
    (∃ c c', R c c' ∧ g.select T target = .ok c ∧ g'.select T target = .ok c') ∨
      (g.select T target = .error (.noCandidate g.name) ∧
        g'.select T target = .error (.noCandidate g.name)) ∨
      (g.select T target = .error
          (.ambiguous g.name ((g.unbeaten T target).map fun c => c.overload.signature)) ∧
        g'.select T target = .error
          (.ambiguous g.name ((g'.unbeaten T target).map fun c => c.overload.signature))) := by
  have applicable := paired_applicable (T := T) statics pairing target
  have noneIff : g.select T target = .error (.noCandidate g.name) ↔
      g'.select T target = .error (.noCandidate g'.name) := by
    rw [select_eq_noCandidate_iff, select_eq_noCandidate_iff, applicable.nil_iff]
  rcases g.select_cases T target with ⟨c, selected⟩ | noMember | rivals
  · obtain ⟨member, beats⟩ := select_eq_ok_iff.mp selected
    obtain ⟨c', member', partners⟩ := applicable.left c member
    rw [applicable.beatsOthers_eq pairing partners] at beats
    exact .inl ⟨c, c', partners, selected, select_eq_ok_iff.mpr ⟨member', beats⟩⟩
  · exact .inr (.inl ⟨noMember, names ▸ noneIff.mp noMember⟩)
  · refine .inr (.inr ⟨rivals, ?_⟩)
    rcases g'.select_cases T target with ⟨c', selected⟩ | noMember | rivals'
    · obtain ⟨member', beats⟩ := select_eq_ok_iff.mp selected
      obtain ⟨c, member, partners⟩ := applicable.right c' member'
      rw [← applicable.beatsOthers_eq pairing partners] at beats
      rw [select_eq_ok_iff.mpr ⟨member, beats⟩] at rivals
      cases rivals
    · rw [noneIff.mpr noMember] at rivals
      cases rivals
    · rw [names, rivals']

include names statics in
/-- The only static members are partners, and where there are several each group has as many. -/
theorem onlyStatic_agree (count : g.statics.length = g'.statics.length) :
    (∃ c c', R c c' ∧ g.onlyStatic = .ok c ∧ g'.onlyStatic = .ok c') ∨
      ∃ e, (∀ name sigs, e ≠ .ambiguous name sigs) ∧
        g.onlyStatic = .error e ∧ g'.onlyStatic = .error e := by
  unfold onlyStatic
  rw [← names]
  match hs : g.statics, hs' : g'.statics with
  | [], [] => exact .inr ⟨.noCandidate g.name, by simp, rfl, rfl⟩
  | [c], [c'] =>
    obtain ⟨d', hd', partners⟩ := statics.left c (by simp [hs])
    obtain rfl : d' = c' := by simpa [hs'] using hd'
    exact .inl ⟨c, d', partners, rfl, rfl⟩
  | c :: d :: cs, c' :: d' :: cs' =>
    rw [hs, hs'] at count
    refine .inr ⟨.noTarget g.name (c :: d :: cs).length, by simp, rfl, ?_⟩
    simp only [count]
  | [], _ :: _ | _ :: _, [] | [_], _ :: _ :: _ | _ :: _ :: _, [_] =>
    rw [hs, hs'] at count
    simp at count

include names pairing statics in
/-- Two groups whose static members are partners with equal handles have addresses that agree. -/
theorem addresses_agree (count : g.statics.length = g'.statics.length)
    (handles : ∀ {c c'}, R c c' → c.overload.handle strategy = c'.overload.handle strategy)
    (rivals : ∀ target, S (g.unbeaten T target) (g'.unbeaten T target)) (target : AddressTarget) :
    AddressesAgree R S (g.address T strategy target) (g'.address T strategy target) := by
  cases target with
  | handle target =>
    rw [address_handle, address_handle]
    rcases select_agree (T := T) names pairing statics target with
      ⟨c, c', partners, selected, selected'⟩ | ⟨refused, refused'⟩ | ⟨several, several'⟩
    · rw [selected, selected']
      dsimp only
      rw [← handles partners, ← names]
      cases (c.overload.handle strategy).convert T target with
      | ok conversion => exact .address _ conversion partners
      | error reason => exact .refusal (by simp)
    · rw [refused, refused']
      exact .refusal (by simp)
    · rw [several, several']
      exact .rivals g.name (rivals target)
  | untyped | unconstrained =>
    unfold address
    rcases onlyStatic_agree names statics count with
      ⟨c, c', partners, only, only'⟩ | ⟨e, other, refused, refused'⟩
    · rw [only, only']
      show AddressesAgree R S (.ok ⟨c, c.overload.handle strategy, _⟩)
        (.ok ⟨c', c'.overload.handle strategy, _⟩)
      rw [← handles partners]
      exact .address _ _ partners
    · rw [refused, refused']
      exact .refusal other

end Agreement

end Group

end CallHandle
