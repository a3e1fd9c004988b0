import CallHandle.AddressOf
import CallHandle.Proofs.ConversionOrder
import CallHandle.Proofs.Dominance
import Mathlib.Data.List.Nodup

namespace CallHandle

variable {T : ClassTable} {strategy : Strategy} {g : Group} {target : Signature}

namespace Group

/-! ## Members by position -/

theorem mem_candidates {c : Candidate} :
    c ∈ g.candidates ↔ g.members[c.position]? = some c.overload := by
  unfold candidates
  simp only [List.mem_map, Prod.exists, List.mem_zipIdx_iff_getElem?]
  constructor
  · rintro ⟨m, i, h, rfl⟩
    exact h
  · intro h
    exact ⟨c.overload, c.position, h, rfl⟩

theorem nodup_positions (g : Group) : (g.candidates.map Candidate.position).Nodup := by
  have : g.candidates.map Candidate.position = List.range' 0 g.members.length := by
    rw [← List.zipIdx_map_snd 0 g.members, candidates, List.map_map]
    rfl
  rw [this]
  exact List.nodup_range'

theorem mem_statics {c : Candidate} :
    c ∈ g.statics ↔ c ∈ g.candidates ∧ c.overload.isStatic = true := by
  simp [statics]

theorem mem_applicable {c : Candidate} :
    c ∈ g.applicable T target ↔
      c ∈ g.statics ∧ c.overload.applicable T target.params = true := by
  simp [applicable]

theorem applicable_sublist (T : ClassTable) (target : Signature) (g : Group) :
    (g.applicable T target).Sublist g.candidates :=
  List.filter_sublist.trans List.filter_sublist

theorem nodup_applicable_positions (T : ClassTable) (target : Signature) (g : Group) :
    ((g.applicable T target).map Candidate.position).Nodup :=
  g.nodup_positions.sublist ((g.applicable_sublist T target).map _)

/-- A position holds one member. -/
theorem eq_of_position {c d : Candidate} (hc : c ∈ g.statics) (hd : d ∈ g.statics)
    (h : c.position = d.position) : c = d :=
  List.inj_on_of_nodup_map g.nodup_positions (mem_statics.mp hc).1 (mem_statics.mp hd).1 h

/-! ## The answers -/

theorem select_eq_ok_iff {c : Candidate} :
    g.select T target = .ok c ↔
      c ∈ g.applicable T target ∧ c.beatsOthers T target.params (g.applicable T target) = true := by
  have identity : ∀ c ∈ g.applicable T target, ∀ d ∈ g.applicable T target,
      c.position = d.position → c = d := by
    intro c hc d hd
    exact eq_of_position (mem_applicable.mp hc).1 (mem_applicable.mp hd).1
  rw [← Best.among_eq_unique_iff identity]
  unfold select
  split <;> simp_all

theorem select_eq_ambiguous_iff {name : String} {sigs : List Signature} :
    g.select T target = .error (.ambiguous name sigs) ↔
      name = g.name ∧ ∃ cs, Best.among T target.params (g.applicable T target) = .ambiguous cs ∧
        sigs = cs.map fun c => c.overload.signature := by
  unfold select
  cases Best.among T target.params (g.applicable T target) <;> simp [eq_comm]

/-- The selected member's handle is converted, and its mismatch is the only further error. -/
theorem address_handle :
    g.address T strategy (.handle target) =
      match g.select T target with
      | .error e => .error e
      | .ok c =>
        match (c.overload.handle strategy).convert T target with
        | .ok conversion => .ok ⟨c, c.overload.handle strategy, conversion⟩
        | .error reason => .error (.mismatch g.name (c.overload.handle strategy) reason) := by
  simp only [address, addressAs]
  cases g.select T target <;> rfl

/-- No address is given where nothing is selected, for that reason, or where the selected member's handle
does not convert. -/
theorem address_eq_error_iff {e : AddressError} :
    g.address T strategy (.handle target) = .error e ↔
      g.select T target = .error e ∨
        ∃ c reason, g.select T target = .ok c ∧
          (c.overload.handle strategy).convert T target = .error reason ∧
          e = .mismatch g.name (c.overload.handle strategy) reason := by
  rw [address_handle]
  cases g.select T target with
  | error e' => simp
  | ok c =>
    cases hc : (c.overload.handle strategy).convert T target with
    | ok conversion => simp [hc]
    | error reason => simp [hc, eq_comm]

theorem address_eq_ok_iff {a : Address} :
    g.address T strategy (.handle target) = .ok a ↔
      g.select T target = .ok a.candidate ∧ a.handle = a.candidate.overload.handle strategy ∧
        a.handle.convert T target = .ok a.conversion := by
  rw [address_handle]
  cases g.select T target with
  | error e => simp
  | ok c =>
    dsimp only
    constructor
    · intro h
      cases hc : (c.overload.handle strategy).convert T target with
      | error reason =>
        rw [hc] at h
        cases h
      | ok conversion =>
        rw [hc] at h
        cases h
        exact ⟨rfl, rfl, hc⟩
    · obtain ⟨d, handle, conversion⟩ := a
      dsimp only
      rintro ⟨hd, rfl, hc⟩
      cases hd
      rw [hc]

/-- Ambiguity is reported when no member beats all others, with the members that none beats. -/
theorem address_eq_ambiguous_iff {name : String} {sigs : List Signature} :
    g.address T strategy (.handle target) = .error (.ambiguous name sigs) ↔
      name = g.name ∧ g.applicable T target ≠ [] ∧
        (∀ c ∈ g.applicable T target,
          c.beatsOthers T target.params (g.applicable T target) = false) ∧
        sigs = ((g.applicable T target).filter
          (Candidate.undominated T target.params (g.applicable T target))).map
            fun c => c.overload.signature := by
  have selected : g.address T strategy (.handle target) = .error (.ambiguous name sigs) ↔
      g.select T target = .error (.ambiguous name sigs) := by
    simp [address_eq_error_iff]
  rw [selected, select_eq_ambiguous_iff]
  simp only [Best.among_eq_ambiguous_iff]
  constructor
  · rintro ⟨rfl, _, ⟨reached, noWinner, rfl⟩, rfl⟩
    exact ⟨rfl, reached, noWinner, rfl⟩
  · rintro ⟨rfl, reached, noWinner, rfl⟩
    exact ⟨rfl, _, ⟨reached, noWinner, rfl⟩, rfl⟩

end Group

end CallHandle
