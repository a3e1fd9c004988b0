import CallHandle.Proofs.Dominance

namespace CallHandle

variable {T : ClassTable} {args : List Param}

/-- The candidate is an entry, and better than every entry at another position. -/
def Candidate.Wins (T : ClassTable) (args : List Param) (entries : List Candidate) (c : Candidate) :
    Prop :=
  c ∈ entries ∧ ∀ d ∈ entries, d.position ≠ c.position → c.overload.better T args d.overload = true

theorem Candidate.wins_iff {entries : List Candidate} {c : Candidate} :
    c.Wins T args entries ↔ c ∈ entries ∧ c.beatsOthers T args entries = true := by
  rw [Candidate.Wins, Candidate.beatsOthers_iff]

theorem Candidate.Wins.eq {entries : List Candidate} {c d : Candidate}
    (identity : c.position = d.position → c = d) (hc : c.Wins T args entries)
    (hd : d.Wins T args entries) : c = d := by
  rw [Candidate.wins_iff] at hc hd
  exact Candidate.eq_of_beatsOthers identity hc.1 hd.1 hc.2 hd.2

/-- **Better conversions are strictly ordered, and a best member is the only one.** For every table, cyclic or
not, and every argument, no type is better than itself, no two are better than each other, what is better than
a better type is better, and the argument's own type is better than every other. No member is better than
itself either, and no two are better than each other. So for every list that refers to declarations, to some
perhaps repeatedly, the tie-break answers with a member exactly when it is listed and better than every other
declaration that is listed, and there is at most one such member. -/
theorem best_of_strict_preference (T : ClassTable) (arg : Ty) (args : List Param)
    (declaration : Nat → Overload) (listed : List Nat) :
    let entries : List Candidate := listed.map fun position => ⟨position, declaration position⟩
    (∀ t, Overload.betterType T arg t t = false) ∧
      (∀ l r, Overload.betterType T arg l r = true → Overload.betterType T arg r l = false) ∧
      (∀ l m r, Overload.betterType T arg l m = true → Overload.betterType T arg m r = true →
        Overload.betterType T arg l r = true) ∧
      (∀ t, t ≠ arg → Overload.betterType T arg arg t = true) ∧
      (∀ m : Overload, m.better T args m = false) ∧
      (∀ l r : Overload, l.better T args r = true → r.better T args l = false) ∧
      (∀ w, Best.among T args entries = .unique w ↔ w.Wins T args entries) ∧
      ∀ v w : Candidate, v.Wins T args entries → w.Wins T args entries → v = w := by
  intro entries
  have identity : ∀ c ∈ entries, ∀ d ∈ entries, c.position = d.position → c = d := by
    intro c hc d hd same
    obtain ⟨i, -, rfl⟩ := List.mem_map.mp hc
    obtain ⟨j, -, rfl⟩ := List.mem_map.mp hd
    obtain rfl : i = j := same
    rfl
  refine ⟨?_, ?_, ?_, ?_, ?_, ?_, ?_, ?_⟩
  · intro t
    exact Overload.betterType_self
  · intro l r
    exact Overload.betterType_asymm
  · intro l m r
    exact Overload.betterType_trans
  · intro t
    exact Overload.betterType_own
  · intro m
    exact Overload.not_better_of_params rfl
  · intro l r
    exact Overload.better_asymm
  · intro w
    rw [Best.among_eq_unique_iff identity, Candidate.wins_iff]
  · intro v w hv hw
    exact hv.eq (identity v hv.1 w hw.1) hw

/-- Puppies and dogs lie on one line and `Yin` and `Yang` on a cycle. For a visitor of puppies a visitor of dogs
is better than one of animals, which is better than `void*`, and of the visitors on the cycle neither is. The
list refers to one member twice, and the member of dogs wins. -/
theorem best_visitor_beside_a_cycle :
    let T := ClassTable.standard.declare
      [("Puppy", "Dog"), ("Dog", "Animal"), ("Yin", "Yang"), ("Yang", "Yin")]
    let visitor (name : String) : Ty := .handle ⟨[⟨.con name, .byValue⟩], ⟨.void, .byValue⟩, .cdecl⟩
    let member (visited : Ty) (second : String) : Overload :=
      ⟨"walk", ⟨[⟨visited, .byValue⟩, ⟨.con second, .byValue⟩], ⟨.void, .byValue⟩, .managed⟩, true⟩
    let args : List Param := [⟨visitor "Puppy", .byValue⟩, ⟨.con "Dog", .byValue⟩]
    let declaration (position : Nat) : Overload :=
      [member (visitor "Animal") "Dog", member (visitor "Dog") "Dog"].getD position
        (member .voidPtr "Animal")
    let entries : List Candidate := [2, 0, 1, 0].map fun position => ⟨position, declaration position⟩
    let dogs : Candidate := ⟨1, member (visitor "Dog") "Dog"⟩
    ¬T.Acyclic ∧ Overload.betterType T (visitor "Puppy") (visitor "Dog") .voidPtr = true ∧
      Overload.betterType T (visitor "Puppy") (visitor "Puppy") (visitor "Dog") = true ∧
      (visitor "Yin").widens T (visitor "Yang") = true ∧
      Overload.betterType T (visitor "Puppy") (visitor "Yin") (visitor "Yang") = false ∧
      (member .voidPtr "Animal").better T args (member (visitor "Dog") "Dog") = false ∧
      Best.among T args entries = .unique dogs ∧ ∀ c, c.Wins T args entries → c = dogs := by
  intro T visitor member args declaration entries dogs
  obtain ⟨-, -, trans, own, -, asymm, best, once⟩ :=
    best_of_strict_preference T (visitor "Puppy") args declaration [2, 0, 1, 0]
  have first : Overload.betterType T (visitor "Puppy") (visitor "Dog") (visitor "Animal") = true := by
    decide +kernel
  have second : Overload.betterType T (visitor "Puppy") (visitor "Animal") .voidPtr = true := by
    decide +kernel
  have other : visitor "Dog" ≠ visitor "Puppy" := by decide +kernel
  have wins : dogs.Wins T args entries := ⟨by decide +kernel, by decide +kernel⟩
  refine ⟨by decide +kernel, trans _ _ _ first second, own _ other, by decide +kernel,
    by decide +kernel, asymm _ _ (by decide +kernel), (best dogs).mpr wins, ?_⟩
  intro c hc
  exact once c dogs hc wins

end CallHandle
