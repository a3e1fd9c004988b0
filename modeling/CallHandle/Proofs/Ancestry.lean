import CallHandle.ClassTable

/-! The walk up a class table is cut off after one step more than the table has entries. It misses no class
above all the same, since to each of them there is a way up that leaves no class twice. -/

namespace CallHandle.ClassTable

variable {T : ClassTable}

theorem Derives.trans {a b c : String} (h : T.Derives a b) (h' : T.Derives b c) :
    T.Derives a c := by
  induction h with
  | base hb => exact .step hb h'
  | step hb _ ih => exact .step hb (ih h')

theorem Derives.registered {a b : String} (h : T.Derives a b) : ∃ base, T.base? a = some base := by
  cases h with
  | base hb => exact ⟨_, hb⟩
  | step hb _ => exact ⟨_, hb⟩

/-- Two classes above one class are one above the other. -/
theorem Derives.comparable {a b c : String} (h : T.Derives a b) (h' : T.Derives a c) :
    b = c ∨ T.Derives b c ∨ T.Derives c b := by
  induction h with
  | base hb =>
    cases h' with
    | base hc => exact .inl (Option.some.inj (hb.symm.trans hc))
    | step hm hc =>
      obtain rfl := Option.some.inj (hb.symm.trans hm)
      exact .inr (.inl hc)
  | step hm hb ih =>
    cases h' with
    | base hc =>
      obtain rfl := Option.some.inj (hm.symm.trans hc)
      exact .inr (.inr hb)
    | step hm' hc =>
      obtain rfl := Option.some.inj (hm.symm.trans hm')
      exact ih hc

/-! ## The cut-off -/

/-- A way up: the classes that are left on it, each for its base, and the class it ends at. -/
inductive Climb (T : ClassTable) : String → List String → String → Prop where
  | last {a b : String} : T.base? a = some b → Climb T a [a] b
  | step {a m b : String} {left : List String} :
      T.base? a = some m → Climb T m left b → Climb T a (a :: left) b

theorem Climb.derives {a b : String} {left : List String} (h : T.Climb a left b) :
    T.Derives a b := by
  induction h with
  | last hb => exact .base hb
  | step hm _ ih => exact .step hm ih

/-- The first step goes to the base, and the others go on from there. -/
theorem mem_ancestors_succ {n : Nat} {a b : String} :
    b ∈ T.ancestors (n + 1) a ↔ ∃ m, T.base? a = some m ∧ (b = m ∨ b ∈ T.ancestors n m) := by
  cases hm : T.base? a with
  | none => simp [ancestors, hm]
  | some m => simp [ancestors, hm]

/-- A walk of some steps meets a class exactly when a way up to it leaves no more classes than that. -/
theorem mem_ancestors_iff_climb {n : Nat} {a b : String} :
    b ∈ T.ancestors n a ↔ ∃ left, T.Climb a left b ∧ left.length ≤ n := by
  induction n generalizing a with
  | zero =>
    have nonempty {left : List String} (h : T.Climb a left b) : left.length ≠ 0 := by
      cases h <;> simp
    simp only [ancestors, List.not_mem_nil, Nat.le_zero, false_iff]
    rintro ⟨left, hc, hl⟩
    exact nonempty hc hl
  | succ n ih =>
    rw [mem_ancestors_succ]
    constructor
    · rintro ⟨m, hm, rfl | hb⟩
      · exact ⟨[a], .last hm, by simp⟩
      · obtain ⟨left, hc, hl⟩ := ih.mp hb
        exact ⟨a :: left, .step hm hc, by simpa using hl⟩
    · rintro ⟨_, hc, hl⟩
      cases hc with
      | last hm => exact ⟨b, hm, .inl rfl⟩
      | step hm hc => exact ⟨_, hm, .inr (ih.mpr ⟨_, hc, by simpa using hl⟩)⟩

theorem Climb.left_subset {a b : String} {left : List String} (h : T.Climb a left b) :
    left ⊆ T.bases.map Prod.fst := by
  have key {a b : String} (hb : T.base? a = some b) : a ∈ T.bases.map Prod.fst := by
    obtain ⟨before, after, hs, _⟩ := List.lookup_eq_some_iff.mp hb
    simp [hs]
  induction h with
  | last hb => simpa using key hb
  | step hm _ ih => exact List.cons_subset.mpr ⟨key hm, ih⟩

/-- From every class that a way up leaves, the rest of it leads to the same end. -/
theorem Climb.from_mem {a b x : String} {left : List String} (h : T.Climb a left b)
    (hx : x ∈ left) : ∃ rest, rest <:+ left ∧ T.Climb x rest b := by
  induction h with
  | last hb =>
    obtain rfl := List.mem_singleton.mp hx
    exact ⟨_, List.suffix_refl _, .last hb⟩
  | step hm hc ih =>
    rcases List.mem_cons.mp hx with rfl | hx
    · exact ⟨_, List.suffix_refl _, .step hm hc⟩
    · obtain ⟨rest, hs, hr⟩ := ih hx
      exact ⟨rest, hs.trans (List.suffix_cons _ _), hr⟩

/-- A way up that meets a class twice can be cut short there, so some way up meets none twice. -/
theorem Derives.exists_climb {a b : String} (h : T.Derives a b) :
    ∃ left, T.Climb a left b ∧ left.Nodup := by
  induction h with
  | base hb => exact ⟨_, .last hb, by simp⟩
  | @step a m b hm _ ih =>
    obtain ⟨left, hc, hd⟩ := ih
    by_cases ha : a ∈ left
    · obtain ⟨rest, hs, hr⟩ := hc.from_mem ha
      exact ⟨rest, hr, hd.sublist hs.sublist⟩
    · exact ⟨a :: left, .step hm hc, List.nodup_cons.mpr ⟨ha, hd⟩⟩

/-- Every class on a way up that leaves none twice is registered, so there is a way no longer than the
table, and a walk of that many steps finds its end. -/
theorem mem_ancestors_iff_derives {n : Nat} (hn : T.bases.length ≤ n) {a b : String} :
    b ∈ T.ancestors n a ↔ T.Derives a b := by
  rw [mem_ancestors_iff_climb]
  constructor
  · rintro ⟨left, hc, -⟩
    exact hc.derives
  · intro h
    obtain ⟨left, hc, hd⟩ := h.exists_climb
    have short : left.length ≤ T.bases.length := by
      simpa using hd.length_le_of_subset hc.left_subset
    exact ⟨left, hc, Nat.le_trans short hn⟩

/-- The walk that is cut off one step beyond the size of the table finds exactly the classes above. -/
theorem isSubclass_iff_derives {a b : String} : T.isSubclass a b = true ↔ T.Derives a b := by
  rw [isSubclass, List.contains_iff_mem, mem_ancestors_iff_derives (Nat.le_succ _)]

/-- A class that derives from itself is registered, so the registered ones decide. -/
theorem acyclic_iff : T.Acyclic ↔ ∀ entry ∈ T.bases, T.isSubclass entry.1 entry.1 = false := by
  constructor
  · intro h entry _
    exact Bool.eq_false_iff.mpr fun hs => h _ (isSubclass_iff_derives.mp hs)
  · intro h name hd
    obtain ⟨base, hb⟩ := hd.registered
    obtain ⟨before, after, hs, _⟩ := List.lookup_eq_some_iff.mp hb
    have := h (name, base) (by simp [hs])
    rw [isSubclass_iff_derives.mpr hd] at this
    cases this

instance (T : ClassTable) : Decidable T.Acyclic :=
  decidable_of_iff _ acyclic_iff.symm

end CallHandle.ClassTable
