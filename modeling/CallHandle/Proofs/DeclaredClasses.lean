import CallHandle.Proofs.Ancestry
import Mathlib.Data.List.Dedup

namespace CallHandle

namespace ClassTable

variable {T : ClassTable} {classes : List (String × String)}

/-! ## The entries of a table -/

/-- The names that have a base, the last declared first. -/
def names (T : ClassTable) : List String :=
  T.bases.map Prod.fst

theorem declare_cons (T : ClassTable) (entry : String × String) (classes : List (String × String)) :
    T.declare (entry :: classes) = (T.register entry.1 entry.2).declare classes :=
  rfl

theorem names_register (T : ClassTable) (name base : String) :
    (T.register name base).names = name :: T.names.filter fun other => other != name := by
  simp only [names, register, List.map_cons, List.filter_map]
  rfl

theorem nodup_names_declare (h : T.names.Nodup) : (T.declare classes).names.Nodup := by
  induction classes generalizing T with
  | nil => exact h
  | cons entry classes ih =>
    rw [declare_cons]
    apply ih
    rw [names_register]
    exact List.nodup_cons.mpr ⟨by simp, h.filter _⟩

theorem mem_names_declare {name : String} :
    name ∈ (T.declare classes).names ↔ name ∈ classes.map Prod.fst ∨ name ∈ T.names := by
  induction classes generalizing T with
  | nil => simp [declare]
  | cons entry classes ih =>
    rw [declare_cons, ih, names_register, List.map_cons, List.mem_cons, List.mem_cons, List.mem_filter]
    by_cases h : name = entry.1 <;> simp [h]

/-- Names that are declared again do not count. -/
theorem length_declare (classes : List (String × String)) :
    ((⟨[]⟩ : ClassTable).declare classes).bases.length = (classes.map Prod.fst).dedup.length := by
  have same : ((⟨[]⟩ : ClassTable).declare classes).names.Perm (classes.map Prod.fst).dedup := by
    have empty : (⟨[]⟩ : ClassTable).names.Nodup := List.nodup_nil
    rw [List.perm_ext_iff_of_nodup (nodup_names_declare empty) (List.nodup_dedup _)]
    intro name
    rw [mem_names_declare, List.mem_dedup]
    simp [names]
  simpa [names] using same.length_eq

/-- The last declaration of a class counts. -/
theorem base?_declare_eq {name : String} :
    (T.declare classes).base? name = (classes.reverse.lookup name).or (T.base? name) := by
  induction classes generalizing T with
  | nil => rfl
  | cons entry classes ih =>
    rw [declare_cons, ih, base?_register, List.reverse_cons, List.lookup_append, Option.or_assoc]
    obtain ⟨last, above⟩ := entry
    by_cases h : name = last
    · simp [h]
    · have other : (name == last) = false := beq_eq_false_iff_ne.mpr h
      simp [h, other, List.lookup_cons]

/-! ## When a walk finds a class -/

/-- A way up meets every class that it leaves but the first. If its end is none of these, the walk finds the
end when it has left them all. -/
theorem Climb.mem_ancestors_iff {a b : String} {left : List String} (h : T.Climb a left b)
    (once : b ∉ left.tail) {n : Nat} : b ∈ T.ancestors n a ↔ left.length ≤ n := by
  induction h generalizing n with
  | last hb =>
    cases n with
    | zero => simp [ancestors]
    | succ n => simp [ancestors, hb]
  | @step a m b left hm hc ih =>
    have starts : m ∈ left := by cases hc <;> simp
    have apart : b ≠ m := by
      rintro rfl
      exact once starts
    have later : b ∉ left.tail := fun h => once (List.mem_of_mem_tail h)
    cases n with
    | zero => simp [ancestors]
    | succ n => simp [mem_ancestors_succ, hm, apart, ih later]

end ClassTable

/-- **The cut-off walk misses no base and invents none.** Whatever classes are declared, again under another
base, as their own base or in a cycle, the table has one entry for each name, with the base it was given
last. A class is a proper subclass of another exactly when one or more steps to a base lead there. One step
fewer than the walk is allowed and any number more would find the same, and a class at the end of a way up
that does not meet it before is found at the last step of that way. -/
theorem subclass_of_declared (classes : List (String × String)) (derived base : String) :
    let declared := ("string", "object") :: classes
    let T := ClassTable.standard.declare classes
    (T.isSubclass derived base = true ↔ T.Derives derived base) ∧
      (∀ more, base ∈ T.ancestors (T.bases.length + more) derived ↔ T.Derives derived base) ∧
      (∀ left, T.Climb derived left base → base ∉ left.tail →
        ∀ steps, base ∈ T.ancestors steps derived ↔ left.length ≤ steps) ∧
      (∀ name, T.base? name = declared.reverse.lookup name) ∧
      T.bases.length = (declared.map Prod.fst).dedup.length := by
  intro declared T
  have fromNothing : T = (⟨[]⟩ : ClassTable).declare declared := rfl
  refine ⟨ClassTable.isSubclass_iff_derives, ?_, ?_, ?_, ?_⟩
  · intro more
    exact ClassTable.mem_ancestors_iff_derives (Nat.le_add_right _ _)
  · intro left climb once steps
    exact climb.mem_ancestors_iff once
  · intro name
    rw [fromNothing, ClassTable.base?_declare_eq]
    exact Option.or_none
  · rw [fromNothing]
    exact ClassTable.length_declare declared

/-- A chain of as many steps as there are entries, and a tail that enters a cycle. -/
example :
    let chain := ClassTable.standard.declare [("Dog", "Dog"), ("Cat", "string"), ("Dog", "Cat")]
    let cycle := ClassTable.standard.declare [("Pup", "Dog"), ("Dog", "Cat"), ("Cat", "Dog")]
    chain.bases.length = 3 ∧ chain.isSubclass "Dog" "object" = true ∧
      "object" ∉ chain.ancestors 2 "Dog" ∧ cycle.isSubclass "Pup" "Cat" = true ∧
      cycle.isSubclass "Cat" "Cat" = true ∧ cycle.isSubclass "Cat" "Pup" = false ∧
      cycle.isSubclass "Pup" "object" = false := by
  decide +kernel

end CallHandle
