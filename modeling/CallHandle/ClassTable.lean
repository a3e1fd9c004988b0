/-!
Class tables with single inheritance. A class derives from its base, from the base of that, and so
on. A table may hold a cycle, so the walk up from a class is cut off, one step beyond the number of
registered classes, where it can meet nothing new.
-/

namespace CallHandle

/-- The registered classes, each with its base. -/
structure ClassTable where
  bases : List (String × String)

namespace ClassTable

/-- The table of a program without classes of its own: `string` derives from `object`. -/
def standard : ClassTable := ⟨[("string", "object")]⟩

/-- The registered base of a class. -/
def base? (T : ClassTable) (name : String) : Option String :=
  T.bases.lookup name

/-- Registers a class. A class that is registered again has its new base alone. -/
def register (T : ClassTable) (name base : String) : ClassTable :=
  ⟨(name, base) :: T.bases.filter fun entry => entry.1 != name⟩

/-- The table after registering classes in order, each with its base. -/
def declare (T : ClassTable) (classes : List (String × String)) : ClassTable :=
  classes.foldl (fun T entry => T.register entry.1 entry.2) T

/-- The classes on the way up from a class, nearest first, for a number of steps. -/
def ancestors (T : ClassTable) : Nat → String → List String
  | 0, _ => []
  | steps + 1, name =>
    match T.base? name with
    | none => []
    | some base => base :: T.ancestors steps base

/-- Whether a class is a proper subclass of another. -/
def isSubclass (T : ClassTable) (derived base : String) : Bool :=
  (T.ancestors (T.bases.length + 1) derived).contains base

/-- The second name is reached from the first by one or more steps to a base. -/
inductive Derives (T : ClassTable) : String → String → Prop where
  | base {derived base : String} : T.base? derived = some base → T.Derives derived base
  | step {derived middle base : String} :
      T.base? derived = some middle → T.Derives middle base → T.Derives derived base

/-- No class derives from itself. -/
def Acyclic (T : ClassTable) : Prop :=
  ∀ name, ¬T.Derives name name

/-- The second table keeps every registration of the first. -/
def Extends (T T' : ClassTable) : Prop :=
  ∀ name base, T.base? name = some base → T'.base? name = some base

theorem base?_register (T : ClassTable) (name base other : String) :
    (T.register name base).base? other = if other = name then some base else T.base? other := by
  unfold register base?
  by_cases h : other = name
  · simp [h]
  · simp only [List.lookup_cons, beq_eq_false_iff_ne.mpr h, if_neg h]
    induction T.bases with
    | nil => rfl
    | cons entry bases ih =>
      obtain ⟨known, above⟩ := entry
      by_cases hn : known = name
      · have ho : (other == name) = false := by simp [h]
        simpa [hn, List.lookup_cons, ho] using ih
      · cases ho : other == known
        · simpa [hn, List.lookup_cons, ho] using ih
        · simp [hn, List.lookup_cons, ho]

end ClassTable

end CallHandle
