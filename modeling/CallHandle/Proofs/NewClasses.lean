import CallHandle.Proofs.Antisymmetry
import CallHandle.Proofs.DeclaredClasses
import CallHandle.Proofs.Dominance

namespace CallHandle

variable {T T' : ClassTable}

/-! ## Larger tables -/

namespace ClassTable

/-- Registering other classes leaves a class its base. -/
theorem base?_declare {classes : List (String × String)} {name : String}
    (others : ∀ entry ∈ classes, entry.1 ≠ name) : (T.declare classes).base? name = T.base? name := by
  have unknown : classes.reverse.lookup name = none := by
    rw [List.lookup_eq_none_iff]
    intro entry member
    simpa using (others entry (List.mem_reverse.mp member)).symm
  rw [base?_declare_eq, unknown, Option.none_or]

theorem extends_declare {classes : List (String × String)}
    (new : ∀ entry ∈ classes, T.base? entry.1 = none) : T.Extends (T.declare classes) := by
  intro name base known
  rw [base?_declare, known]
  rintro entry member rfl
  rw [new entry member] at known
  cases known

theorem Derives.of_extends (larger : T.Extends T') {a b : String} (h : T.Derives a b) :
    T'.Derives a b := by
  induction h with
  | base known => exact .base (larger _ _ known)
  | step known _ ih => exact .step (larger _ _ known) ih

end ClassTable

/-! ## What widens and what converts -/

/-- The table occurs in one kind of step alone, and there it is asked for a base. -/
theorem Ty.Le.of_extends (larger : T.Extends T') {a b : Ty} (h : Ty.Le T a b) : Ty.Le T' a b := by
  induction h with
  | refl t => exact .refl t
  | trans _ _ first second => exact .trans first second
  | base known => exact .base (larger _ _ known)
  | pointer t => exact .pointer t
  | untyped s => exact .untyped s
  | handle length modes _ references retMode _ reference convention params ret =>
    exact .handle length modes params references retMode ret reference convention

theorem Ty.widens_of_extends (larger : T.Extends T') {a b : Ty} (h : a.widens T b = true) :
    a.widens T' b = true := by
  rw [Ty.widens_iff_le] at h ⊢
  exact h.of_extends larger

theorem Signature.widens_of_extends (larger : T.Extends T') {s t : Signature}
    (h : s.widens T t = true) : s.widens T' t = true := by
  have handles : (Ty.handle s).widens T (.handle t) = true :=
    Ty.handle_widens.mpr (.inr ⟨t, rfl, h⟩)
  simpa [Ty.widens] using Ty.widens_of_extends larger handles

theorem Param.widens_of_extends (larger : T.Extends T') {p q : Param} (h : p.widens T q = true) :
    p.widens T' q = true := by
  rw [Param.widens_iff] at h ⊢
  obtain ⟨mode, passes⟩ := h
  refine ⟨mode, ?_⟩
  cases byRef : p.mode.isByRef with
  | true =>
    rw [byRef] at passes
    exact passes
  | false =>
    rw [byRef] at passes
    exact Ty.widens_of_extends larger passes

/-- A kind of widening that applies in the table applies in every larger one. In particular the guard that
keeps equal handles from the pointer kind does not look at the table. -/
theorem Widening.applies_of_extends (larger : T.Extends T') {kind : Widening} {a b : Ty}
    (h : kind.applies T a b = true) : kind.applies T' a b = true := by
  cases kind with
  | identity =>
    rw [identity_applies_iff] at h ⊢
    exact h
  | reference =>
    rw [reference_applies_iff] at h ⊢
    obtain ⟨m, n, rfl, rfl, derives⟩ := h
    exact ⟨m, n, rfl, rfl, derives.of_extends larger⟩
  | pointer =>
    rw [pointer_applies_iff] at h ⊢
    obtain ⟨isPointer, differ, widens⟩ := h
    exact ⟨isPointer, differ, Ty.widens_of_extends larger widens⟩

theorem Overload.applicable_of_extends (larger : T.Extends T') {m : Overload} {args : List Param}
    (h : m.applicable T args = true) : m.applicable T' args = true := by
  rw [Overload.applicable_iff] at h ⊢
  exact h.imp fun _ _ widens => Param.widens_of_extends larger widens

/-- **New classes invalidate nothing.** Whatever bases are given to classes that a table does not know, and
even if they close a cycle, a type that widens to another still does, by the same kind of widening; a handle
that converts to another still does, by the same kind of conversion; and a member that a call with some
arguments reaches is still reached. -/
theorem conversion_survives_new_classes (T : ClassTable) (classes : List (String × String))
    (new : ∀ entry ∈ classes, T.base? entry.1 = none) :
    let T' := T.declare classes
    (∀ a b : Ty, a.widens T b = true → a.widens T' b = true) ∧
      (∀ (kind : Widening) (a b : Ty), kind.applies T a b = true → kind.applies T' a b = true) ∧
      (∀ (s t : Signature) (kind : Conversion),
        s.convert T t = .ok kind → s.convert T' t = .ok kind) ∧
      ∀ (m : Overload) (args : List Param), m.applicable T args = true → m.applicable T' args = true := by
  intro T'
  have larger : T.Extends T' := ClassTable.extends_declare new
  refine ⟨?_, ?_, ?_, ?_⟩
  · intro a b
    exact Ty.widens_of_extends larger
  · intro kind a b
    exact Widening.applies_of_extends larger
  · intro s t kind converts
    rw [Signature.convert_eq_ok_iff] at converts ⊢
    exact ⟨Signature.widens_of_extends larger converts.1, converts.2⟩
  · intro m args
    exact Overload.applicable_of_extends larger

/-- The new classes close a cycle, so that an animal is a dog as well. A handle that takes a visitor of dogs
still converts to one that takes a visitor of animals, and a member that takes the latter is still reached.
The way back was refused and is open now. -/
theorem visitors_survive_a_cycle :
    let T := ClassTable.standard.register "Dog" "Animal"
    let classes := [("Animal", "Cat"), ("Cat", "Dog")]
    let T' := T.declare classes
    let taking (first : Ty) : Signature := ⟨[⟨first, .byValue⟩], ⟨.void, .byValue⟩, .cdecl⟩
    let s := taking (.handle (taking (.con "Dog")))
    let t := taking (.handle (taking (.con "Animal")))
    let m : Overload := ⟨"walk", t, true⟩
    (∀ entry ∈ classes, T.base? entry.1 = none) ∧ T.Acyclic ∧ ¬T'.Acyclic ∧
      s.convert T t = .ok .handleToHandle ∧ s.convert T' t = .ok .handleToHandle ∧
      m.applicable T s.params = true ∧ m.applicable T' s.params = true ∧
      (t.convert T s).isOk = false ∧ (t.convert T' s).isOk = true := by
  intro T classes T' taking s t m
  have new : ∀ entry ∈ classes, T.base? entry.1 = none := by decide +kernel
  have converts : s.convert T t = .ok .handleToHandle := by decide +kernel
  have reached : m.applicable T s.params = true := by decide +kernel
  obtain ⟨-, -, stillConverts, stillReached⟩ := conversion_survives_new_classes T classes new
  exact ⟨new, by decide +kernel, by decide +kernel, converts, stillConverts s t _ converts, reached,
    stillReached m _ reached, by decide +kernel, by decide +kernel⟩

end CallHandle
