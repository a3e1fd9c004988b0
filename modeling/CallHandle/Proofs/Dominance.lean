import CallHandle.Overload
import CallHandle.Proofs.WideningOrder
import Mathlib.Order.Defs.PartialOrder

/-!
# Better members

One applicable member is better than another when it is nowhere the worse and somewhere the better
conversion:

* `Ty.preference`, `Overload.betterType_iff_lt`: the better conversion is the strict part of a preorder;
* `Overload.better_asymm`: of two members at most one is better, so at most one beats all others;
* `Overload.better_of_exact`: a member with the arguments' own types is better than any other;
* `Best.among_eq_unique_iff`, `Best.among_eq_ambiguous_iff`: what the tie-break answers;
* `Overload.better_trans`: without a handle among the arguments, being better is transitive;
* `exists_undominated`: where it is, every entry that is beaten is beaten by one that nothing beats.
-/

namespace CallHandle

variable {T : ClassTable} {arg : Ty} {args : List Param}

/-! ## Applicable members -/

theorem forall₂_getElem? {α β : Type} {R : α → β → Prop} {xs : List α} {ys : List β}
    (h : List.Forall₂ R xs ys) {i : Nat} {x : α} (hx : xs[i]? = some x) :
    ∃ y, ys[i]? = some y ∧ R x y := by
  induction h generalizing i with
  | nil => simp at hx
  | cons hxy _ ih =>
    cases i with
    | zero =>
      obtain rfl : _ = x := by simpa using hx
      exact ⟨_, by simp, hxy⟩
    | succ i => simpa using ih (by simpa using hx)

theorem Overload.applicable_iff {m : Overload} :
    m.applicable T args = true ↔
      List.Forall₂ (fun arg p => arg.widens T p = true) args m.signature.params := by
  rw [List.forall₂_iff_zip]
  simp [Overload.applicable, eq_comm (a := m.signature.params.length)]

/-- A member with the arguments' own parameters is applicable. -/
theorem Overload.applicable_of_exact {m : Overload} (h : m.signature.params = args) :
    m.applicable T args = true := by
  rw [Overload.applicable_iff, h]
  exact List.forall₂_same.mpr fun p _ => p.widens_refl T

/-! ## Better types -/

theorem Overload.betterType_iff {l r : Ty} :
    Overload.betterType T arg l r = true ↔
      l ≠ r ∧ (arg = l ∨ arg ≠ r ∧ l.widens T r = true ∧ r.widens T l = false) := by
  simp [Overload.betterType, and_assoc]

/-- How well types of a parameter fit an argument: its own type fits best, and of two others the one that
widens to the other fits at least as well. -/
@[reducible]
def Ty.preference (T : ClassTable) (arg : Ty) : Preorder Ty where
  le l r := l = arg ∨ r ≠ arg ∧ l.widens T r = true
  le_refl t := by
    by_cases own : t = arg
    · exact .inl own
    · exact .inr ⟨own, t.widens_refl T⟩
  le_trans l m r hlm hmr := by
    rcases hlm with own | ⟨hm, hlm⟩
    · exact .inl own
    · obtain ⟨hr, hmr⟩ := hmr.resolve_left hm
      exact .inr ⟨hr, Ty.widens_trans hlm hmr⟩

theorem Overload.betterType_iff_lt {l r : Ty} :
    Overload.betterType T arg l r = true ↔ (Ty.preference T arg).lt l r := by
  rw [Overload.betterType_iff, @lt_iff_le_not_ge _ (Ty.preference T arg)]
  constructor
  -- The argument's own type comes before every other type and after none.
  · rintro ⟨apart, own | ⟨notOwn, hlr, hrl⟩⟩
    · refine ⟨.inl own.symm, ?_⟩
      rintro (other | ⟨other, -⟩)
      · exact apart (own.symm.trans other.symm)
      · exact other own.symm
    · refine ⟨.inr ⟨Ne.symm notOwn, hlr⟩, ?_⟩
      rintro (other | ⟨-, back⟩)
      · exact notOwn other.symm
      · rw [back] at hrl
        cases hrl
  · rintro ⟨hlr, notBack⟩
    have apart : l ≠ r := by
      rintro rfl
      exact notBack hlr
    rcases hlr with own | ⟨hr, hlr⟩
    · exact ⟨apart, .inl own.symm⟩
    · by_cases own : l = arg
      · exact ⟨apart, .inl own.symm⟩
      · have back : r.widens T l = false := Bool.eq_false_iff.mpr fun h => notBack (.inr ⟨own, h⟩)
        exact ⟨apart, .inr ⟨Ne.symm hr, hlr, back⟩⟩

theorem Overload.betterType_self {t : Ty} : Overload.betterType T arg t t = false := by
  rw [Bool.eq_false_iff, ne_eq, Overload.betterType_iff_lt]
  exact @lt_irrefl _ (Ty.preference T arg) t

theorem Overload.betterType_asymm {l r : Ty} (h : Overload.betterType T arg l r = true) :
    Overload.betterType T arg r l = false := by
  rw [Bool.eq_false_iff, ne_eq, Overload.betterType_iff_lt]
  rw [Overload.betterType_iff_lt] at h
  exact @lt_asymm _ (Ty.preference T arg) _ _ h

theorem Overload.betterType_trans {l m r : Ty} (hlm : Overload.betterType T arg l m = true)
    (hmr : Overload.betterType T arg m r = true) : Overload.betterType T arg l r = true := by
  rw [Overload.betterType_iff_lt] at hlm hmr ⊢
  exact @lt_trans _ (Ty.preference T arg) _ _ _ hlm hmr

theorem Overload.betterType_own {t : Ty} (other : t ≠ arg) :
    Overload.betterType T arg arg t = true :=
  Overload.betterType_iff.mpr ⟨Ne.symm other, .inl rfl⟩

/-! ## Better members -/

theorem Overload.mem_aligned {left right : Overload} {arg l r : Param} :
    (arg, l, r) ∈ Overload.aligned args left right ↔
      ∃ i : Nat, args[i]? = some arg ∧ left.signature.params[i]? = some l ∧
        right.signature.params[i]? = some r := by
  unfold Overload.aligned
  rw [List.mem_iff_getElem?]
  simp only [List.getElem?_zip_eq_some]

/-- Nowhere worse, and better at some position. -/
theorem Overload.better_iff {left right : Overload} :
    left.better T args right = true ↔
      (∀ (i : Nat) (arg l r : Param), args[i]? = some arg → left.signature.params[i]? = some l →
        right.signature.params[i]? = some r → Overload.betterType T arg.ty r.ty l.ty = false) ∧
      ∃ (i : Nat) (arg l r : Param), args[i]? = some arg ∧ left.signature.params[i]? = some l ∧
        right.signature.params[i]? = some r ∧ Overload.betterType T arg.ty l.ty r.ty = true := by
  simp only [Overload.better, Bool.and_eq_true, List.all_eq_true, List.any_eq_true, Prod.forall,
    Prod.exists, Overload.mem_aligned, Bool.not_eq_true']
  constructor
  · rintro ⟨nowhere, arg, l, r, ⟨i, ha, hl, hr⟩, h⟩
    exact ⟨fun i arg l r ha hl hr => nowhere arg l r ⟨i, ha, hl, hr⟩, i, arg, l, r, ha, hl, hr, h⟩
  · rintro ⟨nowhere, i, arg, l, r, ha, hl, hr, h⟩
    exact ⟨fun arg l r ⟨i, ha, hl, hr⟩ => nowhere i arg l r ha hl hr, arg, l, r, ⟨i, ha, hl, hr⟩, h⟩

theorem Overload.better_asymm {left right : Overload} (h : left.better T args right = true) :
    right.better T args left = false := by
  rw [Bool.eq_false_iff]
  intro h'
  obtain ⟨-, i, arg, l, r, ha, hl, hr, hb⟩ := Overload.better_iff.mp h
  have := (Overload.better_iff.mp h').1 i arg r l ha hr hl
  rw [hb] at this
  cases this

/-- Equal parameter lists leave nothing to be better at. -/
theorem Overload.not_better_of_params {left right : Overload}
    (h : left.signature.params = right.signature.params) : left.better T args right = false := by
  rw [Bool.eq_false_iff]
  intro hb
  obtain ⟨-, i, arg, l, r, -, hl, hr, hb⟩ := Overload.better_iff.mp hb
  obtain rfl : l = r := Option.some.inj (hl.symm.trans (h ▸ hr))
  rw [Overload.betterType_self] at hb
  cases hb

/-- The arguments' own types are best everywhere, and another list of parameters differs from them
in the type at some position, since its modes are the same. -/
theorem Overload.better_of_exact {left right : Overload} (hl : left.signature.params = args)
    (hr : right.applicable T args = true) (hne : right.signature.params ≠ args) :
    left.better T args right = true := by
  have aligned := Overload.applicable_iff.mp hr
  rw [Overload.better_iff, hl]
  constructor
  · intro i arg l r ha hl' _
    obtain rfl : arg = l := Option.some.inj (ha.symm.trans hl')
    rw [Bool.eq_false_iff]
    intro hb
    obtain ⟨hne, h | ⟨h, -⟩⟩ := Overload.betterType_iff.mp hb
    · exact hne h.symm
    · exact h rfl
  · by_contra nowhere
    apply hne
    symm
    apply List.ext_getElem?
    intro i
    cases ha : args[i]? with
    | none =>
      rw [eq_comm, List.getElem?_eq_none_iff]
      rw [List.getElem?_eq_none_iff] at ha
      rwa [← aligned.length_eq]
    | some arg =>
      obtain ⟨r, hr', hw⟩ := forall₂_getElem? aligned ha
      rw [hr']
      have mode := (Param.widens_iff.mp hw).1
      have ty : arg.ty = r.ty := by
        by_contra h
        exact nowhere ⟨i, arg, arg, r, ha, ha, hr', Overload.betterType_own (Ne.symm h)⟩
      rw [Param.ext ty mode]

/-! ## The tie-break -/

theorem Candidate.beatsOthers_iff {entries : List Candidate} {c : Candidate} :
    c.beatsOthers T args entries = true ↔
      ∀ d ∈ entries, d.position ≠ c.position → c.overload.better T args d.overload = true := by
  simp [Candidate.beatsOthers, or_iff_not_imp_left]

theorem Candidate.undominated_iff {entries : List Candidate} {c : Candidate} :
    c.undominated T args entries = true ↔
      ∀ d ∈ entries, d.overload.better T args c.overload = false := by
  simp [Candidate.undominated]

theorem Best.among_eq_absent_iff {entries : List Candidate} :
    Best.among T args entries = .absent ↔ entries = [] := by
  cases entries with
  | nil => simp [Best.among]
  | cons c cs =>
    simp only [Best.among]
    cases (c :: cs).find? (Candidate.beatsOthers T args (c :: cs)) <;> simp

/-- Of two entries that beat all at other positions each would be better than the other. -/
theorem Candidate.eq_of_beatsOthers {entries : List Candidate} {c d : Candidate}
    (identity : c.position = d.position → c = d) (hc : c ∈ entries) (hd : d ∈ entries)
    (hcb : c.beatsOthers T args entries = true) (hdb : d.beatsOthers T args entries = true) :
    c = d := by
  by_contra apart
  have positions : c.position ≠ d.position := fun h => apart (identity h)
  have worse := Overload.better_asymm (Candidate.beatsOthers_iff.mp hdb c hc positions)
  rw [Candidate.beatsOthers_iff.mp hcb d hd (Ne.symm positions)] at worse
  cases worse

/-- The answer is the entry that beats all at other positions. There is at most one, so which of
them comes first does not matter. -/
theorem Best.among_eq_unique_iff {entries : List Candidate}
    (identity : ∀ c ∈ entries, ∀ d ∈ entries, c.position = d.position → c = d) {c : Candidate} :
    Best.among T args entries = .unique c ↔
      c ∈ entries ∧ c.beatsOthers T args entries = true := by
  have found : Best.among T args entries = .unique c ↔
      entries.find? (Candidate.beatsOthers T args entries) = some c := by
    cases entries with
    | nil => simp [Best.among]
    | cons d ds =>
      simp only [Best.among]
      cases (d :: ds).find? (Candidate.beatsOthers T args (d :: ds)) <;> simp
  rw [found]
  constructor
  · intro h
    exact ⟨List.mem_of_find?_eq_some h, List.find?_some h⟩
  · rintro ⟨hc, hb⟩
    cases hf : entries.find? (Candidate.beatsOthers T args entries) with
    | none => exact absurd hb (by simpa using List.find?_eq_none.mp hf c hc)
    | some d =>
      have hd := List.mem_of_find?_eq_some hf
      rw [Candidate.eq_of_beatsOthers (identity d hd c hc) hd hc (List.find?_some hf) hb]

theorem Best.among_eq_ambiguous_iff {entries cs : List Candidate} :
    Best.among T args entries = .ambiguous cs ↔
      entries ≠ [] ∧ (∀ c ∈ entries, c.beatsOthers T args entries = false) ∧
        cs = entries.filter (Candidate.undominated T args entries) := by
  cases entries with
  | nil => simp [Best.among]
  | cons d ds =>
    simp only [Best.among]
    cases hf : (d :: ds).find? (Candidate.beatsOthers T args (d :: ds)) with
    | none =>
      have noWinner := List.find?_eq_none.mp hf
      simp only [Bool.not_eq_true] at noWinner
      constructor
      · intro h
        exact ⟨by simp, noWinner, (Best.ambiguous.inj h).symm⟩
      · rintro ⟨-, -, rfl⟩
        rfl
    | some c =>
      simp only [reduceCtorEq, false_iff]
      rintro ⟨-, noWinner, -⟩
      have := noWinner c (List.mem_of_find?_eq_some hf)
      rw [List.find?_some hf] at this
      cases this

/-! ## Transitivity -/

/-- What an argument that is no handle widens to lies on one line, and there a type in between is
worse than the better type or better than the worse one. -/
theorem Overload.betterType_split {arg l m r : Ty} (ha : ∀ s, arg ≠ .handle s)
    (hl : arg.widens T l = true) (hm : arg.widens T m = true)
    (h : Overload.betterType T arg l r = true) :
    Overload.betterType T arg l m = true ∨ Overload.betterType T arg m r = true := by
  simp only [Overload.betterType_iff] at h ⊢
  obtain ⟨hne, hlr⟩ := h
  by_cases hml : m = l
  · subst m
    exact .inr ⟨hne, hlr⟩
  by_cases hal : arg = l
  · exact .inl ⟨Ne.symm hml, .inl hal⟩
  obtain ⟨har, hwlr, hwrl⟩ := hlr.resolve_left hal
  by_cases ham : arg = m
  · exact .inr ⟨fun h => har (ham.trans h), .inl ham⟩
  by_cases hwml : m.widens T l = true
  · have hwrm : r.widens T m = false := by
      rw [Bool.eq_false_iff]
      intro h
      rw [Ty.widens_trans h hwml] at hwrl
      cases hwrl
    refine .inr ⟨?_, .inr ⟨har, Ty.widens_trans hwml hwlr, hwrm⟩⟩
    rintro rfl
    rw [Ty.widens_refl] at hwrm
    cases hwrm
  · have hwlm := (Ty.widens_comparable ha hl hm).resolve_right hwml
    exact .inl ⟨Ne.symm hml, .inr ⟨ham, hwlm, by simpa using hwml⟩⟩

/-- No by-value argument is a handle. -/
def HandleFree (args : List Param) : Prop :=
  ∀ arg ∈ args, arg.mode = .byValue → ∀ s, arg.ty ≠ .handle s

theorem Overload.better_trans (hargs : HandleFree args) {a b c : Overload}
    (ha : a.applicable T args = true) (hb : b.applicable T args = true)
    (hc : c.applicable T args = true) (hab : a.better T args b = true)
    (hbc : b.better T args c = true) : a.better T args c = true := by
  rw [Overload.applicable_iff] at ha hb hc
  obtain ⟨nowhereAB, -⟩ := Overload.better_iff.mp hab
  obtain ⟨nowhereBC, i, arg, q, r, hi, hq, hr, hqr⟩ := Overload.better_iff.mp hbc
  -- A reference has the argument's type in every applicable member, so only values are split.
  have split {i : Nat} {arg l m r : Param} (hi : args[i]? = some arg)
      (hl : arg.widens T l = true) (hm : arg.widens T m = true)
      (h : Overload.betterType T arg.ty l.ty r.ty = true) :
      Overload.betterType T arg.ty l.ty m.ty = true ∨
        Overload.betterType T arg.ty m.ty r.ty = true := by
    rw [Param.widens_iff] at hl hm
    by_cases byValue : arg.mode = .byValue
    · simp only [Ty.Passes, ParamMode.isByRef, byValue] at hl hm
      exact Overload.betterType_split (hargs arg (List.mem_of_getElem? hi) byValue) hl.2 hm.2 h
    · have hl' : arg.ty = l.ty := by simpa [Ty.Passes, ParamMode.isByRef, byValue] using hl.2
      have hm' : arg.ty = m.ty := by simpa [Ty.Passes, ParamMode.isByRef, byValue] using hm.2
      rw [hl'.symm.trans hm'] at h
      exact .inr h
  refine Overload.better_iff.mpr ⟨?_, i, arg, ?_⟩
  · intro j arg' p' r' hj hp' hr'
    obtain ⟨q', hq', hwq⟩ := forall₂_getElem? hb hj
    obtain ⟨_, h, hwr⟩ := forall₂_getElem? hc hj
    obtain rfl := Option.some.inj (hr'.symm.trans h)
    rw [Bool.eq_false_iff]
    intro worse
    rcases split hj hwr hwq worse with h | h
    · rw [nowhereBC j arg' q' r' hj hq' hr'] at h
      cases h
    · rw [nowhereAB j arg' p' q' hj hp' hq'] at h
      cases h
  · obtain ⟨p, hp, hwp⟩ := forall₂_getElem? ha hi
    obtain ⟨_, h, hwq⟩ := forall₂_getElem? hb hi
    obtain rfl := Option.some.inj (hq.symm.trans h)
    refine ⟨p, r, hi, hp, hr, (split hi hwq hwp hqr).resolve_left ?_⟩
    rw [nowhereAB i arg p q hi hp hq]
    simp

/-- In a finite list, going from an entry to one that beats it ends where being better is
transitive, since every step leaves the entry it comes from behind. -/
theorem exists_undominated {α : Type} {beats : α → α → Bool} {xs : List α}
    (irrefl : ∀ x ∈ xs, beats x x = false)
    (trans : ∀ x ∈ xs, ∀ y ∈ xs, ∀ z ∈ xs, beats x y = true → beats y z = true → beats x z = true)
    {x : α} (hx : x ∈ xs) (beaten : ∃ y ∈ xs, beats y x = true) :
    ∃ y ∈ xs, beats y x = true ∧ ∀ z ∈ xs, beats z y = false := by
  generalize hn : (xs.filter fun y => beats y x).length = n
  induction n using Nat.strongRecOn generalizing x with
  | ind n ih =>
    obtain ⟨y, hy, hyx⟩ := beaten
    by_cases again : ∃ z ∈ xs, beats z y = true
    · have inside : xs.filter (fun z => beats z y) =
          (xs.filter fun z => beats z x).filter fun z => beats z y := by
        rw [List.filter_filter]
        apply List.filter_congr
        intro z hz
        cases hzy : beats z y with
        | true => simp [trans z hz y hy x hx hzy hyx]
        | false => simp
      have less : (xs.filter fun z => beats z y).length < n := by
        rw [inside, ← hn, List.length_filter_lt_length_iff_exists]
        exact ⟨y, List.mem_filter.mpr ⟨hy, hyx⟩, by simp [irrefl y hy]⟩
      obtain ⟨z, hz, hzy, top⟩ := ih _ less hy again rfl
      exact ⟨z, hz, trans z hz y hy x hx hzy hyx, top⟩
    · refine ⟨y, hy, hyx, fun z hz => ?_⟩
      rw [Bool.eq_false_iff]
      exact fun h => again ⟨z, hz, h⟩

end CallHandle
