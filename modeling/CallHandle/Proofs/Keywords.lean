import CallHandle.Proofs.Validity

/-!
# Keywords

The keywords in front of a type spell how the value is passed. Written descriptors are read in three stages:
the keywords of every parameter, the keywords of the return, and the types. A fault of an earlier stage is
reported before one of a later stage, and within a stage the first position is reported:

* `ParamMode.ofKeywords?_eq_some_iff`, `ReturnMode.ofKeywords?_eq_some_iff`: the spellings of each mode;
* `Signature.Spelled`: written descriptors that spell the modes of a signature and have its types;
* `Signature.FirstFault`: the first fault of written descriptors, with what is reported for it;
* `Signature.readParams_eq_error_iff`, `Signature.readReturn_eq_error_iff`, `Signature.make_eq_error_iff`: the
  faults of each stage;
* `written_signature`: what written descriptors form, and the fault that is reported when they form nothing.
-/

namespace CallHandle

/-! ## Spellings -/

namespace ParamMode

/-- The keyword lists that spell a mode. A reference that is only read has two. -/
def spellings : ParamMode → List (List Keyword)
  | byValue => [[]]
  | byRef => [[.ref]]
  | byOut => [[.out]]
  | byIn => [[.readIn], [.ref, .readonly]]

/-- The keyword lists that a parameter may have. -/
def keywordLists : List (List Keyword) :=
  [[], [.ref], [.out], [.readIn], [.ref, .readonly]]

variable {keywords : List Keyword}

theorem ofKeywords?_eq_some_iff {mode : ParamMode} :
    ofKeywords? keywords = some mode ↔ keywords ∈ mode.spellings := by
  unfold ofKeywords?
  split <;> cases mode <;> simp_all [spellings]

theorem mem_keywordLists_iff :
    keywords ∈ keywordLists ↔ ∃ mode : ParamMode, keywords ∈ mode.spellings := by
  constructor
  · intro h
    simp only [keywordLists, List.mem_cons, List.not_mem_nil, or_false] at h
    rcases h with rfl | rfl | rfl | rfl | rfl
    · exact ⟨byValue, by decide⟩
    · exact ⟨byRef, by decide⟩
    · exact ⟨byOut, by decide⟩
    · exact ⟨byIn, by decide⟩
    · exact ⟨byIn, by decide⟩
  · rintro ⟨mode, h⟩
    cases mode <;> simp_all [spellings, keywordLists]

theorem ofKeywords?_eq_none_iff : ofKeywords? keywords = none ↔ keywords ∉ keywordLists := by
  rw [mem_keywordLists_iff, Option.eq_none_iff_forall_ne_some]
  simp only [ne_eq, ofKeywords?_eq_some_iff, not_exists]

end ParamMode

namespace ReturnMode

/-- The keywords that spell a mode. -/
def spellings : ReturnMode → List (List Keyword)
  | byValue => [[]]
  | byRef => [[.ref]]
  | byReadonlyRef => [[.ref, .readonly]]

/-- The keyword lists that a return may have. -/
def keywordLists : List (List Keyword) :=
  [[], [.ref], [.ref, .readonly]]

variable {keywords : List Keyword}

theorem ofKeywords?_eq_some_iff {mode : ReturnMode} :
    ofKeywords? keywords = some mode ↔ keywords ∈ mode.spellings := by
  unfold ofKeywords?
  split <;> cases mode <;> simp_all [spellings]

theorem mem_keywordLists_iff :
    keywords ∈ keywordLists ↔ ∃ mode : ReturnMode, keywords ∈ mode.spellings := by
  constructor
  · intro h
    simp only [keywordLists, List.mem_cons, List.not_mem_nil, or_false] at h
    rcases h with rfl | rfl | rfl
    · exact ⟨byValue, by decide⟩
    · exact ⟨byRef, by decide⟩
    · exact ⟨byReadonlyRef, by decide⟩
  · rintro ⟨mode, h⟩
    cases mode <;> simp_all [spellings, keywordLists]

theorem ofKeywords?_eq_none_iff : ofKeywords? keywords = none ↔ keywords ∉ keywordLists := by
  rw [mem_keywordLists_iff, Option.eq_none_iff_forall_ne_some]
  simp only [ne_eq, ofKeywords?_eq_some_iff, not_exists]

theorem out_not_mem_of_listed (listed : keywords ∈ keywordLists) : .out ∉ keywords := by
  simp only [keywordLists, List.mem_cons, List.not_mem_nil, or_false] at listed
  rcases listed with rfl | rfl | rfl <;> decide

/-- Only a value is spelled without a keyword. -/
theorem spelled_by_nil_iff {mode : ReturnMode} (h : keywords ∈ mode.spellings) :
    keywords = [] ↔ mode = byValue := by
  cases mode <;> simp_all [spellings]

end ReturnMode

/-! ## The first position -/

/-- The item at the position is the first one that lacks the property. -/
structure FirstFailing {α : Type} (P : α → Prop) (xs : List α) (i : Nat) (x : α) : Prop where
  found : xs[i]? = some x
  fails : ¬P x
  earlier : ∀ j < i, ∀ y, xs[j]? = some y → P y

namespace FirstFailing

variable {α : Type} {P : α → Prop} {x y : α} {xs : List α} {i : Nat}

theorem not_all (h : FirstFailing P xs i x) : ¬∀ y ∈ xs, P y :=
  fun all => h.fails (all x (List.mem_of_getElem? h.found))

theorem zero (fails : ¬P x) : FirstFailing P (x :: xs) 0 x := by
  refine ⟨rfl, fails, ?_⟩
  intro j hj
  omega

theorem succ (passes : P y) (h : FirstFailing P xs i x) : FirstFailing P (y :: xs) (i + 1) x := by
  refine ⟨h.found, h.fails, ?_⟩
  intro j hj z hz
  cases j with
  | zero =>
    obtain rfl := Option.some.inj hz
    exact passes
  | succ j => exact h.earlier j (by omega) z hz

/-- It is the first item, or the first failing one of those after a first item that passes. -/
theorem cons_cases (h : FirstFailing P (y :: xs) i x) :
    (i = 0 ∧ x = y ∧ ¬P y) ∨ ∃ j, i = j + 1 ∧ P y ∧ FirstFailing P xs j x := by
  cases i with
  | zero =>
    obtain rfl := Option.some.inj h.found
    exact .inl ⟨rfl, rfl, h.fails⟩
  | succ j =>
    have passes : P y := h.earlier 0 (by omega) y rfl
    refine .inr ⟨j, rfl, passes, h.found, h.fails, ?_⟩
    intro k hk z hz
    exact h.earlier (k + 1) (by omega) z hz

theorem iff_findIdx? {p : α → Bool} (test : ∀ x, p x = true ↔ ¬P x) :
    (∃ x, FirstFailing P xs i x) ↔ xs.findIdx? p = some i := by
  rw [List.findIdx?_eq_some_iff_getElem]
  constructor
  · rintro ⟨x, h⟩
    obtain ⟨inside, rfl⟩ := List.getElem?_eq_some_iff.mp h.found
    refine ⟨inside, (test _).mpr h.fails, ?_⟩
    intro j hj found
    exact (test _).mp found (h.earlier j hj _ (List.getElem?_eq_getElem _))
  · rintro ⟨inside, found, earlier⟩
    refine ⟨xs[i], List.getElem?_eq_getElem inside, (test _).mp found, ?_⟩
    intro j hj y hy
    obtain ⟨_, rfl⟩ := List.getElem?_eq_some_iff.mp hy
    by_contra fails
    exact earlier j hj ((test _).mpr fails)

end FirstFailing

/-! ## The faults of each stage -/

namespace Signature

variable {ws : List Written} {w : Written} {c : Convention} {s : Signature} {error : FormationError}

/-- The keywords of every parameter come before everything else. -/
theorem readParams_eq_error_iff {index : Nat} :
    readParams index ws = .error error ↔
      ∃ i keywords, FirstFailing (· ∈ ParamMode.keywordLists) (ws.map Written.keywords) i keywords ∧
        error = .invalidKeywords (.parameter (index + i)) keywords := by
  induction ws generalizing index with
  | nil =>
    constructor
    · intro h
      cases h
    · rintro ⟨i, keywords, first, -⟩
      exact absurd first.found (by simp)
  | cons v vs ih =>
    unfold readParams
    rw [List.map_cons]
    cases spelled : ParamMode.ofKeywords? v.keywords with
    | none =>
      have unlisted : v.keywords ∉ ParamMode.keywordLists := ParamMode.ofKeywords?_eq_none_iff.mp spelled
      simp only [Except.error.injEq]
      constructor
      · rintro rfl
        exact ⟨0, v.keywords, .zero unlisted, rfl⟩
      · rintro ⟨i, keywords, first, rfl⟩
        rcases first.cons_cases with ⟨rfl, rfl, -⟩ | ⟨_, _, listed, -⟩
        · rfl
        · exact absurd listed unlisted
    | some mode =>
      have listed : v.keywords ∈ ParamMode.keywordLists :=
        ParamMode.mem_keywordLists_iff.mpr ⟨mode, ParamMode.ofKeywords?_eq_some_iff.mp spelled⟩
      rw [bind_eq_error_iff]
      simp only [pure, Except.pure, reduceCtorEq, and_false, exists_false, or_false, ih]
      constructor
      · rintro ⟨i, keywords, first, rfl⟩
        refine ⟨i + 1, keywords, first.succ listed, ?_⟩
        rw [Nat.add_assoc, Nat.add_comm 1 i]
      · rintro ⟨i, keywords, first, rfl⟩
        rcases first.cons_cases with ⟨_, rfl, unlisted⟩ | ⟨j, rfl, -, rest⟩
        · exact absurd listed unlisted
        · refine ⟨j, keywords, rest, ?_⟩
          rw [Nat.add_assoc, Nat.add_comm 1 j]

theorem readReturn_eq_error_iff :
    readReturn w = .error error ↔
      .out ∈ w.keywords ∧ error = .outReturn ∨
        .out ∉ w.keywords ∧ w.keywords ∉ ReturnMode.keywordLists ∧
          error = .invalidKeywords .result w.keywords := by
  unfold readReturn
  by_cases out : .out ∈ w.keywords
  · simp [out, eq_comm (a := error)]
  · rw [← ReturnMode.ofKeywords?_eq_none_iff]
    cases ReturnMode.ofKeywords? w.keywords <;> simp [out, eq_comm (a := error)]

theorem make_eq_error_iff {params : List Param} {ret : Return} :
    make params ret c = .error error ↔
      (∃ i, FirstFailing (· ≠ .void) (params.map Param.ty) i .void ∧ error = .voidParameter i) ∨
        (∀ p ∈ params, p.ty ≠ .void) ∧ ret.ty = .void ∧ ret.mode ≠ .byValue ∧
          error = .voidByReference := by
  have first (i : Nat) : FirstFailing (· ≠ .void) (params.map Param.ty) i .void ↔
      (params.findIdx? fun p => p.ty.isVoid) = some i := by
    have index : (∃ t, FirstFailing (· ≠ .void) (params.map Param.ty) i t) ↔
        (params.map Param.ty).findIdx? Ty.isVoid = some i :=
      FirstFailing.iff_findIdx? fun t => by rw [Ty.isVoid_iff, not_not]
    rw [List.findIdx?_map] at index
    refine Iff.trans ⟨fun h => ⟨_, h⟩, ?_⟩ index
    rintro ⟨t, h⟩
    rwa [not_not.mp h.fails] at h
  have reference : (ret.ty.isVoid && ret.mode.isByRef) = true ↔
      ret.ty = .void ∧ ret.mode ≠ .byValue := by
    rw [Bool.and_eq_true, Ty.isVoid_iff, ReturnMode.isByRef, bne_iff_ne]
  simp only [first]
  unfold make
  cases found : params.findIdx? fun p => p.ty.isVoid with
  | some index =>
    have void : ¬∀ p ∈ params, p.ty ≠ .void := by
      rw [← List.forall_mem_map (f := Param.ty) (P := (· ≠ .void))]
      exact ((first index).mpr found).not_all
    simp [void, eq_comm (a := error)]
  | none =>
    have noVoid : ∀ p ∈ params, p.ty ≠ .void := by
      intro p hp void
      have := List.findIdx?_eq_none_iff.mp found p hp
      simp [void, Ty.isVoid] at this
    by_cases h : (ret.ty.isVoid && ret.mode.isByRef) = true
    · obtain ⟨void, byRef⟩ := reference.mp h
      simp only [h, if_true, Except.error.injEq, reduceCtorEq, false_and, exists_false, false_or]
      constructor
      · rintro rfl
        exact ⟨noVoid, void, byRef, rfl⟩
      · rintro ⟨-, -, -, rfl⟩
        rfl
    · have allowed : ¬(ret.ty = .void ∧ ret.mode ≠ .byValue) := mt reference.mpr h
      simp only [h, Bool.false_eq_true, if_false, reduceCtorEq, false_and, exists_false, false_or,
        false_iff]
      rintro ⟨-, void, byRef, -⟩
      exact allowed ⟨void, byRef⟩

/-! ## Written descriptors -/

/-- The written descriptors spell the modes of the signature position by position, and have its types. -/
structure Spelled (ws : List Written) (w : Written) (s : Signature) : Prop where
  params : List.Forall₂ (fun v p => v.keywords ∈ p.mode.spellings ∧ v.ty = p.ty) ws s.params
  ret : w.keywords ∈ s.ret.mode.spellings ∧ w.ty = s.ret.ty

/-- The rules that written descriptors keep if they form a signature. -/
structure Formable (ws : List Written) (w : Written) : Prop where
  paramKeywords : ∀ v ∈ ws, v.keywords ∈ ParamMode.keywordLists
  retKeywords : w.keywords ∈ ReturnMode.keywordLists
  paramTypes : ∀ v ∈ ws, v.ty ≠ .void
  /-- Nothing is returned as a value, under no keyword. -/
  retType : w.ty = .void → w.keywords = []

/-- The error is what is reported for the first fault of the written descriptors. Each fault stands behind
those of the stages before it, and a fault of a parameter behind the parameters before it. -/
inductive FirstFault (ws : List Written) (w : Written) : FormationError → Prop where
  | paramKeywords {i : Nat} {keywords : List Keyword}
      (first : FirstFailing (· ∈ ParamMode.keywordLists) (ws.map Written.keywords) i keywords) :
      FirstFault ws w (.invalidKeywords (.parameter i) keywords)
  | outReturn (params : ∀ v ∈ ws, v.keywords ∈ ParamMode.keywordLists) (out : .out ∈ w.keywords) :
      FirstFault ws w .outReturn
  | retKeywords (params : ∀ v ∈ ws, v.keywords ∈ ParamMode.keywordLists) (noOut : .out ∉ w.keywords)
      (unlisted : w.keywords ∉ ReturnMode.keywordLists) :
      FirstFault ws w (.invalidKeywords .result w.keywords)
  | voidParameter {i : Nat} (params : ∀ v ∈ ws, v.keywords ∈ ParamMode.keywordLists)
      (ret : w.keywords ∈ ReturnMode.keywordLists)
      (first : FirstFailing (· ≠ .void) (ws.map Written.ty) i .void) :
      FirstFault ws w (.voidParameter i)
  | voidByReference (params : ∀ v ∈ ws, v.keywords ∈ ParamMode.keywordLists)
      (ret : w.keywords ∈ ReturnMode.keywordLists) (noVoid : ∀ v ∈ ws, v.ty ≠ .void)
      (void : w.ty = .void) (reference : w.keywords ≠ []) : FirstFault ws w .voidByReference

theorem readParams_eq_ok_iff_spelled {index : Nat} {params : List Param} :
    readParams index ws = .ok params ↔
      List.Forall₂ (fun v p => v.keywords ∈ p.mode.spellings ∧ v.ty = p.ty) ws params := by
  simp only [readParams_eq_ok_iff, ParamMode.ofKeywords?_eq_some_iff]

theorem readReturn_eq_ok_iff_spelled {ret : Return} :
    readReturn w = .ok ret ↔ w.keywords ∈ ret.mode.spellings ∧ w.ty = ret.ty := by
  rw [readReturn_eq_ok_iff, ReturnMode.ofKeywords?_eq_some_iff]

theorem ofWritten_eq_ok_iff_spelled :
    ofWritten ws w c = .ok s ↔
      Spelled ws w s ∧ s.convention = c ∧ (∀ p ∈ s.params, p.ty ≠ .void) ∧
        (s.ret.ty = .void → s.ret.mode = .byValue) := by
  rw [ofWritten_eq_ok_iff, readParams_eq_ok_iff_spelled, readReturn_eq_ok_iff_spelled, make_eq_ok_iff]
  constructor
  · rintro ⟨params, ret, ⟨-, noVoid, noReference⟩, convention⟩
    exact ⟨⟨params, ret⟩, convention, noVoid, noReference⟩
  · rintro ⟨⟨params, ret⟩, convention, noVoid, noReference⟩
    exact ⟨params, ret, ⟨Signature.ext rfl rfl rfl, noVoid, noReference⟩, convention⟩

/-- The types are those of the signature, in order. -/
theorem Spelled.types_eq (h : Spelled ws w s) : ws.map Written.ty = s.params.map Param.ty := by
  rw [← List.forall₂_eq_eq_eq, List.forall₂_map_left_iff, List.forall₂_map_right_iff]
  exact h.params.imp fun _ _ related => related.2

/-! ## What is formed -/

theorem exists_readParams_iff :
    (∃ params, readParams 0 ws = .ok params) ↔ ∀ v ∈ ws, v.keywords ∈ ParamMode.keywordLists := by
  constructor
  · rintro ⟨params, read⟩ v hv
    obtain ⟨p, -, spelled, -⟩ := exists_of_mem_left (readParams_eq_ok_iff_spelled.mp read) hv
    exact ParamMode.mem_keywordLists_iff.mpr ⟨p.mode, spelled⟩
  · intro listed
    cases read : readParams 0 ws with
    | ok params => exact ⟨params, rfl⟩
    | error e =>
      obtain ⟨i, keywords, first, -⟩ := readParams_eq_error_iff.mp read
      exact absurd (List.forall_mem_map.mpr listed) first.not_all

theorem exists_readReturn_iff :
    (∃ ret, readReturn w = .ok ret) ↔ w.keywords ∈ ReturnMode.keywordLists := by
  constructor
  · rintro ⟨ret, read⟩
    exact ReturnMode.mem_keywordLists_iff.mpr ⟨ret.mode, (readReturn_eq_ok_iff_spelled.mp read).1⟩
  · intro listed
    cases read : readReturn w with
    | ok ret => exact ⟨ret, rfl⟩
    | error e =>
      rcases readReturn_eq_error_iff.mp read with ⟨out, -⟩ | ⟨-, unlisted, -⟩
      · exact absurd out (ReturnMode.out_not_mem_of_listed listed)
      · exact absurd listed unlisted

/-- Once the keywords are read, the fault is one of the types. -/
theorem make_eq_error_iff_of_read {params : List Param} {ret : Return}
    (hps : readParams 0 ws = .ok params) (hr : readReturn w = .ok ret) :
    make params ret c = .error error ↔
      (∃ i, FirstFailing (· ≠ .void) (ws.map Written.ty) i .void ∧ error = .voidParameter i) ∨
        (∀ v ∈ ws, v.ty ≠ .void) ∧ w.ty = .void ∧ w.keywords ≠ [] ∧ error = .voidByReference := by
  have spelled : Spelled ws w ⟨params, ret, c⟩ :=
    ⟨readParams_eq_ok_iff_spelled.mp hps, readReturn_eq_ok_iff_spelled.mp hr⟩
  have noVoid : (∀ p ∈ params, p.ty ≠ .void) ↔ ∀ v ∈ ws, v.ty ≠ .void := by
    rw [← List.forall_mem_map (f := Param.ty) (P := (· ≠ .void)),
      ← List.forall_mem_map (f := Written.ty) (P := (· ≠ .void)), spelled.types_eq]
  have value : w.keywords = [] ↔ ret.mode = .byValue := ReturnMode.spelled_by_nil_iff spelled.ret.1
  have ty : w.ty = ret.ty := spelled.ret.2
  rw [make_eq_error_iff, noVoid, spelled.types_eq, ty, ne_eq, ne_eq, value]

theorem ofWritten_eq_error_iff : ofWritten ws w c = .error error ↔ FirstFault ws w error := by
  unfold ofWritten
  simp only [bind_eq_error_iff]
  constructor
  · rintro (paramFault | ⟨params, hps, retFault | ⟨ret, hr, typeFault⟩⟩)
    · obtain ⟨i, keywords, first, rfl⟩ := readParams_eq_error_iff.mp paramFault
      rw [Nat.zero_add]
      exact .paramKeywords first
    · have listed := exists_readParams_iff.mp ⟨params, hps⟩
      rcases readReturn_eq_error_iff.mp retFault with ⟨out, rfl⟩ | ⟨noOut, unlisted, rfl⟩
      · exact .outReturn listed out
      · exact .retKeywords listed noOut unlisted
    · have listed := exists_readParams_iff.mp ⟨params, hps⟩
      have retListed := exists_readReturn_iff.mp ⟨ret, hr⟩
      rcases (make_eq_error_iff_of_read hps hr).mp typeFault with
        ⟨i, first, rfl⟩ | ⟨noVoid, void, reference, rfl⟩
      · exact .voidParameter listed retListed first
      · exact .voidByReference listed retListed noVoid void reference
  · intro fault
    cases fault with
    | @paramKeywords i keywords first =>
      refine .inl (readParams_eq_error_iff.mpr ⟨i, keywords, first, ?_⟩)
      rw [Nat.zero_add]
    | outReturn listed out =>
      obtain ⟨params, hps⟩ := exists_readParams_iff.mpr listed
      exact .inr ⟨params, hps, .inl (readReturn_eq_error_iff.mpr (.inl ⟨out, rfl⟩))⟩
    | retKeywords listed noOut unlisted =>
      obtain ⟨params, hps⟩ := exists_readParams_iff.mpr listed
      exact .inr ⟨params, hps, .inl (readReturn_eq_error_iff.mpr (.inr ⟨noOut, unlisted, rfl⟩))⟩
    | voidParameter listed retListed first =>
      obtain ⟨params, hps⟩ := exists_readParams_iff.mpr listed
      obtain ⟨ret, hr⟩ := exists_readReturn_iff.mpr retListed
      refine .inr ⟨params, hps, .inr ⟨ret, hr, ?_⟩⟩
      exact (make_eq_error_iff_of_read hps hr).mpr (.inl ⟨_, first, rfl⟩)
    | voidByReference listed retListed noVoid void reference =>
      obtain ⟨params, hps⟩ := exists_readParams_iff.mpr listed
      obtain ⟨ret, hr⟩ := exists_readReturn_iff.mpr retListed
      refine .inr ⟨params, hps, .inr ⟨ret, hr, ?_⟩⟩
      exact (make_eq_error_iff_of_read hps hr).mpr (.inr ⟨noVoid, void, reference, rfl⟩)

theorem not_firstFault_of_formable (h : Formable ws w) : ¬FirstFault ws w error := by
  intro fault
  cases fault with
  | paramKeywords first => exact first.not_all (List.forall_mem_map.mpr h.paramKeywords)
  | outReturn _ out => exact ReturnMode.out_not_mem_of_listed h.retKeywords out
  | retKeywords _ _ unlisted => exact unlisted h.retKeywords
  | voidParameter _ _ first => exact first.not_all (List.forall_mem_map.mpr h.paramTypes)
  | voidByReference _ _ _ void reference => exact reference (h.retType void)

theorem exists_ofWritten_iff : (∃ s, ofWritten ws w c = .ok s) ↔ Formable ws w := by
  constructor
  · rintro ⟨s, formed⟩
    obtain ⟨params, ret, -⟩ := ofWritten_eq_ok_iff.mp formed
    obtain ⟨spelled, -, noVoid, noReference⟩ := ofWritten_eq_ok_iff_spelled.mp formed
    refine ⟨exists_readParams_iff.mp ⟨_, params⟩, exists_readReturn_iff.mp ⟨_, ret⟩, ?_, ?_⟩
    · rw [← List.forall_mem_map (f := Written.ty) (P := (· ≠ .void)), spelled.types_eq]
      exact List.forall_mem_map.mpr noVoid
    · intro void
      rw [spelled.ret.2] at void
      exact (ReturnMode.spelled_by_nil_iff spelled.ret.1).mpr (noReference void)
  · intro formable
    cases formed : ofWritten ws w c with
    | ok s => exact ⟨s, rfl⟩
    | error e => exact absurd (ofWritten_eq_error_iff.mp formed) (not_firstFault_of_formable formable)

end Signature

/-! ## Writing the modes back -/

/-- The parameter under the shortest keywords of its mode. -/
def Param.written (p : Param) : Signature.Written :=
  ⟨p.ty, p.mode.keywords⟩

def Return.written (ret : Return) : Signature.Written :=
  ⟨ret.ty, ret.mode.keywords⟩

theorem Signature.spelled_written (s : Signature) :
    Spelled (s.params.map Param.written) s.ret.written s := by
  refine ⟨?_, ReturnMode.ofKeywords?_eq_some_iff.mp s.ret.mode.ofKeywords?_keywords, rfl⟩
  rw [List.forall₂_map_left_iff, List.forall₂_same]
  intro p _
  exact ⟨ParamMode.ofKeywords?_eq_some_iff.mp p.mode.ofKeywords?_keywords, rfl⟩

/-- Whatever spells the modes of a valid signature forms it again. -/
theorem Signature.ofWritten_of_spelled {ws : List Written} {w : Written} {s : Signature} (valid : s.Valid)
    (spelled : Spelled ws w s) : ofWritten ws w s.convention = .ok s := by
  obtain ⟨noVoid, noReference, -⟩ := (valid_iff.mp valid).1
  exact ofWritten_eq_ok_iff_spelled.mpr ⟨spelled, rfl, noVoid, noReference⟩

/-- **What written descriptors form.** They form a signature exactly when the keywords of each descriptor spell
a mode, no parameter is `void` and a `void` return has no keyword. The signature has the modes that the
keywords spell and the types, in order, and whatever spells the modes of a valid signature forms it again, the
shortest spelling included. What forms no signature is refused for its first fault, so `out` in front of a
return is refused as such, unless the keywords of a parameter are refused before it. -/
theorem written_signature (ws : List Signature.Written) (w : Signature.Written) (c : Convention) :
    ((∃ s, Signature.ofWritten ws w c = .ok s) ↔ Signature.Formable ws w) ∧
      (∀ s, Signature.ofWritten ws w c = .ok s → Signature.Spelled ws w s ∧ s.convention = c) ∧
      (∀ s : Signature, s.Valid → s.convention = c → Signature.Spelled ws w s →
        Signature.ofWritten ws w c = .ok s) ∧
      (∀ s : Signature, s.Valid →
        Signature.ofWritten (s.params.map Param.written) s.ret.written s.convention = .ok s) ∧
      (∀ error, Signature.ofWritten ws w c = .error error ↔ Signature.FirstFault ws w error) ∧
      (.out ∈ w.keywords → Signature.ofWritten ws w c = .error .outReturn ∨
        ∃ i keywords, Signature.ofWritten ws w c =
          .error (.invalidKeywords (.parameter i) keywords)) := by
  refine ⟨Signature.exists_ofWritten_iff, ?_, ?_,
    fun s valid => Signature.ofWritten_of_spelled valid s.spelled_written,
    fun _ => Signature.ofWritten_eq_error_iff, ?_⟩
  · intro s formed
    obtain ⟨spelled, convention, -⟩ := Signature.ofWritten_eq_ok_iff_spelled.mp formed
    exact ⟨spelled, convention⟩
  · rintro s valid rfl spelled
    exact Signature.ofWritten_of_spelled valid spelled
  · intro out
    cases read : Signature.readParams 0 ws with
    | ok params =>
      have listed := Signature.exists_readParams_iff.mp ⟨params, read⟩
      exact .inl (Signature.ofWritten_eq_error_iff.mpr (.outReturn listed out))
    | error e =>
      obtain ⟨i, keywords, first, -⟩ := Signature.readParams_eq_error_iff.mp read
      exact .inr ⟨i, keywords, Signature.ofWritten_eq_error_iff.mpr (.paramKeywords first)⟩

/-- A signature with every mode of a parameter, one of them on a data pointer to a handle, is formed from either
spelling of a reference that is only read. -/
theorem signature_written_with_every_mode :
    let called : Signature := ⟨[⟨.voidPtr, .byValue⟩], ⟨.void, .byValue⟩, .stdcall⟩
    let s : Signature := ⟨[⟨.con "int", .byValue⟩, ⟨.con "int", .byRef⟩, ⟨.ptr (.handle called), .byOut⟩,
      ⟨.con "string", .byIn⟩], ⟨.con "long", .byReadonlyRef⟩, .cdecl⟩
    let ws : List Signature.Written := [⟨.con "int", []⟩, ⟨.con "int", [.ref]⟩,
      ⟨.ptr (.handle called), [.out]⟩, ⟨.con "string", [.ref, .readonly]⟩]
    let w : Signature.Written := ⟨.con "long", [.ref, .readonly]⟩
    s.Valid ∧ Signature.Spelled ws w s ∧ Signature.ofWritten ws w .cdecl = .ok s ∧
      Signature.ofWritten (s.params.map Param.written) s.ret.written .cdecl = .ok s := by
  intro called s ws w
  obtain ⟨-, -, rebuilds, writtenBack, -⟩ := written_signature ws w .cdecl
  have valid : s.Valid := by decide +kernel
  have spelled : Signature.Spelled ws w s := by
    refine ⟨.cons ⟨?_, rfl⟩ (.cons ⟨?_, rfl⟩ (.cons ⟨?_, rfl⟩ (.cons ⟨?_, rfl⟩ .nil))), ?_, rfl⟩ <;>
      decide
  exact ⟨valid, spelled, rebuilds s valid rfl spelled, writtenBack s valid⟩

/-- A `void` parameter, a list of keywords that is no mode and `out` on a return are all wrong here, and the
keywords are what is reported. -/
example :
    Signature.ofWritten [⟨.void, []⟩, ⟨.con "int", [.out, .readIn]⟩] ⟨.void, [.ref, .out]⟩ .managed =
      .error (.invalidKeywords (.parameter 1) [.out, .readIn]) := by
  decide

end CallHandle
