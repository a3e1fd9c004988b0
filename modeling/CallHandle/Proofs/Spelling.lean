import CallHandle.Proofs.Lookup
import CallHandle.Proofs.Nesting
import CallHandle.Signature.Text

/-!
# What a written form tells

A written form has no quotes and no escapes, so it can be told apart only where its parts end. A name
ends at a delimiter, the stars of a pointer end at what is not a star, and a signature ends at the
bracket that closes it. What follows a type inside a signature is a comma or a closing bracket, never a
space, and that is what keeps a type from being taken for a keyword:

* `Ty.Legible`: the types of which this holds, and `Ty.Legible.starred_base`, by which such a type is what
  it is written as before its stars and their number;
* `Ty.Determined.after_keywords`, `Signature.descriptors_inj`: keywords and types, then whole descriptors,
  are told apart when the types in them are;
* `Ty.Legible.base_determined`: so they are at every depth;
* `written_form_determines`: equal texts are those of equal types and signatures.
-/

namespace CallHandle

/-! ## Runs of characters -/

/-- Two runs of one kind of character are the same run when neither goes on. -/
theorem run_inj {p : Char → Prop} {v w x y : List Char} (hv : ∀ c ∈ v, p c) (hw : ∀ c ∈ w, p c)
    (hx : ∀ c ∈ x.head?, ¬ p c) (hy : ∀ c ∈ y.head?, ¬ p c) (h : v ++ x = w ++ y) :
    v = w ∧ x = y := by
  induction v generalizing w with
  | nil =>
    cases w with
    | nil => exact ⟨rfl, h⟩
    | cons c w => exact absurd (hw c (by simp)) (hx c (by simp [show x = _ from h]))
  | cons c v ih =>
    cases w with
    | nil => exact absurd (hv c (by simp)) (hy c (by simp [show y = _ from h.symm]))
    | cons d w =>
      simp only [List.cons_append, List.cons.injEq] at h
      obtain ⟨rfl, rest⟩ := h
      obtain ⟨rfl, same⟩ := ih (fun c hc => hv c (.tail _ hc)) (fun c hc => hw c (.tail _ hc)) rest
      exact ⟨rfl, same⟩

/-- The characters that stand between the parts of a written form. -/
def delimiters : List Char :=
  [' ', ',', '<', '>', '*', '[', ']']

/-- A name that no part of a written form can cut short. -/
def Undelimited (name : String) : Prop :=
  ∀ c ∈ name.toList, c ∉ delimiters

instance : DecidablePred Undelimited := fun name =>
  decidable_of_iff (name.toList.all fun c => c ∉ delimiters) (by simp [Undelimited])

/-- What may follow a type: nothing, the next descriptor or the end of the signature. -/
def Closes (x : List Char) : Prop :=
  ∀ c ∈ x.head?, c = ',' ∨ c = '>'

theorem word_inj {v w : String} {x y : List Char} (hv : Undelimited v) (hw : Undelimited w)
    (hx : ∀ c ∈ x.head?, c ∈ delimiters) (hy : ∀ c ∈ y.head?, c ∈ delimiters)
    (h : v.toList ++ x = w.toList ++ y) : v = w ∧ x = y := by
  obtain ⟨same, rest⟩ := run_inj hv hw (fun c hc => not_not_intro (hx c hc))
    (fun c hc => not_not_intro (hy c hc)) h
  exact ⟨String.toList_inj.mp same, rest⟩

theorem stars_inj {m n : Nat} {x y : List Char} (hx : ∀ c ∈ x.head?, c ≠ '*')
    (hy : ∀ c ∈ y.head?, c ≠ '*') (h : List.replicate m '*' ++ x = List.replicate n '*' ++ y) :
    m = n ∧ x = y := by
  obtain ⟨same, rest⟩ := run_inj (p := (· = '*')) (fun c hc => List.eq_of_mem_replicate hc)
    (fun c hc => List.eq_of_mem_replicate hc) hx hy h
  exact ⟨by simpa using congrArg List.length same, rest⟩

theorem Closes.ne_star {x : List Char} (h : Closes x) : ∀ c ∈ x.head?, c ≠ '*' := by
  intro c hc
  rcases h c hc with rfl | rfl <;> decide

/-- Between a type's word and what follows the type there are only stars. -/
theorem Closes.after_stars {x : List Char} (h : Closes x) (n : Nat) :
    ∀ c ∈ (List.replicate n '*' ++ x).head?, c ∈ delimiters ∧ c ≠ ' ' := by
  cases n with
  | zero =>
    intro c hc
    rcases h c hc with rfl | rfl <;> decide
  | succ n =>
    intro c hc
    obtain rfl : c = '*' := by simpa [List.replicate_succ, eq_comm] using hc
    decide

/-! ## Openings -/

/-- What names the convention in a signature. The managed one is understood. -/
def Convention.clause : Convention → String
  | managed => ""
  | convention => " " ++ convention.text

theorem Convention.clause_of_ne {c : Convention} (h : c ≠ managed) : c.clause = " " ++ c.text := by
  cases c with
  | managed => exact absurd rfl h
  | cdecl | stdcall | thiscall | unmanagedDefault | extension => rfl

theorem Convention.text_eq_of_clause_eq {c d : Convention} (h : c.clause = d.clause) :
    c.text = d.text := by
  have blank (c : Convention) (hc : c ≠ managed) : c.clause ≠ "" := by
    simp [clause_of_ne hc]
  by_cases hc : c = managed <;> by_cases hd : d = managed
  · rw [hc, hd]
  · rw [hc] at h
    exact absurd h.symm (blank d hd)
  · rw [hd] at h
    exact absurd h (blank c hc)
  · rw [clause_of_ne hc, clause_of_ne hd] at h
    simpa using h

theorem Convention.not_mem_clause {c : Convention} (h : Undelimited c.name) :
    '<' ∉ c.clause.toList := by
  cases c with
  | managed | cdecl | stdcall | thiscall | unmanagedDefault => decide +kernel
  | extension tag =>
    have name : '<' ∉ tag.name.toList := fun mem => h _ mem (by decide)
    simpa [clause, text, Convention.name] using name

theorem Signature.opening_eq (c : Convention) :
    Signature.opening c = "delegate*" ++ c.clause ++ "<" := by
  cases c with
  | managed => rfl
  | cdecl | stdcall | thiscall | unmanagedDefault => decide +kernel
  | extension tag => simp [opening, Convention.clause, ← String.toList_inj]

theorem Signature.text_eq (s : Signature) :
    s.text.toList = "delegate".toList ++ '*' :: (s.convention.clause.toList ++
      '<' :: ((Signature.textOf s.params).toList ++ (s.ret.text.toList ++ ['>']))) := by
  obtain ⟨params, ret, convention⟩ := s
  simp [text, opening_eq]

/-- A signature opens with a word, one star, and what no type has behind its stars. -/
theorem Signature.exists_of_text (s : Signature) : ∃ c rest,
    s.text.toList = "delegate".toList ++ '*' :: c :: rest ∧ (c = '<' ∨ c = ' ') := by
  rw [s.text_eq]
  by_cases h : s.convention = .managed
  · rw [h]
    exact ⟨'<', _, by rfl, .inl rfl⟩
  · rw [Convention.clause_of_ne h]
    exact ⟨' ', _, by simp; rfl, .inr rfl⟩

/-! ## Types behind their stars -/

namespace Ty

/-- What a type is written as before its stars. Both types spelled with `void` have the same one. -/
def base : Ty → Ty
  | con name => con name
  | ptr pointee => pointee.base
  | voidPtr | void => void
  | handle s => handle s

def stars : Ty → Nat
  | ptr pointee => pointee.stars + 1
  | voidPtr => 1
  | con _ | handle _ | void => 0

/-- The type with a base and a number of stars, where a pointer to nothing is the untyped one. -/
def starred (base : Ty) : Nat → Ty
  | 0 => base
  | n + 1 => if base = void ∧ n = 0 then voidPtr else ptr (base.starred n)

/-- The type that a word spells. -/
def ofWord (word : String) : Ty :=
  if word = "void" then void else con word

theorem text_eq_base (t : Ty) : t.text.toList = t.base.text.toList ++ List.replicate t.stars '*' := by
  induction t with
  | con | handle | void => simp [base, stars]
  | voidPtr => rfl
  | ptr pointee ih => simp [text, base, stars, ih, List.replicate_succ']

/-- The types whose written form can be told apart. Their names are free of delimiters, none of them is
named `void`, no data pointer points to nothing, and the registry knows their conventions. -/
inductive Legible (r : Registry) : Ty → Prop where
  | con {name : String} (free : name ≠ "void") (undelimited : Undelimited name) : Legible r (con name)
  | ptr {pointee : Ty} (something : pointee ≠ .void) (legible : Legible r pointee) :
    Legible r (ptr pointee)
  | voidPtr : Legible r voidPtr
  | handle {s : Signature} (params : ∀ p ∈ s.params, Legible r p.ty) (ret : Legible r s.ret.ty)
    (known : s.convention ∈ r.conventions) (undelimited : Undelimited s.convention.name) :
    Legible r (handle s)
  | void : Legible r void

variable {r : Registry} {t u : Ty}

theorem Legible.starred_base (h : t.Legible r) : t.base.starred t.stars = t := by
  induction t with
  | con | handle | void => rfl
  | voidPtr => simp [base, stars, starred]
  | ptr pointee ih =>
    cases h with
    | ptr something legible =>
      have known := ih legible
      have two : ¬ (pointee.base = .void ∧ pointee.stars = 0) := by
        rintro ⟨nothing, bare⟩
        rw [nothing, bare] at known
        exact something known.symm
      rw [base, stars, starred, if_neg two, known]

theorem Legible.base_cases (h : t.Legible r) :
    (∃ s, t.base = .handle s ∧ (Ty.handle s).Legible r) ∨
      Undelimited t.base.text ∧ t.base = ofWord t.base.text := by
  induction t with
  | con name =>
    cases h with
    | con free undelimited => exact .inr ⟨undelimited, by simp [base, text, ofWord, free]⟩
  | ptr pointee ih =>
    cases h with
    | ptr _ legible => exact ih legible
  | voidPtr | void => exact .inr ⟨by decide +kernel, by decide +kernel⟩
  | handle s => exact .inl ⟨s, rfl, h⟩

/-- A type as a word would be read: its stars, or whatever follows it, end the word. -/
theorem Legible.first_word (h : t.Legible r) {x : List Char} (closes : Closes x) :
    ∃ word rest, t.text.toList ++ x = word.toList ++ rest ∧ Undelimited word ∧
      ∀ c ∈ rest.head?, c ∈ delimiters ∧ c ≠ ' ' := by
  rw [text_eq_base, List.append_assoc]
  rcases h.base_cases with ⟨s, hs, -⟩ | ⟨undelimited, -⟩
  · obtain ⟨c, rest, opened, -⟩ := s.exists_of_text
    refine ⟨"delegate", '*' :: c :: (rest ++ (List.replicate t.stars '*' ++ x)), ?_,
      by decide +kernel, by simp [delimiters]⟩
    rw [hs, text, opened, List.append_assoc]
    rfl
  · exact ⟨t.base.text, _, rfl, undelimited, closes.after_stars t.stars⟩

end Ty

/-! ## One level of nesting -/

/-- The text of a legible type tells it and ends where what follows the type begins. -/
def Ty.Determined (r : Registry) (t : Ty) : Prop :=
  ∀ (u : Ty) (x y : List Char), u.Legible r → Closes x → Closes y →
    t.text.toList ++ x = u.text.toList ++ y → t = u ∧ x = y

/-- The text of a signature does so whatever follows, because its last bracket closes it. -/
def Signature.Determined (r : Registry) (s : Signature) : Prop :=
  ∀ (s' : Signature) (x y : List Char), (Ty.handle s').Legible r →
    s.text.toList ++ x = s'.text.toList ++ y → s = s' ∧ x = y

variable {r : Registry}

theorem word_ne_signature {word : String} (hw : Undelimited word) (s : Signature) (n : Nat)
    {x y : List Char} (closes : Closes x) :
    word.toList ++ (List.replicate n '*' ++ x) ≠ s.text.toList ++ y := by
  intro h
  obtain ⟨c, rest, opened, hc⟩ := s.exists_of_text
  rw [opened, List.append_assoc] at h
  obtain ⟨-, stars⟩ := word_inj hw (by decide +kernel) (fun d hd => (closes.after_stars n d hd).1)
    (by simp [delimiters]) h
  -- One star, and then a character that ends no type.
  obtain ⟨-, rfl⟩ := stars_inj (n := 1) closes.ne_star
    (by rcases hc with rfl | rfl <;> simp) (stars : _ = _ ++ (c :: (rest ++ y)))
  rcases hc with rfl | rfl <;> simp [Closes] at closes

theorem Ty.Legible.determined {t : Ty} (ht : t.Legible r)
    (base : ∀ s, t.base = .handle s → s.Determined r) : t.Determined r := by
  intro u x y hu hx hy h
  rw [t.text_eq_base, u.text_eq_base, List.append_assoc, List.append_assoc] at h
  have parts : t.base = u.base ∧ List.replicate t.stars '*' ++ x = List.replicate u.stars '*' ++ y := by
    rcases ht.base_cases with ⟨s, hs, -⟩ | ⟨word, spelled⟩ <;>
      rcases hu.base_cases with ⟨s', hs', legible⟩ | ⟨word', spelled'⟩
    · rw [hs, hs'] at h ⊢
      obtain ⟨rfl, rest⟩ := base s hs s' _ _ legible h
      exact ⟨rfl, rest⟩
    · rw [hs] at h
      exact absurd h.symm (word_ne_signature word' s _ hy)
    · rw [hs'] at h
      exact absurd h (word_ne_signature word s' _ hx)
    · obtain ⟨same, rest⟩ := word_inj word word' (fun c hc => (hx.after_stars _ c hc).1)
        (fun c hc => (hy.after_stars _ c hc).1) h
      rw [spelled, spelled', same]
      exact ⟨rfl, rest⟩
  obtain ⟨sameBase, stars⟩ := parts
  obtain ⟨sameStars, rest⟩ := stars_inj hx.ne_star hy.ne_star stars
  rw [← ht.starred_base, ← hu.starred_base, sameBase, sameStars]
  exact ⟨rfl, rest⟩

/-! ## Descriptors -/

/-- Keywords as they stand in front of a type. -/
def Keyword.lead (keywords : List Keyword) : List Char :=
  keywords.flatMap fun k => k.text.toList ++ [' ']

theorem Param.text_eq (p : Param) : p.text.toList = Keyword.lead p.mode.keywords ++ p.ty.text.toList := by
  obtain ⟨ty, mode⟩ := p
  cases mode <;> simp [text, ParamMode.keyword?, ParamMode.keywords, Keyword.lead, Keyword.text]

theorem Return.text_eq (q : Return) : q.text.toList = Keyword.lead q.mode.keywords ++ q.ty.text.toList := by
  obtain ⟨ty, mode⟩ := q
  cases mode <;> simp [text, ReturnMode.keyword?, ReturnMode.keywords, Keyword.lead, Keyword.text]

theorem Keyword.undelimited_text (k : Keyword) : Undelimited k.text := by
  cases k <;> decide +kernel

theorem Keyword.text_inj {k l : Keyword} (h : k.text = l.text) : k = l := by
  cases k <;> cases l <;> first | rfl | exact absurd h (by decide)

/-- A type is never read as a keyword, because no space follows its first word. -/
theorem Ty.Legible.ne_keyword {t : Ty} (h : t.Legible r) {x : List Char} (closes : Closes x)
    (k : Keyword) (y : List Char) : t.text.toList ++ x ≠ k.text.toList ++ ' ' :: y := by
  intro same
  obtain ⟨word, rest, read, undelimited, ends⟩ := h.first_word closes
  rw [read] at same
  obtain ⟨-, rfl⟩ := word_inj undelimited k.undelimited_text (fun c hc => (ends c hc).1)
    (by simp [delimiters]) same
  exact (ends ' ' rfl).2 rfl

theorem Ty.Determined.after_keywords {t u : Ty} (ht : t.Legible r) (hu : u.Legible r)
    (determined : t.Determined r) {ks ls : List Keyword} {x y : List Char} (hx : Closes x)
    (hy : Closes y)
    (h : Keyword.lead ks ++ t.text.toList ++ x = Keyword.lead ls ++ u.text.toList ++ y) :
    ks = ls ∧ t = u ∧ x = y := by
  induction ks generalizing ls with
  | nil =>
    cases ls with
    | nil => exact ⟨rfl, determined u x y hu hx hy h⟩
    | cons l ls =>
      refine absurd ?_ (ht.ne_keyword hx l (Keyword.lead ls ++ u.text.toList ++ y))
      simpa [Keyword.lead] using h
  | cons k ks ih =>
    cases ls with
    | nil =>
      refine absurd ?_ (hu.ne_keyword hy k (Keyword.lead ks ++ t.text.toList ++ x))
      simpa [Keyword.lead] using h.symm
    | cons l ls =>
      have split : k.text.toList ++ ' ' :: (Keyword.lead ks ++ t.text.toList ++ x) =
          l.text.toList ++ ' ' :: (Keyword.lead ls ++ u.text.toList ++ y) := by
        simpa [Keyword.lead] using h
      obtain ⟨first, rest⟩ := word_inj k.undelimited_text l.undelimited_text (by simp [delimiters])
        (by simp [delimiters]) split
      obtain ⟨rfl, same⟩ := ih (List.cons.inj rest).2
      exact ⟨by rw [Keyword.text_inj first], same⟩

theorem ParamMode.keywords_inj {m n : ParamMode} (h : m.keywords = n.keywords) : m = n :=
  Option.some.inj (by rw [← ofKeywords?_keywords, h, ofKeywords?_keywords])

theorem ReturnMode.keywords_inj {m n : ReturnMode} (h : m.keywords = n.keywords) : m = n :=
  Option.some.inj (by rw [← ofKeywords?_keywords, h, ofKeywords?_keywords])

namespace Signature

theorem textOf_cons (p : Param) (ps : List Param) (z : List Char) :
    (textOf (p :: ps)).toList ++ z =
      Keyword.lead p.mode.keywords ++ p.ty.text.toList ++ ',' :: ' ' :: ((textOf ps).toList ++ z) := by
  simp [textOf, Param.text_eq]

/-- Parameters and a return are told apart from each other too: a comma follows every parameter, and a
bracket follows the return. -/
theorem descriptors_inj {ps qs : List Param} {p q : Return} {x y : List Char}
    (hps : ∀ param ∈ ps, param.ty.Legible r ∧ param.ty.Determined r)
    (hp : p.ty.Legible r ∧ p.ty.Determined r) (hqs : ∀ param ∈ qs, param.ty.Legible r)
    (hq : q.ty.Legible r)
    (h : (textOf ps).toList ++ (p.text.toList ++ '>' :: x) =
      (textOf qs).toList ++ (q.text.toList ++ '>' :: y)) :
    ps = qs ∧ p = q ∧ x = y := by
  have comma (z : List Char) : Closes (',' :: z) := by simp [Closes]
  have bracket (z : List Char) : Closes ('>' :: z) := by simp [Closes]
  induction ps generalizing qs with
  | nil =>
    cases qs with
    | nil =>
      rw [p.text_eq, q.text_eq] at h
      obtain ⟨modes, types, rest⟩ := hp.2.after_keywords hp.1 hq (bracket x) (bracket y) h
      exact ⟨rfl, Return.ext types (ReturnMode.keywords_inj modes), (List.cons.inj rest).2⟩
    | cons param qs =>
      rw [textOf_cons, p.text_eq] at h
      obtain ⟨-, -, rest⟩ :=
        hp.2.after_keywords hp.1 (hqs param (.head _)) (bracket x) (comma _) h
      exact absurd (List.cons.inj rest).1 (by decide)
  | cons param ps ih =>
    obtain ⟨legible, determined⟩ := hps param (.head _)
    cases qs with
    | nil =>
      rw [textOf_cons, q.text_eq] at h
      obtain ⟨-, -, rest⟩ := determined.after_keywords legible hq (comma _) (bracket y) h
      exact absurd (List.cons.inj rest).1 (by decide)
    | cons param' qs =>
      rw [textOf_cons, textOf_cons] at h
      obtain ⟨modes, types, rest⟩ :=
        determined.after_keywords legible (hqs param' (.head _)) (comma _) (comma _) h
      obtain ⟨rfl, same⟩ := ih (fun p hp => hps p (.tail _ hp)) (fun p hp => hqs p (.tail _ hp))
        (by simpa using rest)
      exact ⟨by rw [Param.ext types (ParamMode.keywords_inj modes)], same⟩

end Signature

theorem Convention.opening_inj {c d : Convention} (reachable : r.Reachable)
    (hc : c ∈ r.conventions) (hd : d ∈ r.conventions) (undelimited : Undelimited c.name)
    (undelimited' : Undelimited d.name) {x y : List Char}
    (h : c.clause.toList ++ '<' :: x = d.clause.toList ++ '<' :: y) : c = d ∧ x = y := by
  obtain ⟨clauses, rest⟩ := run_inj (p := (· ≠ '<'))
    (fun _ mem => ne_of_mem_of_not_mem mem (not_mem_clause undelimited))
    (fun _ mem => ne_of_mem_of_not_mem mem (not_mem_clause undelimited')) (by simp) (by simp) h
  have names := name_eq_of_text_eq (text_eq_of_clause_eq (String.toList_inj.mp clauses))
  exact ⟨List.inj_on_of_nodup_map reachable.coherent.keys hc hd (by rw [names]),
    (List.cons.inj rest).2⟩

theorem Signature.determined {s : Signature} (reachable : r.Reachable) (legible : (Ty.handle s).Legible r)
    (params : ∀ p ∈ s.params, p.ty.Determined r) (ret : s.ret.ty.Determined r) : s.Determined r := by
  intro s' x y legible' h
  cases legible with
  | handle hps hp hc name =>
  cases legible' with
  | handle hqs hq hd name' =>
  rw [s.text_eq, s'.text_eq] at h
  simp only [List.append_assoc, List.cons_append, List.append_cancel_left_eq, List.cons.injEq,
    true_and, List.nil_append] at h
  obtain ⟨conventions, descriptors⟩ := Convention.opening_inj reachable hc hd name name' h
  obtain ⟨sameParams, sameRet, rest⟩ := descriptors_inj (fun p hp => ⟨hps p hp, params p hp⟩)
    ⟨hp, ret⟩ hqs hq descriptors
  exact ⟨Signature.ext sameParams sameRet conventions, rest⟩

/-- The signature in front of a type's stars is told by its text, by induction over the nesting. -/
theorem Ty.Legible.base_determined (reachable : r.Reachable) {t : Ty} (legible : t.Legible r) :
    ∀ s, t.base = .handle s → s.Determined r := by
  induction t with
  | con | voidPtr | void =>
    intro s hs
    cases hs
  | ptr pointee ih =>
    cases legible with
    | ptr _ legible => exact ih legible
  | handle s params ret =>
    rintro _ ⟨⟩
    cases legible with
    | handle hps hp known undelimited =>
      exact Signature.determined reachable (.handle hps hp known undelimited)
        (fun p mem => (hps p mem).determined (params p mem (hps p mem))) (hp.determined (ret hp))

/-- **The written form tells the type.** Two legible types, or two legible signatures, are written alike
only if they are equal, at every depth, when one registry that registrations left behind knows their
conventions. Letters, digits and underscores make legible names, and so does all that is not ASCII. -/
theorem written_form_determines (r : Registry) (reachable : r.Reachable) :
    (∀ t u : Ty, t.Legible r → u.Legible r → (t.text = u.text ↔ t = u)) ∧
    (∀ s s' : Signature, (Ty.handle s).Legible r → (Ty.handle s').Legible r →
      (s.text = s'.text ↔ s = s')) ∧
    ∀ name : String, (∀ c ∈ name.toList, c.isAlphanum ∨ c = '_' ∨ 0x80 ≤ c.toNat) →
      Undelimited name := by
  have types (t u : Ty) (ht : t.Legible r) (hu : u.Legible r) : t.text = u.text ↔ t = u := by
    refine ⟨fun same => ?_, congrArg Ty.text⟩
    have nothing : Closes [] := by simp [Closes]
    exact (ht.determined (ht.base_determined reachable) u [] [] hu nothing nothing (by rw [same])).1
  refine ⟨types, fun s s' hs hs' => ?_, fun name word c hc delimiter => ?_⟩
  · rw [← Ty.handle.injEq, ← types _ _ hs hs', Ty.text, Ty.text]
  · have outside : ∀ d ∈ delimiters, ¬ (d.isAlphanum ∨ d = '_' ∨ 0x80 ≤ d.toNat) := by
      simp [delimiters]
    exact outside c delimiter (word c hc)

/-- A keyword and the word that opens a handle are names like any other, so `ref readonly` before a type
is not taken for a reference to a type `readonly`, nor two stars behind `delegate` for a handle. -/
theorem keyword_names_are_told_apart :
    let r := Registry.empty.after ["Fast_1"]
    let fast := Convention.extension ⟨0x10, "Fast_1"⟩
    let inner : Signature := ⟨[⟨.ptr (.con "delegate"), .byRef⟩], ⟨.con "readonly", .byRef⟩, fast⟩
    let s : Signature := ⟨[⟨.con "ref", .byValue⟩, ⟨.ptr (.handle inner), .byIn⟩],
      ⟨.con "readonly", .byReadonlyRef⟩, .managed⟩
    let s' : Signature := ⟨[⟨.con "ref", .byValue⟩, ⟨.ptr (.handle inner), .byIn⟩],
      ⟨.con "readonly", .byRef⟩, .managed⟩
    (Ty.handle s).Legible r ∧ (Ty.handle s').Legible r ∧
      s.text = "delegate*<ref, in delegate* unmanaged[Fast_1]<ref delegate*, ref readonly>*, " ++
        "ref readonly readonly>" ∧
      s.text ≠ s'.text ∧ (Ty.ptr (.ptr (.con "delegate"))).text ≠ (Ty.ptr (.handle s)).text := by
  intro r fast inner s s'
  obtain ⟨types, signatures, word⟩ := written_form_determines r ⟨["Fast_1"], rfl⟩
  have named (name : String) (free : name ≠ "void")
      (letters : name.toList.all Char.isAlphanum) : (Ty.con name).Legible r :=
    .con free (word name fun c hc => .inl (List.all_eq_true.mp letters c hc))
  have delegate := named "delegate" (by decide) (by decide +kernel)
  have readonly := named "readonly" (by decide) (by decide +kernel)
  have legibleInner : (Ty.handle inner).Legible r :=
    .handle (by simpa [inner] using .ptr (by decide +kernel) delegate) readonly (by decide +kernel)
      (by decide +kernel)
  have params : ∀ p ∈ s.params, p.ty.Legible r := by
    simpa [s] using ⟨named "ref" (by decide) (by decide +kernel),
      .ptr (by decide +kernel) legibleInner⟩
  have legible : (Ty.handle s).Legible r :=
    .handle params readonly (by decide +kernel) (by decide +kernel)
  have legible' : (Ty.handle s').Legible r :=
    .handle params readonly (by decide +kernel) (by decide +kernel)
  refine ⟨legible, legible', by decide +kernel, ?_, ?_⟩
  · rw [ne_eq, signatures s s' legible legible']
    decide +kernel
  · rw [ne_eq, types _ _ (.ptr (by decide +kernel) (.ptr (by decide +kernel) delegate))
      (.ptr (by decide +kernel) legible)]
    decide +kernel

-- A data pointer to nothing is not legible, because it is written like the untyped pointer.
example : (Ty.ptr .void).text = Ty.voidPtr.text := rfl

end CallHandle
