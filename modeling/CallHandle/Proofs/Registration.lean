import CallHandle.Proofs.Lookup
import Mathlib.Data.List.Induction

namespace CallHandle

/-- The extension that is the `i`th to be given a byte. -/
def Extension.nth (i : Nat) (name : String) : Extension :=
  ⟨UInt8.ofNat (firstCode.toNat + i), name⟩

namespace Registry

/-- Whether the name is a built-in convention's. -/
def isBuiltIn (name : String) : Bool :=
  Convention.builtIns.any fun c => key c.name == key name

/-- The names that ask for an extension: no built-in one, and of names that are the same up to case
the first. -/
def newNames (names : List String) : List String :=
  (names.filter fun name => !isBuiltIn name).eraseDupsBy fun m n => key m == key n

/-- The names that ask for an extension once one more name is registered. -/
def ask (fresh : List String) (name : String) : List String :=
  if isBuiltIn name || fresh.any fun n => key n == key name then fresh else fresh ++ [name]

/-- How the registration of a name is answered when `fresh` are all names that ask for an
extension. -/
inductive Answers (fresh : List String) (name : String) :
    Except RegistrationError Convention → Prop where
  | reserved : isBuiltIn name = true → Answers fresh name (.error (.reservedName name))
  | given {i : Nat} {first : String} : isBuiltIn name = false → fresh[i]? = some first →
      key first = key name → i < Extension.capacity →
      Answers fresh name (.ok (.extension (.nth i first)))
  | exhausted {i : Nat} {first : String} : isBuiltIn name = false → fresh[i]? = some first →
      key first = key name → Extension.capacity ≤ i →
      Answers fresh name (.error .codesExhausted)

/-! ## The names that ask for an extension -/

/-- One more element is dropped when an equal one was kept, and comes last otherwise. -/
theorem eraseDupsBy_concat {α β : Type} [BEq β] [LawfulBEq β] (f : α → β) (xs : List α) (x : α) :
    (xs ++ [x]).eraseDupsBy (fun a b => f a == f b) =
      if (xs.eraseDupsBy fun a b => f a == f b).any fun y => f y == f x then
        xs.eraseDupsBy fun a b => f a == f b
      else
        (xs.eraseDupsBy fun a b => f a == f b) ++ [x] := by
  -- What equals the first element is filtered out of the rest, so the induction is on the length.
  match xs with
  | [] => simp [List.eraseDupsBy_cons]
  | y :: ys =>
    rw [List.cons_append, List.eraseDupsBy_cons, List.eraseDupsBy_cons, List.filter_append]
    by_cases same : f x = f y
    · simp [same]
    · have ih := eraseDupsBy_concat f (ys.filter fun b => (f b == f y) = false) x
      have other : f y ≠ f x := Ne.symm same
      simp only [List.filter_cons, List.filter_nil, beq_eq_false_iff_ne.mpr same, decide_true,
        if_true, ih, List.any_cons, beq_eq_false_iff_ne.mpr other, Bool.false_or]
      split <;> rfl
termination_by xs.length
decreasing_by exact Nat.lt_succ_of_le (List.length_filter_le _ _)

theorem newNames_concat (names : List String) (name : String) :
    newNames (names ++ [name]) = ask (newNames names) name := by
  unfold newNames ask
  rw [List.filter_append]
  cases builtIn : isBuiltIn name with
  | true => simp [builtIn]
  | false => simp [builtIn, eraseDupsBy_concat key]

/-- Names that ask keep their places. -/
theorem ask_extends (fresh : List String) (name : String) : fresh <+: ask fresh name := by
  unfold ask
  split
  · exact List.prefix_rfl
  · exact List.prefix_append _ _

theorem exists_newNames {names : List String} {name : String} (hn : name ∈ names)
    (new : isBuiltIn name = false) : ∃ first ∈ newNames names, key first = key name := by
  induction names using List.reverseRecOn with
  | nil => cases hn
  | append_singleton names last ih =>
    rw [newNames_concat]
    rcases List.mem_append.mp hn with earlier | last'
    · obtain ⟨first, hf, same⟩ := ih earlier
      exact ⟨first, (ask_extends _ _).subset hf, same⟩
    · obtain rfl := List.mem_singleton.mp last'
      unfold ask
      split
      · rename_i known
        simpa [new] using known
      · exact ⟨name, List.mem_append_right _ (List.mem_singleton_self _), rfl⟩

/-! ## One registration -/

variable {r : Registry} {fresh : List String} {name : String}

theorem register_of_builtIn (builtIn : isBuiltIn name = true) (r : Registry) :
    r.register name = (.error (.reservedName name), r) := by
  obtain ⟨c, hc⟩ : ∃ c, (Convention.builtIns.find? fun c => key c.name == key name) = some c := by
    rw [← Option.isSome_iff_exists, List.find?_isSome]
    simpa [isBuiltIn] using builtIn
  have found : r.ofName? name = some c := by
    rw [ofName?, conventions, List.find?_append, hc, Option.some_or]
  have member := List.mem_of_find?_eq_some hc
  unfold register
  rw [found]
  cases c with
  | extension => simp [Convention.builtIns] at member
  | _ => rfl

theorem register_of_known {tag : Extension} (known : r.ofName? name = some (.extension tag)) :
    r.register name = (.ok (.extension tag), r) := by
  simp [register, known]

theorem register_of_unknown (unknown : r.ofName? name = none) :
    r.register name =
      if r.extensions.length < Extension.capacity then
        (.ok (.extension (.nth r.extensions.length name)),
          ⟨r.extensions ++ [.nth r.extensions.length name]⟩)
      else
        (.error .codesExhausted, r) := by
  have code : Extension.nth r.extensions.length name =
      ⟨Extension.firstCode + UInt8.ofNat r.extensions.length, name⟩ := by
    rw [Extension.nth, UInt8.ofNat_add]
    rfl
  rw [code]
  unfold register next?
  rw [unknown]
  by_cases room : r.extensions.length < Extension.capacity <;> simp [room]

/-- The registry has the first ones of the names that ask for an extension, and no name asks
twice. -/
structure Records (r : Registry) (fresh : List String) : Prop where
  coherent : r.Coherent
  extensions : r.extensions = (fresh.take Extension.capacity).mapIdx Extension.nth
  distinct : (fresh.map key).Nodup

namespace Records

theorem length_extensions (h : r.Records fresh) :
    r.extensions.length = min Extension.capacity fresh.length := by
  simp [h.extensions]

theorem extension_iff (h : r.Records fresh) {tag : Extension} :
    tag ∈ r.extensions ↔
      ∃ i first, fresh[i]? = some first ∧ i < Extension.capacity ∧ tag = .nth i first := by
  rw [h.extensions, List.mem_iff_getElem?]
  simp only [List.getElem?_mapIdx, List.getElem?_take, Option.map_eq_some_iff]
  constructor
  · rintro ⟨i, first, hi, rfl⟩
    split at hi
    · exact ⟨i, first, hi, ‹_›, rfl⟩
    · cases hi
  · rintro ⟨i, first, hi, room, rfl⟩
    exact ⟨i, first, by rwa [if_pos room], rfl⟩

theorem ofName?_eq_none_iff (h : r.Records fresh) :
    r.ofName? name = none ↔ isBuiltIn name = false ∧
      ∀ i first, fresh[i]? = some first → i < Extension.capacity → key first ≠ key name := by
  rw [Registry.ofName?_eq_none_iff, conventions, isBuiltIn]
  simp only [List.map_append, List.map_map, List.mem_append, List.mem_map, not_or, not_exists,
    not_and, Function.comp_apply, List.any_eq_false, beq_iff_eq, Convention.name, h.extension_iff]
  refine and_congr_right fun _ => ?_
  constructor
  · intro unknown i first hi room
    exact unknown _ ⟨i, first, hi, room, rfl⟩
  · rintro unknown tag ⟨i, first, hi, room, rfl⟩
    exact unknown i first hi room

/-- A position holds one name. -/
theorem position_unique (h : r.Records fresh) {i j : Nat} {m n : String}
    (hi : fresh[i]? = some m) (hj : fresh[j]? = some n) (same : key m = key n) : i = j := by
  have inside : i < (fresh.map key).length := by
    rw [List.length_map]
    exact (List.getElem?_eq_some_iff.mp hi).1
  refine (List.getElem?_inj inside h.distinct).mp ?_
  rw [List.getElem?_map, List.getElem?_map, hi, hj, Option.map_some, Option.map_some, same]

/-- A name that asked before is answered as it was then. -/
theorem register_of_mem (h : r.Records fresh) (new : isBuiltIn name = false) {i : Nat}
    {first : String} (hi : fresh[i]? = some first) (same : key first = key name) :
    r.register name =
      (if i < Extension.capacity then .ok (.extension (.nth i first)) else .error .codesExhausted,
        r) := by
  split
  · rename_i room
    apply register_of_known
    refine h.coherent.ofName?_eq_some_iff.mpr ⟨?_, same⟩
    exact List.mem_append_right _ (List.mem_map_of_mem (h.extension_iff.mpr ⟨i, first, hi, room, rfl⟩))
  · rename_i full
    have unknown : r.ofName? name = none := by
      refine h.ofName?_eq_none_iff.mpr ⟨new, fun j other hj room same' => full ?_⟩
      rwa [h.position_unique hi hj (same.trans same'.symm)]
    have many : ¬r.extensions.length < Extension.capacity := by
      have := (List.getElem?_eq_some_iff.mp hi).1
      rw [h.length_extensions]
      omega
    rw [register_of_unknown unknown, if_neg many]

/-- A name that never asked before is given the next byte, if one is left. -/
theorem register_of_not_mem (h : r.Records fresh) (new : isBuiltIn name = false)
    (unseen : ∀ n ∈ fresh, key n ≠ key name) :
    r.register name =
      if fresh.length < Extension.capacity then
        (.ok (.extension (.nth fresh.length name)), ⟨r.extensions ++ [.nth fresh.length name]⟩)
      else
        (.error .codesExhausted, r) := by
  have unknown : r.ofName? name = none :=
    h.ofName?_eq_none_iff.mpr ⟨new, fun i first hi _ => unseen first (List.mem_of_getElem? hi)⟩
  rw [register_of_unknown unknown]
  by_cases room : fresh.length < Extension.capacity
  · have count : r.extensions.length = fresh.length := by
      rw [h.length_extensions]
      omega
    rw [count]
  · have full : ¬r.extensions.length < Extension.capacity := by
      rw [h.length_extensions]
      omega
    rw [if_neg full, if_neg room]

/-- What one registration comes to: a built-in name is refused, a name that asked before is answered
as it was then, and any other name asks last. -/
theorem register_cases (h : r.Records fresh) (name : String) :
    (isBuiltIn name = true ∧ ask fresh name = fresh ∧
      r.register name = (.error (.reservedName name), r)) ∨
    (isBuiltIn name = false ∧ ask fresh name = fresh ∧
      ∃ i first, fresh[i]? = some first ∧ key first = key name ∧ r.register name =
        (if i < Extension.capacity then .ok (.extension (.nth i first)) else .error .codesExhausted,
          r)) ∨
    (isBuiltIn name = false ∧ ask fresh name = fresh ++ [name] ∧
      (∀ n ∈ fresh, key n ≠ key name) ∧ r.register name =
        if fresh.length < Extension.capacity then
          (.ok (.extension (.nth fresh.length name)), ⟨r.extensions ++ [.nth fresh.length name]⟩)
        else
          (.error .codesExhausted, r)) := by
  unfold ask
  cases new : isBuiltIn name with
  | true => exact .inl ⟨rfl, rfl, register_of_builtIn new r⟩
  | false =>
    cases seen : fresh.any fun n => key n == key name with
    | true =>
      obtain ⟨first, hf, same⟩ : ∃ n ∈ fresh, key n = key name := by simpa using seen
      obtain ⟨i, hi⟩ := List.getElem?_of_mem hf
      exact .inr (.inl ⟨rfl, rfl, i, first, hi, same, h.register_of_mem new hi same⟩)
    | false =>
      have unseen : ∀ n ∈ fresh, key n ≠ key name := by simpa using seen
      exact .inr (.inr ⟨rfl, rfl, unseen, h.register_of_not_mem new unseen⟩)

theorem answers_register (h : r.Records fresh) (name : String) :
    Answers (ask fresh name) name (r.register name).1 := by
  rcases h.register_cases name with ⟨builtIn, -, step⟩ | ⟨new, asked, i, first, hi, same, step⟩ |
    ⟨new, asked, -, step⟩
  · rw [step]
    exact .reserved builtIn
  · rw [step, asked]
    split
    · exact .given new hi same ‹_›
    · exact .exhausted new hi same (Nat.le_of_not_lt ‹_›)
  · have last : (fresh ++ [name])[fresh.length]? = some name := List.getElem?_concat_length
    rw [step, asked]
    split
    · exact .given new last rfl ‹_›
    · exact .exhausted new last rfl (Nat.le_of_not_lt ‹_›)

theorem register (h : r.Records fresh) (name : String) :
    (r.register name).2.Records (ask fresh name) := by
  rcases h.register_cases name with ⟨-, asked, step⟩ | ⟨-, asked, i, first, -, -, step⟩ |
    ⟨-, asked, unseen, step⟩
  · rwa [step, asked]
  · rwa [step, asked]
  · rw [asked]
    refine ⟨h.coherent.register name, ?_, ?_⟩
    · rw [step]
      split
      · rename_i room
        rw [h.extensions, List.take_of_length_le (Nat.le_of_lt room),
          List.take_of_length_le (by simpa using Nat.succ_le_of_lt room), List.mapIdx_concat]
      · rename_i full
        rw [h.extensions, List.take_append_of_le_length (Nat.le_of_not_lt full)]
    · have new : key name ∉ fresh.map key := by
        intro known
        obtain ⟨n, hn, same⟩ := List.mem_map.mp known
        exact unseen n hn same
      rw [List.map_append, List.map_singleton, ← List.concat_eq_append]
      exact h.distinct.concat new

end Records

/-! ## A run -/

theorem after_concat (r : Registry) (names : List String) (name : String) :
    r.after (names ++ [name]) = ((r.after names).register name).2 := by
  simp [after]

theorem answers_concat (r : Registry) (names : List String) (name : String) :
    r.answers (names ++ [name]) = r.answers names ++ [((r.after names).register name).1] := by
  induction names generalizing r with
  | nil => rfl
  | cons first names ih =>
    rw [List.cons_append, answers, answers, ih, List.cons_append]
    rfl

theorem records_after (names : List String) : (empty.after names).Records (newNames names) := by
  induction names using List.reverseRecOn with
  | nil => exact ⟨coherent_empty, rfl, List.nodup_nil⟩
  | append_singleton names name ih =>
    rw [after_concat, newNames_concat]
    exact ih.register name

/-- Later names ask behind the ones before, so an answer stays right. -/
theorem Answers.ask {answer : Except RegistrationError Convention}
    (h : Answers fresh name answer) (later : String) :
    Answers (ask fresh later) name answer := by
  have stays {i : Nat} {first : String} (hi : fresh[i]? = some first) :
      (Registry.ask fresh later)[i]? = some first := by
    obtain ⟨more, longer⟩ := ask_extends fresh later
    rw [← longer, List.getElem?_append_left (List.getElem?_eq_some_iff.mp hi).1, hi]
  cases h with
  | reserved builtIn => exact .reserved builtIn
  | given new hi same room => exact .given new (stays hi) same room
  | exhausted new hi same full => exact .exhausted new (stays hi) same full

theorem answers_after (names : List String) :
    List.Forall₂ (Answers (newNames names)) names (empty.answers names) := by
  induction names using List.reverseRecOn with
  | nil => exact .nil
  | append_singleton names name ih =>
    rw [newNames_concat, answers_concat]
    refine List.rel_append ?_ (.cons ?_ .nil)
    · exact ih.imp fun _ _ h => h.ask name
    · exact (records_after names).answers_register name

theorem register_of_error {e : RegistrationError} (h : (r.register name).1 = .error e) :
    (r.register name).2 = r := by
  unfold register at h ⊢
  split at h
  · cases h
  · rfl
  · split at h
    · cases h
    · rfl

/-- A name registered before changes nothing, whether it is an extension, a built-in name, or one
that found no byte left. -/
theorem register_of_repeated {names : List String}
    (repeated : ∃ n ∈ names, key n = key name) :
    ((empty.after names).register name).2 = empty.after names := by
  obtain ⟨n, hn, same⟩ := repeated
  rcases (records_after names).register_cases name with ⟨-, -, step⟩ | ⟨-, -, _, _, -, -, step⟩ |
    ⟨new, -, unseen, -⟩
  · rw [step]
  · rw [step]
  · have : isBuiltIn n = false := by rwa [isBuiltIn, same, ← isBuiltIn]
    obtain ⟨first, hf, same'⟩ := exists_newNames hn this
    exact absurd (same'.trans same) (unseen first hf)

theorem conventions_after (r : Registry) (names : List String) :
    ∃ more, (r.after names).conventions = r.conventions ++ more := by
  induction names generalizing r with
  | nil => exact ⟨[], (List.append_nil _).symm⟩
  | cons name names ih =>
    obtain ⟨more, h⟩ := ih (r.register name).2
    rw [register_snd, conventions_append, List.append_assoc] at h
    refine ⟨_, Eq.trans ?_ h⟩
    rw [← register_snd]
    rfl

theorem ofName?_after {c : Convention} (h : r.ofName? name = some c) (later : List String) :
    (r.after later).ofName? name = some c := by
  obtain ⟨more, same⟩ := r.conventions_after later
  rw [ofName?] at h ⊢
  rw [same, List.find?_append, h, Option.some_or]

theorem ofCode?_after {code : UInt8} {c : Convention} (h : r.ofCode? code = some c)
    (later : List String) : (r.after later).ofCode? code = some c := by
  obtain ⟨more, same⟩ := r.conventions_after later
  rw [ofCode?] at h ⊢
  rw [same, List.find?_append, h, Option.some_or]

end Registry

/-- **A run of registrations.** The extensions are the first of the names that ask for one, as many as
there are bytes, in order and under their first spellings. Each registration is answered by its place
among these names. One that fails or repeats a name changes nothing, and what was once found under a
name or a byte is found there ever after. -/
theorem registrations_in_order (names : List String) :
    let r := Registry.empty.after names
    let fresh := Registry.newNames names
    r.extensions = (fresh.take Extension.capacity).mapIdx Extension.nth ∧
      List.Forall₂ (Registry.Answers fresh) names (Registry.empty.answers names) ∧
      (∀ name, (∃ e, (r.register name).1 = .error e) ∨
          (∃ n ∈ names, Registry.key n = Registry.key name) → (r.register name).2 = r) ∧
      ∀ later,
        (∀ name c, r.ofName? name = some c → (r.after later).ofName? name = some c) ∧
        ∀ code c, r.ofCode? code = some c → (r.after later).ofCode? code = some c := by
  refine ⟨(Registry.records_after names).extensions, Registry.answers_after names, ?_, ?_⟩
  · rintro name (⟨e, failed⟩ | repeated)
    · exact Registry.register_of_error failed
    · exact Registry.register_of_repeated repeated
  · intro later
    exact ⟨fun name c found => Registry.ofName?_after found later,
      fun code c found => Registry.ofCode?_after found later⟩

/-- A respelling of the first name is no third one, and after two more registrations the first name's
byte still stands for it. -/
theorem registrations_of_respelled :
    let r := Registry.empty.after ["Fast", "Vec"]
    (r.register "FAST").2 = r ∧
      (r.after ["CDECL", "Swift"]).ofCode? 0x10 = some (.extension (.nth 0 "Fast")) := by
  intro r
  obtain ⟨-, -, unchanged, stays⟩ := registrations_in_order ["Fast", "Vec"]
  have same : Registry.key "Fast" = Registry.key "FAST" :=
    Registry.key_eq_iff.mpr (by decide +kernel)
  have found : r.ofCode? 0x10 = some (.extension (.nth 0 "Fast")) := by decide +kernel
  exact ⟨unchanged "FAST" (.inr ⟨"Fast", by simp, same⟩),
    (stays ["CDECL", "Swift"]).2 0x10 _ found⟩

end CallHandle
