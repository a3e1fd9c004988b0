import CallHandle.Proofs.Loading
import CallHandle.Signature.Json

/-! Whatever comes out of reading was put together from what came out of parts of the value. These inversions
say so for each shape, and no later proof opens the reading. -/

namespace CallHandle

variable {α β γ : Type}

theorem eq_ok_of_toOption {ε : Type} {x : Except ε α} {a : α} (h : x.toOption = some a) :
    x = .ok a := by
  cases x with
  | error e => cases h
  | ok b => rw [Option.some.inj h]

theorem mapM_eq_ok_iff {ε : Type} {f : α → Except ε β} {xs : List α} {ys : List β} :
    xs.mapM f = .ok ys ↔ List.Forall₂ (fun x y => f x = .ok y) xs ys := by
  induction xs generalizing ys with
  | nil =>
    simp only [List.mapM_nil, pure, Except.pure, Except.ok.injEq, List.forall₂_nil_left_iff]
    exact eq_comm
  | cons x xs ih =>
    simp only [List.mapM_cons, bind_eq_ok_iff, ih, pure, Except.pure, Except.ok.injEq]
    constructor
    · rintro ⟨y, first, ys, rest, rfl⟩
      exact .cons first rest
    · rintro (_ | ⟨first, rest⟩)
      exact ⟨_, first, _, rest, rfl⟩

/-! ## Values inside a value -/

namespace Json

/-- The value is the other one, or stands inside it as an item or under a field, at any depth. -/
inductive Within (k : Json) : Json → Prop where
  | here : Within k k
  | item {items : List Json} {item : Json} (h : item ∈ items) (inside : Within k item) :
      Within k (arr items)
  | field {fields : List (String × Json)} {field : String × Json} (h : field ∈ fields)
      (inside : Within k field.2) : Within k (obj fields)

variable {j k l : Json}

theorem Within.trans (inner : j.Within k) (outer : k.Within l) : j.Within l := by
  induction outer with
  | here => exact inner
  | item h _ ih => exact .item h ih
  | field h _ ih => exact .field h ih

theorem within_str_iff {text : String} : k.Within (str text) ↔ k = str text := by
  constructor
  · intro h
    cases h
    rfl
  · rintro rfl
    exact .here

theorem within_arr_iff {items : List Json} :
    k.Within (arr items) ↔ k = arr items ∨ ∃ item ∈ items, k.Within item := by
  constructor
  · intro h
    cases h with
    | here => exact .inl rfl
    | item h inside => exact .inr ⟨_, h, inside⟩
  · rintro (rfl | ⟨item, h, inside⟩)
    · exact .here
    · exact .item h inside

theorem within_obj_iff {fields : List (String × Json)} :
    k.Within (obj fields) ↔ k = obj fields ∨ ∃ field ∈ fields, k.Within field.2 := by
  constructor
  · intro h
    cases h with
    | here => exact .inl rfl
    | field h inside => exact .inr ⟨_, h, inside⟩
  · rintro (rfl | ⟨field, h, inside⟩)
    · exact .here
    · exact .field h inside

theorem within_of_items {parts : List j.Part} (h : j.items = .ok parts) {part : j.Part}
    (hp : part ∈ parts) : part.1.Within j := by
  cases j with
  | arr items =>
    obtain rfl := Except.ok.inj h
    obtain ⟨item, -, rfl⟩ := List.mem_map.mp hp
    exact .item item.2 .here
  | _ => cases h

/-- A variant with content is an object around it. -/
theorem eq_obj_of_variant {name : String} {part : j.Part} (h : j.variant = .ok (name, some part)) :
    j = obj [(name, part.1)] := by
  cases j with
  | obj fields =>
    cases fields with
    | nil => cases h
    | cons field rest =>
      cases rest with
      | nil =>
        obtain ⟨rfl, found⟩ := Prod.mk.inj (Except.ok.inj h)
        rw [← Option.some.inj found]
      | cons => cases h
  | _ => cases h

theorem eq_str_of_variant {name : String} (h : j.variant = .ok (name, none)) : j = str name := by
  cases j with
  | str =>
    obtain ⟨rfl, -⟩ := Prod.mk.inj (Except.ok.inj h)
    rfl
  | obj fields =>
    cases fields with
    | nil => cases h
    | cons field rest => cases rest <;> cases h
  | _ => cases h

theorem within_of_variant {name : String} {part : j.Part} (h : j.variant = .ok (name, some part)) :
    part.1.Within j := by
  obtain ⟨k, smaller⟩ := part
  obtain rfl : j = obj [(name, k)] := eq_obj_of_variant h
  exact .field List.mem_cons_self .here

theorem within_of_member {fields : List (String × Json)} {name : String} {part : (obj fields).Part}
    (h : member? fields name = some part) : part.1.Within (obj fields) := by
  obtain ⟨field, -, rfl⟩ := Option.map_eq_some_iff.mp h
  exact .field field.2 .here

/-- The members of a value stand inside it. -/
theorem within_of_members {form : String} {names : List String} {m : j.Members}
    (h : j.members form names = .ok m) {entry : String × j.Part} (found : entry ∈ m.found) :
    entry.2.1.Within j := by
  cases j with
  | obj fields =>
    obtain rfl := Except.ok.inj h
    obtain ⟨name, -, member⟩ := List.mem_filterMap.mp found
    obtain ⟨part, there, rfl⟩ := Option.map_eq_some_iff.mp member
    exact within_of_member there
  | arr items =>
    obtain rfl := Except.ok.inj h
    have listed := (List.of_mem_zip (a := entry.1) (b := entry.2) found).2
    obtain ⟨item, -, same⟩ := List.mem_map.mp listed
    rw [← same]
    exact .item item.2 .here
  | _ => cases h

end Json

/-! ## Records -/

namespace Json

variable {j : Json} {form a b c : String} {names : List String} {readA : j.Part → Except ReadError α}
  {readB : j.Part → Except ReadError β} {readC : j.Part → Except ReadError γ}

/-- A field that is taken was read from a member. -/
theorem Members.exists_of_take {m : j.Members} (made : j.members form names = .ok m) {x : α}
    (h : m.take a (m.read? a readA) = .ok x) : ∃ part, part.1.Within j ∧ readA part = .ok x := by
  unfold read? at h
  cases found : m.found.lookup a with
  | none =>
    rw [found] at h
    cases h
  | some part =>
    rw [found] at h
    obtain ⟨before, after, entries, -⟩ := List.lookup_eq_some_iff.mp found
    have listed : (a, part) ∈ m.found := by
      rw [entries]
      exact List.mem_append_right _ List.mem_cons_self
    exact ⟨part, within_of_members made listed, h⟩

theorem exists_of_record1 {x : α} (h : j.record1 form a readA = .ok x) :
    ∃ part, part.1.Within j ∧ readA part = .ok x := by
  unfold record1 at h
  simp only [bind_eq_ok_iff, pure, Except.pure, Except.ok.injEq] at h
  obtain ⟨m, made, _, hx, -, -, rfl⟩ := h
  exact Members.exists_of_take made hx

theorem exists_of_record2 {x : α} {y : β} (h : j.record2 form a b readA readB = .ok (x, y)) :
    (∃ part, part.1.Within j ∧ readA part = .ok x) ∧ ∃ part, part.1.Within j ∧ readB part = .ok y := by
  unfold record2 at h
  simp only [bind_eq_ok_iff, pure, Except.pure, Except.ok.injEq, Prod.mk.injEq] at h
  obtain ⟨m, made, -, -, _, hx, _, hy, -, -, rfl, rfl⟩ := h
  exact ⟨Members.exists_of_take made hx, Members.exists_of_take made hy⟩

theorem exists_of_record3 {x : α} {y : β} {z : γ}
    (h : j.record3 form a b c readA readB readC = .ok (x, y, z)) :
    (∃ part, part.1.Within j ∧ readA part = .ok x) ∧
      (∃ part, part.1.Within j ∧ readB part = .ok y) ∧
        ∃ part, part.1.Within j ∧ readC part = .ok z := by
  unfold record3 at h
  simp only [bind_eq_ok_iff, pure, Except.pure, Except.ok.injEq, Prod.mk.injEq] at h
  obtain ⟨m, made, -, -, _, hx, _, hy, _, hz, -, -, rfl, rfl, rfl⟩ := h
  exact ⟨Members.exists_of_take made hx, Members.exists_of_take made hy,
    Members.exists_of_take made hz⟩

theorem within_of_content {name : String} {content? : Option j.Part} {part : j.Part}
    (variant : j.variant = .ok (name, content?)) (h : content content? = .ok part) :
    part.1.Within j := by
  cases content? with
  | none => cases h
  | some other =>
    obtain rfl : other = part := Except.ok.inj h
    exact within_of_variant variant

end Json

/-! ## Conventions -/

theorem Extension.firstCode_le_of_read {j : Json} {tag : Extension}
    (h : Extension.read j = .ok tag) : Extension.firstCode ≤ tag.code := by
  unfold Extension.read at h
  simp only [bind_eq_ok_iff, mapError_eq_ok_iff, Extension.make] at h
  obtain ⟨⟨code, name⟩, -, made⟩ := h
  split at made
  · cases made
  · rename_i inRange
    obtain rfl := Except.ok.inj made
    exact UInt8.not_lt.mp inRange

/-- Extensions are made anew when they are read, so none has the byte of a built-in convention. -/
theorem Convention.wellFormed_of_read {j : Json} {c : Convention} (h : Convention.read j = .ok c) :
    c.WellFormed := by
  cases c with
  | extension tag =>
    unfold Convention.read at h
    simp only [bind_eq_ok_iff, pure, Except.pure] at h
    obtain ⟨⟨name, content?⟩, -, h⟩ := h
    split at h <;> simp only [bind_eq_ok_iff, Except.ok.injEq, reduceCtorEq, and_false, exists_false,
      Convention.extension.injEq] at h
    obtain ⟨part, -, own, read, rfl⟩ := h
    exact Extension.firstCode_le_of_read read
  | _ => trivial

/-! ## Types and signatures -/

/-- A type that is read is a leaf, or is put together from what is read of a part. -/
theorem Ty.cases_of_read {j : Json} {t : Ty} (h : Ty.read j = .ok t) :
    (∃ name, t = .con name) ∨
      (∃ (part : j.Part) (u : Ty), part.1.Within j ∧ Ty.read part.1 = .ok u ∧ t = .ptr u) ∨
      t = .voidPtr ∨
      (∃ (part : j.Part) (s : Signature), part.1.Within j ∧ Signature.readHandle part.1 = .ok s ∧
        t = .handle s) ∨
      t = .void := by
  rw [Ty.read] at h
  simp only [bind_eq_ok_iff, pure, Except.pure] at h
  obtain ⟨⟨name, content?⟩, variant, h⟩ := h
  split at h <;> simp only [bind_eq_ok_iff, Except.ok.injEq, reduceCtorEq] at h
  · obtain ⟨part, -, name, -, rfl⟩ := h
    exact .inl ⟨name, rfl⟩
  · obtain ⟨part, content, u, read, rfl⟩ := h
    exact .inr (.inl ⟨part, u, Json.within_of_content variant content, read, rfl⟩)
  · obtain ⟨-, -, rfl⟩ := h
    exact .inr (.inr (.inl rfl))
  · obtain ⟨part, content, s, read, rfl⟩ := h
    exact .inr (.inr (.inr (.inl ⟨part, s, Json.within_of_content variant content, read, rfl⟩)))
  · obtain ⟨-, -, rfl⟩ := h
    exact .inr (.inr (.inr (.inr rfl)))

theorem Param.ty_of_read {j : Json} {p : Param} (h : Param.read j = .ok p) :
    ∃ part : j.Part, part.1.Within j ∧ Ty.read part.1 = .ok p.ty := by
  rw [Param.read] at h
  simp only [bind_eq_ok_iff, pure, Except.pure, Except.ok.injEq] at h
  obtain ⟨⟨ty, mode⟩, fields, rfl⟩ := h
  exact (Json.exists_of_record2 fields).1

theorem Return.ty_of_read {j : Json} {ret : Return} (h : Return.read j = .ok ret) :
    ∃ part : j.Part, part.1.Within j ∧ Ty.read part.1 = .ok ret.ty := by
  rw [Return.read] at h
  simp only [bind_eq_ok_iff, pure, Except.pure, Except.ok.injEq] at h
  obtain ⟨⟨ty, mode⟩, fields, rfl⟩ := h
  exact (Json.exists_of_record2 fields).1

theorem Signature.exists_of_readHandle {j : Json} {s : Signature}
    (h : Signature.readHandle j = .ok s) :
    ∃ part : j.Part, part.1.Within j ∧ Signature.read part.1 = .ok s := by
  rw [Signature.readHandle] at h
  exact Json.exists_of_record1 h

/-- A signature that is read was formed from the descriptors and the convention read of its parts. -/
theorem Signature.make_of_read {j : Json} {s : Signature} (h : Signature.read j = .ok s) :
    Signature.make s.params s.ret s.convention = .ok s ∧
      (∀ p ∈ s.params, ∃ part : j.Part, part.1.Within j ∧ Param.read part.1 = .ok p) ∧
      (∃ part : j.Part, part.1.Within j ∧ Return.read part.1 = .ok s.ret) ∧
      ∃ part : j.Part, part.1.Within j ∧ Convention.read part.1 = .ok s.convention := by
  rw [Signature.read] at h
  simp only [bind_eq_ok_iff, mapError_eq_ok_iff] at h
  obtain ⟨⟨params, ret, convention⟩, fields, made⟩ := h
  obtain ⟨⟨list, inside, items⟩, readRet, readConvention⟩ := Json.exists_of_record3 fields
  obtain ⟨rfl, -⟩ := Signature.make_eq_ok_iff.mp made
  refine ⟨made, ?_, readRet, readConvention⟩
  intro p hp
  obtain ⟨parts, listed, read⟩ := bind_eq_ok_iff.mp items
  obtain ⟨item, member, readItem⟩ := exists_of_mem_right (mapM_eq_ok_iff.mp read) hp
  exact ⟨⟨item.1, Nat.lt_trans item.2 list.2⟩, (Json.within_of_items listed member).trans inside,
    readItem⟩

end CallHandle
