import CallHandle.Convention.Index
import Mathlib.Data.List.Nodup

/-!
# The two look-ups of a registry

A registration adds at most one extension, at the end, with the byte after the last one and a name
that no convention has. So in a registry that registrations left behind every convention has a byte
and a name of its own, and looking up either finds the same convention:

* `Registry.Coherent`: what every registration preserves;
* `Registry.Coherent.ofName?_eq_some_iff`, `Registry.Coherent.ofCode?_eq_some_iff`: each look-up finds
  exactly the conventions of the registry, by key and by byte;
* `Registry.index_ofName?`, `Registry.Coherent.index_ofCode?`, `Registry.index_after`: a table of names
  and a table of bytes that every registration adds to answer as the registry does;
* `lookups_agree`: the look-ups describe the same conventions, one to one.
-/

namespace CallHandle

/-- A search by what tells the members of a list apart finds exactly the member that has it. -/
theorem find?_eq_some_iff_of_nodup {α β : Type} [BEq β] [LawfulBEq β] {f : α → β} {xs : List α}
    (distinct : (xs.map f).Nodup) {b : β} {x : α} :
    (xs.find? fun y => f y == b) = some x ↔ x ∈ xs ∧ f x = b := by
  constructor
  · intro h
    exact ⟨List.mem_of_find?_eq_some h, by simpa using List.find?_some h⟩
  · rintro ⟨hx, rfl⟩
    cases h : xs.find? fun y => f y == f x with
    | none => simpa using List.find?_eq_none.mp h x hx
    | some y =>
      have same : f y = f x := by simpa using List.find?_some h
      rw [List.inj_on_of_nodup_map distinct (List.mem_of_find?_eq_some h) hx same]

namespace Registry

variable {r : Registry} {name : String}

/-- Names are the same up to case when their letters are, one by one. -/
theorem key_eq_iff {m n : String} :
    key m = key n ↔ m.toList.map Char.toLower = n.toList.map Char.toLower := by
  rw [key, key, ← String.toList_inj, String.toList_map, String.toList_map]

/-! ## One registration -/

/-- A registration leaves all extensions in their places and puts a new one behind them. -/
theorem register_snd (r : Registry) (name : String) :
    (r.register name).2 = ⟨r.extensions ++ (r.added? name).toList⟩ := by
  unfold register added?
  cases r.ofName? name with
  | some c => cases c <;> simp
  | none => cases r.next? name <;> simp

theorem added?_eq_some_iff {tag : Extension} :
    r.added? name = some tag ↔ r.ofName? name = none ∧ r.extensions.length < Extension.capacity ∧
      tag = ⟨Extension.firstCode + UInt8.ofNat r.extensions.length, name⟩ := by
  unfold added? next?
  cases r.ofName? name with
  | some c => simp
  | none =>
    by_cases room : r.extensions.length < Extension.capacity <;> simp [room, eq_comm]

theorem ofName?_eq_none_iff :
    r.ofName? name = none ↔ key name ∉ r.conventions.map fun c => key c.name := by
  simp [ofName?]

theorem conventions_append (known more : List Extension) :
    conventions ⟨known ++ more⟩ = conventions ⟨known⟩ ++ more.map .extension := by
  simp [conventions]

/-! ## What every registration preserves -/

/-- The bytes of the extensions count up from the first one of their range and stay inside it, and no
two conventions share a name. -/
structure Coherent (r : Registry) : Prop where
  fits : r.extensions.length ≤ Extension.capacity
  codes : (r.extensions.map fun tag => tag.code.toNat) =
    List.range' Extension.firstCode.toNat r.extensions.length
  keys : (r.conventions.map fun c => key c.name).Nodup

theorem coherent_empty : empty.Coherent where
  fits := Nat.zero_le _
  codes := rfl
  keys := by decide +kernel

/-- The byte of the next extension does not wrap around while there is room. -/
theorem toNat_nextCode {count : Nat} (room : count < Extension.capacity) :
    (Extension.firstCode + UInt8.ofNat count).toNat = Extension.firstCode.toNat + count := by
  have first : Extension.firstCode.toNat = 16 := rfl
  have capacity : Extension.capacity = 240 := rfl
  rw [UInt8.toNat_add, UInt8.toNat_ofNat', first]
  omega

theorem Coherent.register (h : r.Coherent) (name : String) : (r.register name).2.Coherent := by
  rw [register_snd]
  cases added : r.added? name with
  | none => simpa using h
  | some tag =>
    obtain ⟨unknown, room, rfl⟩ := added?_eq_some_iff.mp added
    refine ⟨by simpa using Nat.succ_le_of_lt room, ?_, ?_⟩
    · simp [h.codes, toNat_nextCode room, List.range'_1_concat]
    · rw [Option.toList_some, conventions_append, List.map_append, List.map_singleton,
        List.map_singleton, ← List.concat_eq_append]
      exact h.keys.concat (ofName?_eq_none_iff.mp unknown)

theorem Coherent.after (h : r.Coherent) (names : List String) : (r.after names).Coherent := by
  induction names generalizing r with
  | nil => exact h
  | cons name names ih => exact ih (h.register name)

theorem Reachable.coherent (h : r.Reachable) : r.Coherent := by
  obtain ⟨names, rfl⟩ := h
  exact coherent_empty.after names

/-! ## The look-ups -/

theorem Coherent.firstCode_le (h : r.Coherent) {tag : Extension} (known : tag ∈ r.extensions) :
    Extension.firstCode.toNat ≤ tag.code.toNat := by
  have inside : tag.code.toNat ∈ r.extensions.map fun tag => tag.code.toNat :=
    List.mem_map_of_mem known
  rw [h.codes] at inside
  exact (List.mem_range'_1.mp inside).1

/-- The bytes of the extensions are told apart by their order, and all built-in bytes lie below. -/
theorem Coherent.codes_nodup (h : r.Coherent) : (r.conventions.map Convention.code).Nodup := by
  have distinct : (r.extensions.map fun tag => tag.code.toNat).Nodup := by
    rw [h.codes]
    exact List.nodup_range'
  apply List.Nodup.of_map UInt8.toNat
  rw [List.map_map, conventions, List.map_append, List.map_map]
  refine List.nodup_append.mpr ⟨by decide, distinct, ?_⟩
  rintro b builtIn n extension rfl
  obtain ⟨tag, known, rfl⟩ := List.mem_map.mp extension
  have low : ∀ b ∈ Convention.builtIns.map (UInt8.toNat ∘ Convention.code),
      b < Extension.firstCode.toNat := by decide
  exact absurd (h.firstCode_le known) (Nat.not_le.mpr (low _ builtIn))

theorem Coherent.ofName?_eq_some_iff (h : r.Coherent) {c : Convention} :
    r.ofName? name = some c ↔ c ∈ r.conventions ∧ key c.name = key name :=
  find?_eq_some_iff_of_nodup h.keys

theorem Coherent.ofCode?_eq_some_iff (h : r.Coherent) {code : UInt8} {c : Convention} :
    r.ofCode? code = some c ↔ c ∈ r.conventions ∧ c.code = code :=
  find?_eq_some_iff_of_nodup h.codes_nodup

/-! ## The tables -/

/-- A registry without extensions is kept as the tables of the built-in conventions. -/
theorem index_empty : empty.index = Index.empty :=
  rfl

theorem index_ofName? (r : Registry) (name : String) : r.index.ofName? name = r.ofName? name := by
  unfold index Index.ofName? ofName?
  induction r.conventions with
  | nil => rfl
  | cons c cs ih => rw [List.map_cons, List.lookup_cons, List.find?_cons, ih, BEq.comm]

theorem Coherent.getElem?_eq_some_iff (h : r.Coherent) {i : Nat} {tag : Extension} :
    r.extensions[i]? = some tag ↔
      tag ∈ r.extensions ∧ tag.code.toNat = Extension.firstCode.toNat + i := by
  have code {j : Nat} {tag : Extension} (hj : r.extensions[j]? = some tag) :
      tag.code.toNat = Extension.firstCode.toNat + j := by
    have inside := (List.getElem?_eq_some_iff.mp hj).1
    have same := congrArg (·[j]?) h.codes
    rw [List.getElem?_map, hj, List.getElem?_range' inside, Nat.one_mul] at same
    exact Option.some.inj same
  constructor
  · intro hi
    exact ⟨List.mem_of_getElem? hi, code hi⟩
  · rintro ⟨member, same⟩
    obtain ⟨j, hj⟩ := List.getElem?_of_mem member
    have := code hj
    obtain rfl : j = i := by omega
    exact hj

/-- Counting from the first byte of the range finds the extension that has the byte. -/
theorem Coherent.index_ofCode? (h : r.Coherent) (code : UInt8) :
    r.index.ofCode? code = r.ofCode? code := by
  unfold Index.ofCode?
  cases builtIn : Convention.builtIns.find? fun c => c.code == code with
  | some c => rw [ofCode?, conventions, List.find?_append, builtIn, Option.some_or]
  | none =>
    -- No built-in convention has the byte, so whatever the list finds is an extension.
    have among (c : Convention) : r.ofCode? code = some c ↔
        ∃ tag, tag ∈ r.extensions ∧ tag.code = code ∧ Convention.extension tag = c := by
      rw [h.ofCode?_eq_some_iff, conventions, List.mem_append, List.mem_map]
      constructor
      · rintro ⟨other | ⟨tag, known, rfl⟩, same⟩
        · simpa [same] using List.find?_eq_none.mp builtIn c other
        · exact ⟨tag, known, same, rfl⟩
      · rintro ⟨tag, known, same, rfl⟩
        exact ⟨.inr ⟨tag, known, rfl⟩, same⟩
    ext c
    rw [among]
    by_cases low : code < Extension.firstCode
    · rw [if_pos low]
      simp only [reduceCtorEq, false_iff, not_exists, not_and]
      rintro tag known rfl _
      exact absurd (h.firstCode_le known) (Nat.not_le.mpr (UInt8.lt_iff_toNat_lt.mp low))
    · have above : Extension.firstCode.toNat ≤ code.toNat :=
        Nat.le_of_not_lt fun below => low (UInt8.lt_iff_toNat_lt.mpr below)
      rw [if_neg low, Option.map_eq_some_iff]
      refine exists_congr fun tag => ?_
      rw [index, h.getElem?_eq_some_iff, and_assoc, Nat.add_sub_cancel' above, UInt8.toNat_inj]

/-- Registering in the tables is registering in the registry. -/
theorem index_register (r : Registry) (name : String) :
    r.index.register name = ((r.register name).1, (r.register name).2.index) := by
  unfold Index.register register next?
  rw [index_ofName?]
  cases r.ofName? name with
  | some c => cases c <;> rfl
  | none =>
    have codes : r.index.byCode = r.extensions := rfl
    have first : Extension.firstCode.toNat = 16 := rfl
    have capacity : Extension.capacity = 240 := rfl
    by_cases room : r.extensions.length < Extension.capacity
    · have below : Extension.firstCode.toNat + r.extensions.length < 256 := by omega
      simp only [codes, if_pos room, if_pos below, UInt8.ofNat_add, UInt8.ofNat_toNat]
      rw [index, index, conventions_append, List.map_append]
      rfl
    · have full : ¬Extension.firstCode.toNat + r.extensions.length < 256 := by omega
      simp only [codes, if_neg room, if_neg full]

theorem index_after (r : Registry) (names : List String) :
    r.index.after names = (r.after names).index := by
  induction names generalizing r with
  | nil => rfl
  | cons name names ih =>
    rw [Index.after, List.foldl_cons, index_register, ← Index.after, ih]
    rfl

/-- What is found by either look-up. -/
def Finds (r : Registry) (c : Convention) : Prop :=
  (∃ name, r.ofName? name = some c) ∨ ∃ code, r.ofCode? code = some c

theorem Finds.mem {c : Convention} (h : r.Finds c) : c ∈ r.conventions := by
  rcases h with ⟨name, h⟩ | ⟨code, h⟩ <;> exact List.mem_of_find?_eq_some h

end Registry

/-- A bare word is too short for a name in brackets. -/
theorem Convention.name_eq_of_text_eq {c d : Convention} (h : c.text = d.text) :
    c.name = d.name := by
  have shape (c : Convention) : c.text = c.name ∧ c.text.length ≤ 9 ∨
      c.text = "unmanaged[" ++ c.name ++ "]" ∧ 10 < c.text.length := by
    cases c with
    | managed | unmanagedDefault => exact .inl ⟨rfl, by decide⟩
    | cdecl | stdcall | thiscall => exact .inr ⟨rfl, by decide +kernel⟩
    | extension tag =>
      refine .inr ⟨rfl, ?_⟩
      have opening : "unmanaged[".length = 10 := rfl
      have closing : "]".length = 1 := rfl
      simp only [Convention.text, String.length_append, opening, closing]
      omega
  rcases shape c with ⟨hc, short⟩ | ⟨hc, long⟩ <;> rcases shape d with ⟨hd, short'⟩ | ⟨hd, long'⟩
  · rw [← hc, h, hd]
  · rw [h] at short
    omega
  · rw [h] at long
    omega
  · rw [hc, hd] at h
    simpa using h

/-- **The look-ups agree.** The names that led to a registry lead from the empty tables to its table of
names and its table of bytes. These answer as the registry does, and go on to when more names are
registered. A convention found by a
name has that name up to case and is found by its byte, and one found by a byte has that byte and is
found by its name. No two conventions that are found share a byte, a name up to case, or a written form,
and the case of a name makes no difference. -/
theorem lookups_agree (r : Registry) (reachable : r.Reachable) :
    (∀ names, r = Registry.empty.after names → r.index = Index.empty.after names) ∧
      (∀ names, r.index.after names = (r.after names).index) ∧
      (∀ name, r.index.ofName? name = r.ofName? name) ∧
      (∀ code, r.index.ofCode? code = r.ofCode? code) ∧
      (∀ name c, r.ofName? name = some c →
        r.ofCode? c.code = some c ∧ Registry.key name = Registry.key c.name) ∧
      (∀ code c, r.ofCode? code = some c → c.code = code ∧ r.ofName? c.name = some c) ∧
      (∀ c d, r.Finds c → r.Finds d →
        c.code = d.code ∨ Registry.key c.name = Registry.key d.name ∨ c.text = d.text → c = d) ∧
      ∀ m n, Registry.key m = Registry.key n → r.ofName? m = r.ofName? n := by
  have coherent := reachable.coherent
  refine ⟨?_, r.index_after, r.index_ofName?, coherent.index_ofCode?, ?_, ?_, ?_, ?_⟩
  · rintro names rfl
    rw [← Registry.index_empty, Registry.index_after]
  · intro name c found
    obtain ⟨known, same⟩ := coherent.ofName?_eq_some_iff.mp found
    exact ⟨coherent.ofCode?_eq_some_iff.mpr ⟨known, rfl⟩, same.symm⟩
  · intro code c found
    obtain ⟨known, same⟩ := coherent.ofCode?_eq_some_iff.mp found
    exact ⟨same, coherent.ofName?_eq_some_iff.mpr ⟨known, rfl⟩⟩
  · intro c d hc hd shared
    have sameName (same : Registry.key c.name = Registry.key d.name) : c = d :=
      List.inj_on_of_nodup_map coherent.keys hc.mem hd.mem same
    rcases shared with byte | name | text
    · exact List.inj_on_of_nodup_map coherent.codes_nodup hc.mem hd.mem byte
    · exact sameName name
    · exact sameName (congrArg Registry.key (Convention.name_eq_of_text_eq text))
  · intro m n same
    rw [Registry.ofName?, Registry.ofName?, same]

/-- An extension is found by the byte that it was given, so by its name, and so by any respelling. -/
theorem lookups_of_respelled :
    let r := Registry.empty.after ["Fast", "Vec"]
    let fast := Convention.extension ⟨0x10, "Fast"⟩
    r.Reachable ∧ r.ofCode? 0x10 = some fast ∧ r.ofName? "FAST" = some fast := by
  intro r fast
  have reachable : r.Reachable := ⟨["Fast", "Vec"], rfl⟩
  obtain ⟨-, -, -, -, -, byCode, -, respelled⟩ := lookups_agree r reachable
  have known : fast ∈ r.conventions := by decide +kernel
  have found : r.ofCode? 0x10 = some fast :=
    reachable.coherent.ofCode?_eq_some_iff.mpr ⟨known, rfl⟩
  have same : Registry.key "FAST" = Registry.key fast.name :=
    Registry.key_eq_iff.mpr (by decide +kernel)
  exact ⟨reachable, found, (respelled "FAST" fast.name same).trans (byCode 0x10 fast found).2⟩

end CallHandle
