import CallHandle.Proofs.Reading
import CallHandle.Proofs.Relabeling
import CallHandle.Stored.Json

/-! A value is written as an object with a field for each of its parts. Reading looks the fields up again,
whatever order they stand in, and gives back the value when each part is given back. -/

namespace CallHandle

variable {α β γ : Type}

/-! ## Objects -/

namespace Json

theorem lookup_eq_find? {κ δ : Type} [BEq κ] [LawfulBEq κ] (entries : List (κ × δ)) (key : κ) :
    entries.lookup key = (entries.find? fun entry => entry.1 == key).map Prod.snd := by
  induction entries with
  | nil => rfl
  | cons entry entries ih =>
    rw [List.lookup_cons, List.find?_cons, BEq.comm, ih]
    cases entry.1 == key <;> rfl

theorem lookup_filterMap {κ δ : Type} [BEq κ] [LawfulBEq κ] (f : κ → Option δ) (keys : List κ)
    (key : κ) :
    (keys.filterMap fun key => (f key).map fun value => (key, value)).lookup key =
      if key ∈ keys then f key else none := by
  induction keys with
  | nil => rfl
  | cons first keys ih =>
    rw [List.filterMap_cons]
    by_cases same : key = first
    · subst same
      cases found : f key with
      | none => simpa [found] using ih
      | some value => simp
    · have other : (key == first) = false := by simpa using same
      cases f first <;> simp [List.lookup_cons, other, ih, same]

variable {fields : List (String × Json)} {form a b c : String} {u v w : Json}
  {f : Json → Except ReadError α} {g : Json → Except ReadError β}
  {k : Json → Except ReadError γ} {x : α} {y : β} {z : γ}

/-- The member of an object is the value of its field. -/
theorem member?_val (fields : List (String × Json)) (name : String) :
    (member? fields name).map Subtype.val = fields.lookup name := by
  rw [lookup_eq_find?, member?, Option.map_map]
  conv_rhs => rw [← List.attach_map_subtype_val fields, List.find?_map]
  rw [Option.map_map]
  rfl

/-- The members of an object for some fields. -/
def membersOf (fields : List (String × Json)) (names : List String) : (obj fields).Members where
  found := names.mergeSort.filterMap fun name => (member? fields name).map fun part => (name, part)
  absent := .missingField
  surplus? := none

theorem members_obj (names : List String) :
    (obj fields).members form names = .ok (membersOf fields names) :=
  rfl

theorem read?_membersOf {names : List String} (wanted : a ∈ names) (field : fields.lookup a = some u)
    (read : f u = .ok x) :
    (membersOf fields names).read? a (fun part => f part.1) = some (.ok x) := by
  have found : (membersOf fields names).found.lookup a = member? fields a := by
    rw [membersOf, lookup_filterMap, if_pos (List.mem_mergeSort.mpr wanted)]
  have value := member?_val fields a
  rw [field, Option.map_eq_some_iff] at value
  obtain ⟨part, member, rfl⟩ := value
  rw [Members.read?, found, member, Option.map_some, read]

/-- Nothing is refused when no member is. -/
theorem Members.settle_eq_ok {j : Json} {m : j.Members} {refusals : List (String × Option ReadError)}
    (accepted : ∀ refusal ∈ refusals, refusal.2 = none) : m.settle refusals = .ok () := by
  have accepts : (m.found.findSome? fun member => (refusals.lookup member.1).join) = none := by
    rw [List.findSome?_eq_none_iff]
    intro member _
    rw [lookup_eq_find?, Option.join_eq_none_iff]
    cases found : refusals.find? fun refusal => refusal.1 == member.1 with
    | none => exact .inl rfl
    | some refusal => exact .inr (congrArg some (accepted refusal (List.mem_of_find?_eq_some found)))
  unfold settle
  rw [accepts]

theorem record1_obj (hu : fields.lookup a = some u) (hx : f u = .ok x) :
    (obj fields).record1 form a (fun part => f part.1) = .ok x := by
  unfold record1
  rw [members_obj]
  show ((membersOf fields [a]).take a _ >>= _) = _
  rw [read?_membersOf (by simp) hu hx]
  rfl

theorem record2_obj (hu : fields.lookup a = some u) (hv : fields.lookup b = some v)
    (hx : f u = .ok x) (hy : g v = .ok y) :
    (obj fields).record2 form a b (fun part => f part.1) (fun part => g part.1) =
      .ok (x, y) := by
  unfold record2
  rw [members_obj]
  show ((membersOf fields [a, b]).settle _ >>= _) = _
  rw [read?_membersOf (by simp) hu hx, read?_membersOf (by simp) hv hy,
    Members.settle_eq_ok (by simp [Members.refusal?])]
  rfl

theorem record3_obj (hu : fields.lookup a = some u) (hv : fields.lookup b = some v)
    (hw : fields.lookup c = some w) (hx : f u = .ok x) (hy : g v = .ok y)
    (hz : k w = .ok z) :
    (obj fields).record3 form a b c (fun part => f part.1) (fun part => g part.1)
      (fun part => k part.1) = .ok (x, y, z) := by
  unfold record3
  rw [members_obj]
  show ((membersOf fields [a, b, c]).settle _ >>= _) = _
  rw [read?_membersOf (by simp) hu hx, read?_membersOf (by simp) hv hy,
    read?_membersOf (by simp) hw hz, Members.settle_eq_ok (by simp [Members.refusal?])]
  rfl

/-- An array is read item by item. -/
theorem mapM_items {write : α → Json} {xs : List α} (h : ∀ x ∈ xs, f (write x) = .ok x) :
    ((arr (xs.map write)).items >>= fun items => items.mapM fun item => f item.1) = .ok xs := by
  have read : List.Forall₂ (fun item x => f item = .ok x) (xs.map write) xs := by
    rw [List.forall₂_map_left_iff, List.forall₂_same]
    exact h
  refine bind_eq_ok_iff.mpr ⟨_, rfl, mapM_eq_ok_iff.mpr ?_⟩
  rw [List.forall₂_map_left_iff]
  rw [← List.attach_map_subtype_val (xs.map write), List.forall₂_map_left_iff] at read
  exact read

theorem readByte_toNat (byte : UInt8) : (int byte.toNat).readByte = .ok byte := by
  have small := byte.toNat_lt
  have inRange : 0 ≤ (byte.toNat : Int) ∧ (byte.toNat : Int) < 256 := by omega
  rw [readByte, if_pos inRange, Int.toNat_natCast, UInt8.ofNat_toNat]

end Json

/-! ## Names of kinds -/

theorem ParamMode.read_json (mode : ParamMode) : read mode.json = .ok mode := by
  cases mode <;> rfl

theorem ReturnMode.read_json (mode : ReturnMode) : read mode.json = .ok mode := by
  cases mode <;> rfl

theorem Marker.read_json (marker : Marker) : read marker.json = .ok marker := by
  cases marker <;> rfl

/-! ## Conventions -/

theorem Extension.read_json {tag : Extension} (inRange : firstCode ≤ tag.code) :
    read tag.json = .ok tag := by
  unfold read json
  rw [Json.record2_obj (f := Json.readByte) (g := Json.readString) rfl rfl
    (Json.readByte_toNat tag.code) rfl]
  show (make tag.code tag.name).mapError ReadError.registration = _
  rw [make, if_neg (UInt8.not_lt.mpr inRange)]
  rfl

theorem Convention.read_json {c : Convention} (valid : c.WellFormed) : read c.json = .ok c := by
  cases c with
  | extension tag =>
    unfold read json
    simp only [Json.variant, bind, Except.bind, Json.content, Extension.read_json valid]
    rfl
  | _ => rfl

/-! ## Types and signatures -/

theorem Param.json_eq (p : Param) : p.json = .obj [("ty", p.ty.json), ("mode", p.mode.json)] := by
  cases p
  rfl

theorem Return.json_eq (ret : Return) :
    ret.json = .obj [("ty", ret.ty.json), ("mode", ret.mode.json)] := by
  cases ret
  rfl

theorem Signature.jsonParams_eq_map (params : List Param) :
    Signature.jsonParams params = params.map Param.json := by
  induction params with
  | nil => rfl
  | cons p ps ih => simp [Signature.jsonParams, ih]

theorem Signature.json_eq (s : Signature) :
    s.json = .obj [("params", .arr (s.params.map Param.json)), ("ret", s.ret.json),
      ("convention", s.convention.json)] := by
  rw [← Signature.jsonParams_eq_map]
  cases s
  rfl

theorem Param.read_json_of {p : Param} (h : Ty.read p.ty.json = .ok p.ty) :
    Param.read p.json = .ok p := by
  obtain ⟨ty, mode⟩ := p
  rw [Param.json_eq, Param.read, Json.record2_obj (g := ParamMode.read) rfl rfl h mode.read_json]
  rfl

/-- A return is read from any object that has its two fields. -/
theorem Return.read_obj {fields : List (String × Json)} {u v : Json} {ret : Return}
    (hu : fields.lookup "ty" = some u) (hv : fields.lookup "mode" = some v)
    (ty : Ty.read u = .ok ret.ty) (mode : ReturnMode.read v = .ok ret.mode) :
    Return.read (.obj fields) = .ok ret := by
  rw [Return.read, Json.record2_obj hu hv ty mode]
  exact congrArg Except.ok (Return.ext rfl rfl)

/-- A signature is formed from what the three fields of an object hold. -/
theorem Signature.read_obj {fields : List (String × Json)} {u v w : Json} {s : Signature}
    (hu : fields.lookup "params" = some u) (hv : fields.lookup "ret" = some v)
    (hw : fields.lookup "convention" = some w)
    (params : (u.items >>= fun items => items.mapM fun item => Param.read item.1) = .ok s.params)
    (ret : Return.read v = .ok s.ret) (convention : Convention.read w = .ok s.convention)
    (made : Signature.make s.params s.ret s.convention = .ok s) :
    Signature.read (.obj fields) = .ok s := by
  rw [Signature.read,
    Json.record3_obj (f := fun j => j.items >>= fun items => items.mapM fun item => Param.read item.1)
      hu hv hw params ret convention]
  show (Signature.make s.params s.ret s.convention).mapError ReadError.formation = _
  rw [made]
  rfl

theorem Return.read_json_of {ret : Return} (h : Ty.read ret.ty.json = .ok ret.ty) :
    Return.read ret.json = .ok ret := by
  rw [Return.json_eq]
  exact Return.read_obj rfl rfl h ret.mode.read_json

/-- The signature is formed anew, which refuses no valid one. -/
theorem Signature.read_json_of {s : Signature} (valid : s.WellFormed)
    (params : ∀ p ∈ s.params, Ty.read p.ty.json = .ok p.ty)
    (ret : Ty.read s.ret.ty.json = .ok s.ret.ty) : Signature.read s.json = .ok s := by
  have items := Json.mapM_items fun p hp => Param.read_json_of (params p hp)
  rw [s.json_eq]
  exact Signature.read_obj rfl rfl rfl items (Return.read_json_of ret)
    (Convention.read_json valid.2.2) (Signature.make_of_wellFormed valid)

theorem Signature.readHandle_json_of {s : Signature} (h : Signature.read s.json = .ok s) :
    Signature.readHandle s.handleJson = .ok s := by
  rw [Signature.readHandle]
  exact Json.record1_obj rfl h

theorem Ty.read_json {t : Ty} (valid : t.Valid) : Ty.read t.json = .ok t := by
  induction t with
  | con name =>
    rw [Ty.read, Ty.json]
    simp only [Json.variant, bind, Except.bind, Json.content]
    rw [Ty.readName, Json.record1_obj (f := Json.readString) rfl rfl]
    rfl
  | voidPtr | void =>
    rw [Ty.read]
    rfl
  | ptr t ih =>
    rw [Ty.read]
    show (Ty.read t.json >>= _) = _
    rw [ih valid]
    rfl
  | handle s hps hr =>
    obtain ⟨own, params, ret⟩ := Ty.valid_handle.mp valid
    have whole := Signature.read_json_of own (fun p hp => hps p hp (params p hp)) (hr ret)
    rw [Ty.read]
    show (Signature.readHandle s.handleJson >>= _) = _
    rw [Signature.readHandle_json_of whole]
    rfl

theorem Signature.read_json {s : Signature} (valid : s.Valid) : Signature.read s.json = .ok s := by
  obtain ⟨own, params, ret⟩ := Signature.valid_iff.mp valid
  exact Signature.read_json_of own (fun p hp => Ty.read_json (params p hp)) (Ty.read_json ret)

/-! ## Stored signatures -/

theorem Modifier.read_json (m : Modifier) : read m.json = .ok m := by
  obtain ⟨marker, required⟩ := m
  rw [json, read, Json.record2_obj (f := Marker.read) (g := Json.readBool) rfl rfl
    marker.read_json rfl]
  rfl

theorem StoredDescriptor.json_eq (d : StoredDescriptor) :
    d.json = .obj [("ty", d.ty.json), ("by_ref", .bool d.byRef),
      ("modifiers", .arr (d.modifiers.map Modifier.json))] := by
  cases d
  rfl

theorem StoredSignature.jsonParams_eq_map (params : List StoredDescriptor) :
    StoredSignature.jsonParams params = params.map StoredDescriptor.json := by
  induction params with
  | nil => rfl
  | cons d ds ih => simp [StoredSignature.jsonParams, ih]

theorem StoredSignature.json_eq (e : StoredSignature) :
    e.json = .obj [("convention", .int e.convention.toNat),
      ("params", .arr (e.params.map StoredDescriptor.json)), ("ret", e.ret.json)] := by
  rw [← StoredSignature.jsonParams_eq_map]
  cases e
  rfl

theorem StoredDescriptor.read_json_of {d : StoredDescriptor}
    (h : StoredTy.read d.ty.json = .ok d.ty) : StoredDescriptor.read d.json = .ok d := by
  obtain ⟨ty, byRef, modifiers⟩ := d
  have items := Json.mapM_items fun m (_ : m ∈ modifiers) => m.read_json
  rw [StoredDescriptor.json_eq, StoredDescriptor.read,
    Json.record3_obj (g := Json.readBool)
      (k := fun j => j.items >>= fun items => items.mapM fun item => Modifier.read item.1)
      rfl rfl rfl h rfl items]
  rfl

theorem StoredSignature.read_json_of {e : StoredSignature}
    (params : ∀ d ∈ e.params, StoredTy.read d.ty.json = .ok d.ty)
    (ret : StoredTy.read e.ret.ty.json = .ok e.ret.ty) : StoredSignature.read e.json = .ok e := by
  obtain ⟨convention, ds, result⟩ := e
  have items := Json.mapM_items fun d hd => StoredDescriptor.read_json_of (params d hd)
  rw [StoredSignature.json_eq, StoredSignature.read,
    Json.record3_obj (f := Json.readByte)
      (g := fun j => j.items >>= fun items => items.mapM fun item => StoredDescriptor.read item.1)
      rfl rfl rfl (Json.readByte_toNat convention) items (StoredDescriptor.read_json_of ret)]
  rfl

theorem StoredTy.read_json (t : StoredTy) : StoredTy.read t.json = .ok t := by
  induction t with
  | named name =>
    rw [StoredTy.read, StoredTy.json]
    simp only [Json.variant, bind, Except.bind, Json.content, Json.readString]
    rfl
  | voidPtr | void =>
    rw [StoredTy.read]
    rfl
  | ptr t ih =>
    rw [StoredTy.read]
    show (StoredTy.read t.json >>= _) = _
    rw [ih]
    rfl
  | handle e hps hr =>
    rw [StoredTy.read]
    show (StoredSignature.read e.json >>= _) = _
    rw [StoredSignature.read_json_of hps hr]
    rfl

theorem StoredSignature.read_json (e : StoredSignature) : StoredSignature.read e.json = .ok e :=
  StoredSignature.read_json_of (fun d _ => d.ty.read_json) e.ret.ty.read_json

end CallHandle
