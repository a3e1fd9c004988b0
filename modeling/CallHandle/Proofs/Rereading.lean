import CallHandle.Proofs.RoundTrip
import CallHandle.Proofs.Validity

namespace CallHandle

variable {α : Type}

/-- What is written of a valid value is read as that value, and whatever is read, however it was
written, comes back when it is written and read again. -/
structure RereadBy (read : Json → Except ReadError α) (write : α → Json) (Valid : α → Prop) : Prop where
  written {x : α} : Valid x → read (write x) = .ok x
  again {j : Json} {x : α} : read j = .ok x → read (write x) = .ok x

/-- Reading that yields valid values alone needs no more than to give these back. -/
theorem RereadBy.of_sound {read : Json → Except ReadError α} {write : α → Json} {Valid : α → Prop}
    (written : ∀ {x}, Valid x → read (write x) = .ok x)
    (sound : ∀ {j x}, read j = .ok x → Valid x) : RereadBy read write Valid :=
  ⟨written, fun h => written (sound h)⟩

/-- **What is written is read back.** The JSON form of a valid convention, extension, type, handle type,
signature or descriptor, and of any stored type, descriptor, signature or modifier at all, is read as the
value it was written from, to any depth; and a value that was read from any JSON comes back from its own
form. So a valid signature whose conventions a registry knows is what the registry loads from the JSON
form of its stored form. -/
theorem written_is_read_back :
    RereadBy Convention.read Convention.json Convention.WellFormed ∧
      RereadBy Extension.read Extension.json (fun tag => Extension.firstCode ≤ tag.code) ∧
      RereadBy Ty.read Ty.json Ty.Valid ∧
      RereadBy Signature.read Signature.json Signature.Valid ∧
      RereadBy Signature.readHandle Signature.handleJson Signature.Valid ∧
      RereadBy Param.read Param.json (fun p => p.ty.Valid) ∧
      RereadBy Return.read Return.json (fun ret => ret.ty.Valid) ∧
      RereadBy Modifier.read Modifier.json (fun _ => True) ∧
      RereadBy StoredTy.read StoredTy.json (fun _ => True) ∧
      RereadBy StoredDescriptor.read StoredDescriptor.json (fun _ => True) ∧
      RereadBy StoredSignature.read StoredSignature.json (fun _ => True) ∧
      ∀ (r : Registry) (s : Signature), s.Valid →
        (∀ c ∈ s.conventions, r.ofCode? c.code = some c) →
          ∃ e, StoredSignature.read s.store.json = .ok e ∧ e.load r = .ok s := by
  refine ⟨.of_sound Convention.read_json Convention.wellFormed_of_read,
    .of_sound Extension.read_json Extension.firstCode_le_of_read,
    .of_sound Ty.read_json Ty.valid_of_read,
    .of_sound Signature.read_json Signature.valid_of_read,
    .of_sound (fun valid => Signature.readHandle_json_of (Signature.read_json valid))
      Signature.valid_of_readHandle,
    .of_sound (fun valid => Param.read_json_of (Ty.read_json valid)) Param.valid_of_read,
    .of_sound (fun valid => Return.read_json_of (Ty.read_json valid)) Return.valid_of_read,
    .of_sound (fun _ => Modifier.read_json _) (fun _ => trivial),
    .of_sound (fun _ => StoredTy.read_json _) (fun _ => trivial),
    .of_sound (fun _ => StoredDescriptor.read_json_of (StoredTy.read_json _)) (fun _ => trivial),
    .of_sound (fun _ => StoredSignature.read_json _) (fun _ => trivial), ?_⟩
  intro r s valid known
  exact ⟨s.store, s.store.read_json, (Signature.load_store_eq_self_iff valid).mpr known⟩

/-- A handle behind a data pointer, under an extension and with a `void*` written to, is read from arrays
and from objects with their fields in another order. It comes back from its own form, and through its
stored form from the registry that has the extension. -/
theorem nested_handle_is_read_back :
    let inner : Signature := ⟨[⟨.voidPtr, .byOut⟩], ⟨.void, .byValue⟩, .extension ⟨0x10, "Fast"⟩⟩
    let s : Signature := ⟨[⟨.ptr (.handle inner), .byIn⟩], ⟨.con "int", .byReadonlyRef⟩, .stdcall⟩
    let r := Registry.empty.after ["Fast"]
    let j : Json := .obj [("ret", .obj [("mode", .str "RefReadonly"),
        ("ty", .obj [("Con", .arr [.str "int"])])]),
      ("convention", .obj [("Stdcall", .null)]),
      ("params", .arr [.arr [.obj [("Ptr", .obj [("FnPtr", .arr [.arr [.arr [.arr [.str "VoidPtr",
        .str "Out"]], .arr [.str "Void", .str "Value"], .obj [("Extension",
          .arr [.int 0x10, .str "Fast"])]]])])], .str "In"]])]
    Signature.read j = .ok s ∧ Signature.read s.json = .ok s ∧ s.Valid ∧
      (∀ c ∈ s.conventions, r.ofCode? c.code = some c) ∧
      ∃ e, StoredSignature.read s.store.json = .ok e ∧ e.load r = .ok s := by
  intro inner s r j
  -- Arrays are read in place, and the two objects field by field.
  have read : Signature.read j = .ok s := by
    refine Signature.read_obj rfl rfl rfl (eq_ok_of_toOption ?params)
      (Return.read_obj rfl rfl (eq_ok_of_toOption ?name) rfl) rfl ?made
    case params => decide +kernel
    case name => decide +kernel
    case made => decide +kernel
  have valid : s.Valid := by decide +kernel
  have known : ∀ c ∈ s.conventions, r.ofCode? c.code = some c := by decide +kernel
  obtain ⟨-, -, -, signatures, -, -, -, -, -, -, -, stored⟩ := written_is_read_back
  exact ⟨read, signatures.again read, valid, known, stored r s valid known⟩

end CallHandle
