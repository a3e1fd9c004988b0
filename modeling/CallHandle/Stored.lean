import CallHandle.Convention

/-!
The persisted form of signatures. It records a type and whether it is a reference, and has no field
for the remaining modes: those are markers on the descriptor. Only required markers bind; optional
ones may be present and mean nothing. A convention is a byte.
-/

namespace CallHandle

/-- What a marker says about a reference. -/
inductive Marker where
  /-- The reference is only read. -/
  | readOnly
  /-- The reference is written before it is read. -/
  | output
  deriving DecidableEq

/-- A marker on a descriptor. -/
structure Modifier where
  marker : Marker
  required : Bool
  deriving DecidableEq

mutual

/-- A persisted type. -/
inductive StoredTy where
  | named (name : String)
  | ptr (pointee : StoredTy)
  | voidPtr
  | handle (signature : StoredSignature)
  | void

/-- A persisted parameter or return. -/
structure StoredDescriptor where
  ty : StoredTy
  byRef : Bool
  modifiers : List Modifier

/-- A persisted signature. -/
structure StoredSignature where
  convention : UInt8
  params : List StoredDescriptor
  ret : StoredDescriptor

end

mutual

def StoredTy.decEq : (a b : StoredTy) → Decidable (a = b)
  | .named m, .named n => decidable_of_iff (m = n) (by simp)
  | .ptr a, .ptr b =>
    match a.decEq b with
    | .isTrue h => .isTrue (by rw [h])
    | .isFalse h => .isFalse (by simp [h])
  | .voidPtr, .voidPtr => .isTrue rfl
  | .handle s, .handle t =>
    match s.decEq t with
    | .isTrue h => .isTrue (by rw [h])
    | .isFalse h => .isFalse (by simp [h])
  | .void, .void => .isTrue rfl
  | .named _, .ptr _ | .named _, .voidPtr | .named _, .handle _ | .named _, .void
  | .ptr _, .named _ | .ptr _, .voidPtr | .ptr _, .handle _ | .ptr _, .void
  | .voidPtr, .named _ | .voidPtr, .ptr _ | .voidPtr, .handle _ | .voidPtr, .void
  | .handle _, .named _ | .handle _, .ptr _ | .handle _, .voidPtr | .handle _, .void
  | .void, .named _ | .void, .ptr _ | .void, .voidPtr | .void, .handle _ => .isFalse (by simp)

def StoredDescriptor.decEq : (a b : StoredDescriptor) → Decidable (a = b)
  | ⟨t, r, ms⟩, ⟨u, q, ns⟩ =>
    match t.decEq u with
    | .isTrue h => decidable_of_iff (r = q ∧ ms = ns) (by simp [h])
    | .isFalse h => .isFalse (by simp [h])

def StoredSignature.decEq : (a b : StoredSignature) → Decidable (a = b)
  | ⟨c, ps, r⟩, ⟨d, qs, q⟩ =>
    match StoredSignature.decEqParams ps qs with
    | .isFalse h => .isFalse (by simp [h])
    | .isTrue hp =>
      match r.decEq q with
      | .isFalse h => .isFalse (by simp [h])
      | .isTrue hr => decidable_of_iff (c = d) (by simp [hp, hr])

def StoredSignature.decEqParams : (ps qs : List StoredDescriptor) → Decidable (ps = qs)
  | [], [] => .isTrue rfl
  | [], _ :: _ | _ :: _, [] => .isFalse (by simp)
  | p :: ps, q :: qs =>
    match p.decEq q with
    | .isFalse h => .isFalse (by simp [h])
    | .isTrue hp =>
      match StoredSignature.decEqParams ps qs with
      | .isFalse h => .isFalse (by simp [h])
      | .isTrue hs => .isTrue (by rw [hp, hs])

end

instance : DecidableEq StoredTy := StoredTy.decEq

instance : DecidableEq StoredDescriptor := StoredDescriptor.decEq

instance : DecidableEq StoredSignature := StoredSignature.decEq

namespace StoredDescriptor

/-- Whether a required marker of the given kind is present. -/
def requires (d : StoredDescriptor) (marker : Marker) : Bool :=
  d.modifiers.any fun m => m.required && m.marker == marker

end StoredDescriptor

/-- Every descriptor in the order in which it is stored, the return last. -/
def StoredSignature.descriptors (s : StoredSignature) : List StoredDescriptor :=
  s.params ++ [s.ret]

mutual

/-- Every stored signature that occurs in a stored type, outermost first. -/
def StoredTy.signatures : StoredTy → List StoredSignature
  | .ptr pointee => pointee.signatures
  | .handle s => s.signatures
  | .named _ | .voidPtr | .void => []

def StoredDescriptor.signatures : StoredDescriptor → List StoredSignature
  | ⟨ty, _, _⟩ => ty.signatures

/-- A stored signature and every one nested in it, in the order in which they are stored. -/
def StoredSignature.signatures : StoredSignature → List StoredSignature
  | ⟨convention, params, ret⟩ =>
    ⟨convention, params, ret⟩ :: (StoredSignature.signaturesIn params ++ ret.signatures)

def StoredSignature.signaturesIn : List StoredDescriptor → List StoredSignature
  | [] => []
  | d :: ds => d.signatures ++ StoredSignature.signaturesIn ds

end

theorem StoredSignature.signaturesIn_eq_flatMap (ds : List StoredDescriptor) :
    StoredSignature.signaturesIn ds = ds.flatMap StoredDescriptor.signatures := by
  induction ds with
  | nil => rfl
  | cons d ds ih => simp [StoredSignature.signaturesIn, ih]

end CallHandle
