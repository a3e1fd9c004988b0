import CallHandle.Signature

/-!
Making signatures. `void` stands for no value, so it may be neither a parameter nor a returned
reference, and a descriptor's keywords must spell a passing mode. A signature is valid when it and
every signature nested in it keep the first rule.
-/

namespace CallHandle

/-- Why descriptors do not form a signature. -/
inductive FormationError where
  /-- The keywords of one descriptor spell no mode. -/
  | invalidKeywords (position : Position) (keywords : List Keyword)
  /-- A return is marked `out`. -/
  | outReturn
  /-- A parameter has the type `void`. -/
  | voidParameter (index : Nat)
  /-- The return is a reference to `void`. -/
  | voidByReference
  deriving DecidableEq

def FormationError.message : FormationError → String
  | invalidKeywords position keywords =>
    "invalid modifier combination `" ++ Keyword.textOf keywords ++ "` on " ++ position.text
  | outReturn => "return type cannot be `out`"
  | voidParameter index => "parameter " ++ (index + 1).repr ++ " cannot have type `void`"
  | voidByReference => "`void` cannot be returned by reference"

namespace Signature

/-- The signature of given descriptors. The first `void` parameter is reported before a `void`
returned by reference. -/
def make (params : List Param) (ret : Return) (convention : Convention) :
    Except FormationError Signature :=
  match params.findIdx? fun p => p.ty.isVoid with
  | some index => .error (.voidParameter index)
  | none =>
    if ret.ty.isVoid && ret.mode.isByRef then
      .error .voidByReference
    else
      .ok ⟨params, ret, convention⟩

/-- A descriptor as it is written: a type after its keywords. -/
structure Written where
  ty : Ty
  keywords : List Keyword
  deriving DecidableEq

/-- The parameters that written descriptors spell, counting positions from `index`. -/
def readParams (index : Nat) : List Written → Except FormationError (List Param)
  | [] => .ok []
  | w :: ws =>
    match ParamMode.ofKeywords? w.keywords with
    | none => .error (.invalidKeywords (.parameter index) w.keywords)
    | some mode => do
      let params ← readParams (index + 1) ws
      return ⟨w.ty, mode⟩ :: params

/-- The return that a written descriptor spells. A keyword `out` is refused wherever it stands
among the keywords. -/
def readReturn (w : Written) : Except FormationError Return :=
  if w.keywords.contains .out then
    .error .outReturn
  else
    match ReturnMode.ofKeywords? w.keywords with
    | none => .error (.invalidKeywords .result w.keywords)
    | some mode => .ok ⟨w.ty, mode⟩

/-- The signature of written descriptors: first the parameters' keywords, then the return's, then
the types. -/
def ofWritten (params : List Written) (ret : Written) (convention : Convention) :
    Except FormationError Signature := do
  let params ← readParams 0 params
  let ret ← readReturn ret
  make params ret convention

/-- The rules that one signature keeps on its own: no parameter is `void`, only a value can be
`void` on return, and an extension convention lies in the extension range. -/
def WellFormed (s : Signature) : Prop :=
  (∀ p ∈ s.params, p.ty ≠ .void) ∧
    (s.ret.ty = .void → s.ret.mode = .byValue) ∧
    s.convention.WellFormed

instance (s : Signature) : Decidable s.WellFormed :=
  inferInstanceAs (Decidable (_ ∧ _ ∧ _))

/-- Well-formed at every depth. -/
def Valid (s : Signature) : Prop :=
  ∀ t ∈ s.signatures, t.WellFormed

instance (s : Signature) : Decidable s.Valid :=
  inferInstanceAs (Decidable (∀ t ∈ s.signatures, t.WellFormed))

end Signature

/-- Every signature in the type is well-formed. -/
def Ty.Valid (ty : Ty) : Prop :=
  ∀ s ∈ ty.signatures, s.WellFormed

instance (ty : Ty) : Decidable ty.Valid :=
  inferInstanceAs (Decidable (∀ s ∈ ty.signatures, s.WellFormed))

end CallHandle
