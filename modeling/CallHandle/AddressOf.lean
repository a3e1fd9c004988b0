import CallHandle.Conversion
import CallHandle.Overload

/-!
Taking the address of a group of overloads. Only static members have an address. Against a handle
type the group is resolved like a call with the handle's parameters as arguments, and the best
member, under the convention that functions of its kind have, has to convert to the handle. Without
a handle type the group must have one static member.
-/

namespace CallHandle

/-- The functions of one name that are visible at an address-of expression, in order. -/
structure Group where
  name : String
  members : List Overload
  deriving DecidableEq

/-- Decides the convention of a function whose address is taken. `none` leaves it managed. -/
abbrev Strategy := Overload → Option Convention

/-- What the address is converted to. -/
inductive AddressTarget where
  | handle (signature : Signature)
  /-- `void*`. -/
  | untyped
  /-- No expected type. -/
  | unconstrained
  deriving DecidableEq

/-- The address of a member, as a handle type of its own, and its conversion to the target. -/
structure Address where
  candidate : Candidate
  handle : Signature
  conversion : Conversion
  deriving DecidableEq

/-- Why a group has no address for a target. -/
inductive AddressError where
  /-- Nothing selects one of several static members. -/
  | noTarget (name : String) (count : Nat)
  /-- There is no member to select. -/
  | noCandidate (name : String)
  /-- Several members match, and none is better than the rest. -/
  | ambiguous (name : String) (candidates : List Signature)
  /-- The best member does not convert to the target. -/
  | mismatch (name : String) (candidate : Signature) (reason : Mismatch)
  deriving DecidableEq

def AddressError.message : AddressError → String
  | noTarget name count =>
    "cannot take the address of `" ++ name ++ "`: " ++ count.repr ++
      " static overloads and no target type"
  | noCandidate name => "no static overload of `" ++ name ++ "` matches the target"
  | ambiguous name candidates =>
    "ambiguous address of `" ++ name ++ "` between [" ++
      ", ".intercalate (candidates.map Signature.text) ++ "]"
  | mismatch name candidate reason =>
    "`" ++ name ++ "` with signature `" ++ candidate.text ++ "` does not match the target: " ++
      reason.message

namespace Strategy

/-- Every function is managed. -/
def managed : Strategy := fun _ => none

/-- The first rule whose first part begins the member's name decides. -/
def ofBeginnings (rules : List (String × Option Convention)) : Strategy := fun member =>
  (rules.find? fun rule => member.name.startsWith rule.1).bind Prod.snd

end Strategy

/-- The handle type that the address of a member has on its own. -/
def Overload.handle (strategy : Strategy) (member : Overload) : Signature :=
  member.signature.withConvention ((strategy member).getD .managed)

namespace Group

/-- The members with their positions. -/
def candidates (g : Group) : List Candidate :=
  g.members.zipIdx.map fun (member, position) => ⟨position, member⟩

def statics (g : Group) : List Candidate :=
  g.candidates.filter fun c => c.overload.isStatic

/-- The static members that a call with the target's parameters can reach. -/
def applicable (T : ClassTable) (target : Signature) (g : Group) : List Candidate :=
  g.statics.filter fun c => c.overload.applicable T target.params

/-- The only static member. -/
def onlyStatic (g : Group) : Except AddressError Candidate :=
  match g.statics with
  | [] => .error (.noCandidate g.name)
  | [c] => .ok c
  | statics => .error (.noTarget g.name statics.length)

/-- The member whose parameters fit the target best. -/
def select (T : ClassTable) (target : Signature) (g : Group) : Except AddressError Candidate :=
  match Best.among T target.params (g.applicable T target) with
  | .unique c => .ok c
  | .absent => .error (.noCandidate g.name)
  | .ambiguous cs => .error (.ambiguous g.name (cs.map fun c => c.overload.signature))

/-- The address of the group as a handle of the target's type. -/
def addressAs (T : ClassTable) (strategy : Strategy) (target : Signature) (g : Group) :
    Except AddressError Address := do
  let c ← g.select T target
  let handle := c.overload.handle strategy
  match handle.convert T target with
  | .ok conversion => .ok ⟨c, handle, conversion⟩
  | .error reason => .error (.mismatch g.name handle reason)

/-- The address of the group for a target. -/
def address (T : ClassTable) (strategy : Strategy) (g : Group) :
    AddressTarget → Except AddressError Address
  | .handle target => g.addressAs T strategy target
  | .untyped => do
    let c ← g.onlyStatic
    return ⟨c, c.overload.handle strategy, .handleToUntyped⟩
  | .unconstrained => do
    let c ← g.onlyStatic
    return ⟨c, c.overload.handle strategy, .identity⟩

end Group

end CallHandle
