import CallHandle.AddressOf
import CallHandle.Convention.Registry

/-!
What the library reports while it works. Events are computed from the same arguments as the results
they accompany, and never influence them.
-/

namespace CallHandle

inductive Level where
  | debug
  | trace
  deriving DecidableEq

inductive Event where
  /-- A new extension convention. -/
  | registered (tag : Extension)
  /-- A pointer conversion was looked at. -/
  | converted (source target : Operand) (direction : Direction) (accepted : Bool)
  /-- An instance member has no address. -/
  | instanceMember (group : String) (candidate : Signature)
  /-- The target's parameters do not reach a static member. -/
  | notApplicable (group : String) (candidate : Signature)
  /-- The address was taken. -/
  | bound (group : String) (handle target : Signature)
  deriving DecidableEq

/-- A value that an event carries. -/
inductive EventValue where
  | text (value : String)
  | number (value : Nat)
  | flag (value : Bool)
  deriving DecidableEq

namespace Event

def level : Event → Level
  | converted .. => .trace
  | registered _ | instanceMember .. | notApplicable .. | bound .. => .debug

def message : Event → String
  | registered _ => "registered extension convention"
  | converted .. => "pointer conversion"
  | instanceMember .. => "skipping instance member"
  | notApplicable .. => "not applicable"
  | bound .. => "bound address-of"

/-- The values beside the message, by name. -/
def fields : Event → List (String × EventValue)
  | registered tag => [("convention", .text tag.name), ("code", .number tag.code.toNat)]
  | converted source target direction accepted =>
    [("source", .text source.text), ("target", .text target.text),
      ("direction",
        .text (match direction with | .implicit => "Implicit" | .explicit => "Explicit")),
      ("accepted", .flag accepted)]
  | instanceMember group candidate | notApplicable group candidate =>
    [("group", .text group), ("candidate", .text candidate.text)]
  | bound group handle target =>
    [("group", .text group), ("bound", .text handle.text), ("target", .text target.text)]

end Event

/-- Only a new extension is reported. -/
def Registry.registerEvents (r : Registry) (name : String) : List Event :=
  (r.added? name).toList.map .registered

/-- The conversion as a whole is reported. Those of nested handles are not. -/
def Operand.convertEvents (T : ClassTable) (source target : Operand) (direction : Direction) :
    List Event :=
  [.converted source target direction (source.convertible T target direction)]

namespace Group

/-- What keeps a member out of the resolution. -/
def rejection? (T : ClassTable) (target : Signature) (g : Group) (member : Overload) :
    Option Event :=
  if !member.isStatic then
    some (.instanceMember g.name member.signature)
  else if !member.applicable T target.params then
    some (.notApplicable g.name member.signature)
  else
    none

/-- The rejected members in order, then the address if there is one. Without a handle type to
resolve against nothing is reported. -/
def addressEvents (T : ClassTable) (strategy : Strategy) (g : Group) : AddressTarget → List Event
  | .handle target =>
    g.members.filterMap (g.rejection? T target) ++
      match g.addressAs T strategy target with
      | .ok address => [.bound g.name address.handle target]
      | .error _ => []
  | .untyped | .unconstrained => []

end Group

end CallHandle
