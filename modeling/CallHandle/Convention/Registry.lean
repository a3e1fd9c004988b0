import CallHandle.Convention

/-!
The registry of conventions. Names are looked up without regard to ASCII case and bytes exactly,
and both look-ups search the same conventions: the built-in ones, then the extensions in the order
in which they were registered.
-/

namespace CallHandle

/-- The extensions registered so far, oldest first. -/
structure Registry where
  extensions : List Extension
  deriving DecidableEq

namespace Registry

/-- The registry that knows the built-in conventions only. -/
def empty : Registry := ⟨[]⟩

/-- Two names are the same name when their keys are equal. -/
def key (name : String) : String :=
  name.map Char.toLower

/-- Every convention the registry knows. -/
def conventions (r : Registry) : List Convention :=
  Convention.builtIns ++ r.extensions.map .extension

/-- The convention of a name as it is written in source. -/
def ofName? (r : Registry) (name : String) : Option Convention :=
  r.conventions.find? fun c => key c.name == key name

/-- The convention persisted as a byte. -/
def ofCode? (r : Registry) (code : UInt8) : Option Convention :=
  r.conventions.find? fun c => c.code == code

/-- The extension that the next new name is given, while bytes are left. -/
def next? (r : Registry) (name : String) : Option Extension :=
  if r.extensions.length < Extension.capacity then
    some ⟨Extension.firstCode + UInt8.ofNat r.extensions.length, name⟩
  else
    none

/-- Registers a name: the answer, and the registry afterwards. A known extension answers with its
first registration, a built-in name is refused, and neither changes the registry. -/
def register (r : Registry) (name : String) : Except RegistrationError Convention × Registry :=
  match r.ofName? name with
  | some (.extension tag) => (.ok (.extension tag), r)
  | some _ => (.error (.reservedName name), r)
  | none =>
    match r.next? name with
    | some tag => (.ok (.extension tag), ⟨r.extensions ++ [tag]⟩)
    | none => (.error .codesExhausted, r)

/-- The extension that registering a name adds, if it adds one. -/
def added? (r : Registry) (name : String) : Option Extension :=
  if (r.ofName? name).isNone then r.next? name else none

/-- The registry after registering names in order. -/
def after (r : Registry) (names : List String) : Registry :=
  names.foldl (fun r name => (r.register name).2) r

/-- The answers of registering names in order. -/
def answers (r : Registry) : List String → List (Except RegistrationError Convention)
  | [] => []
  | name :: names => (r.register name).1 :: (r.register name).2.answers names

/-- A registry that some run of registrations leaves behind. -/
def Reachable (r : Registry) : Prop :=
  ∃ names, r = empty.after names

end Registry

end CallHandle
