import CallHandle.Byte

/-!
Calling conventions. A convention is one of five built-in ones or an extension that was given a
name and a byte of its own. Each has the byte it is persisted as, a name, and a written form, and
two conventions agree only when they are the same convention.
-/

namespace CallHandle

/-- The managed family holds the runtime's own convention alone. -/
inductive Family where
  | managed
  | unmanaged
  deriving DecidableEq

/-- A convention beyond the built-in ones: its persisted byte and the spelling of its name. -/
structure Extension where
  code : UInt8
  name : String
  deriving DecidableEq

/-- The calling convention of a handle. `unmanagedDefault` is the platform's own choice. -/
inductive Convention where
  | managed
  | cdecl
  | stdcall
  | thiscall
  | unmanagedDefault
  | extension (tag : Extension)
  deriving DecidableEq

/-- Why a convention name or byte is refused. -/
inductive RegistrationError where
  /-- The name is that of a built-in convention. -/
  | reservedName (name : String)
  /-- An extension claims a byte below the extension range. -/
  | reservedCode (code : UInt8)
  /-- Every byte of the extension range is taken. -/
  | codesExhausted
  deriving DecidableEq

def RegistrationError.message : RegistrationError → String
  | reservedName name => "calling convention `" ++ name ++ "` is built in"
  | reservedCode code => "calling convention byte " ++ Byte.hex code ++ " is reserved"
  | codesExhausted => "no calling convention bytes left for extensions"

namespace Extension

/-- The first byte of the extension range. The bytes below it are kept for built-in conventions. -/
def firstCode : UInt8 := 0x10

/-- How many bytes the extension range holds. -/
def capacity : Nat := 256 - firstCode.toNat

/-- An extension with a given byte, refused when the byte is kept for built-in conventions. -/
def make (code : UInt8) (name : String) : Except RegistrationError Extension :=
  if code < firstCode then .error (.reservedCode code) else .ok ⟨code, name⟩

end Extension

namespace Convention

/-- The built-in conventions, in the order of their bytes. -/
def builtIns : List Convention :=
  [managed, cdecl, stdcall, thiscall, unmanagedDefault]

def family : Convention → Family
  | managed => .managed
  | _ => .unmanaged

/-- The byte the convention is persisted as. -/
def code : Convention → UInt8
  | managed => 0
  | cdecl => 1
  | stdcall => 2
  | thiscall => 3
  | unmanagedDefault => 9
  | extension tag => tag.code

def name : Convention → String
  | managed => "managed"
  | cdecl => "Cdecl"
  | stdcall => "Stdcall"
  | thiscall => "Thiscall"
  | unmanagedDefault => "unmanaged"
  | extension tag => tag.name

/-- The written form. The managed convention and the platform default are bare words, and every
other convention is named in brackets. -/
def text : Convention → String
  | managed => "managed"
  | unmanagedDefault => "unmanaged"
  | convention => "unmanaged[" ++ convention.name ++ "]"

/-- Even two unmanaged conventions disagree about the stack, so nothing short of equality will
do. -/
def compatible (a b : Convention) : Bool :=
  a == b

/-- An extension lies in the extension range. Built-in conventions have nothing to satisfy. -/
def WellFormed : Convention → Prop
  | extension tag => Extension.firstCode ≤ tag.code
  | _ => True

instance : DecidablePred WellFormed
  | extension tag => inferInstanceAs (Decidable (Extension.firstCode ≤ tag.code))
  | managed | cdecl | stdcall | thiscall | unmanagedDefault => .isTrue trivial

end Convention

end CallHandle
