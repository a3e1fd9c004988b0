import CallHandle.Json.Read

/-!
The JSON form of conventions.
-/

namespace CallHandle

namespace Family

def names : List (String × Family) :=
  [("Managed", managed), ("Unmanaged", unmanaged)]

def json : Family → Json
  | managed => .str "Managed"
  | unmanaged => .str "Unmanaged"

def read (j : Json) : Except ReadError Family :=
  j.readEnum names

end Family

namespace Extension

def json (tag : Extension) : Json :=
  .obj [("code", .int tag.code.toNat), ("name", .str tag.name)]

/-- An extension that claims a byte of a built-in convention is refused. -/
def read (j : Json) : Except ReadError Extension := do
  let (code, name) ← j.record2 "RawExtensionTag" "code" "name" (fun p => p.1.readByte)
    fun p => p.1.readString
  (make code name).mapError .registration

end Extension

namespace Convention

/-- The names of the conventions without content, and of extensions as such. -/
def variants : List String :=
  ["Managed", "Cdecl", "Stdcall", "Thiscall", "UnmanagedDefault", "Extension"]

def json : Convention → Json
  | managed => .str "Managed"
  | cdecl => .str "Cdecl"
  | stdcall => .str "Stdcall"
  | thiscall => .str "Thiscall"
  | unmanagedDefault => .str "UnmanagedDefault"
  | extension tag => .obj [("Extension", tag.json)]

def read (j : Json) : Except ReadError Convention := do
  let (name, content?) ← j.variant
  let plain (convention : Convention) : Except ReadError Convention := do
    Json.readNothing content?
    return convention
  match name with
  | "Managed" => plain managed
  | "Cdecl" => plain cdecl
  | "Stdcall" => plain stdcall
  | "Thiscall" => plain thiscall
  | "UnmanagedDefault" => plain unmanagedDefault
  | "Extension" => do
    let part ← Json.content content?
    return extension (← Extension.read part.1)
  | name => .error (.unknownVariant name variants)

end Convention

end CallHandle
