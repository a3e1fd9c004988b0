import CallHandle.Convention.Registry

/-!
A registry kept as two tables. Names are looked up in a table from keys to conventions. A byte that is
no built-in convention's is a position among the extensions, counted from the first byte of their
range. A new name goes into both tables.
-/

namespace CallHandle

/-- The two tables: conventions by key, and extensions in the order of their bytes. -/
structure Index where
  byName : List (String × Convention)
  byCode : List Extension

/-- The tables of what a registry knows. -/
def Registry.index (r : Registry) : Index :=
  ⟨r.conventions.map fun c => (key c.name, c), r.extensions⟩

namespace Index

def empty : Index :=
  ⟨Convention.builtIns.map fun c => (Registry.key c.name, c), []⟩

def ofName? (t : Index) (name : String) : Option Convention :=
  t.byName.lookup (Registry.key name)

def ofCode? (t : Index) (code : UInt8) : Option Convention :=
  match Convention.builtIns.find? fun c => c.code == code with
  | some c => some c
  | none =>
    if code < Extension.firstCode then
      none
    else
      (t.byCode[code.toNat - Extension.firstCode.toNat]?).map .extension

/-- Registers a name: the answer, and the tables afterwards. There is room while the next byte is
one. -/
def register (t : Index) (name : String) : Except RegistrationError Convention × Index :=
  match t.ofName? name with
  | some (.extension tag) => (.ok (.extension tag), t)
  | some _ => (.error (.reservedName name), t)
  | none =>
    let next := Extension.firstCode.toNat + t.byCode.length
    if next < 256 then
      let tag : Extension := ⟨UInt8.ofNat next, name⟩
      (.ok (.extension tag),
        ⟨t.byName ++ [(Registry.key name, .extension tag)], t.byCode ++ [tag]⟩)
    else
      (.error .codesExhausted, t)

/-- The tables after registering names in order. -/
def after (t : Index) (names : List String) : Index :=
  names.foldl (fun t name => (t.register name).2) t

end Index

end CallHandle
