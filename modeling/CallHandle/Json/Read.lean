import CallHandle.Json
import CallHandle.Signature.Formation
import CallHandle.Text.Glyph

/-!
Reading values from JSON trees. A record is an object with the record's fields, in any order and
among others, or an array with a value for each field in order. A variant is the string of its name
or an object with its name as the only field and its content below it. Whatever is refused first is
the answer: in an object the fields are looked at in the order of their names, in an array in the
order of the record, and a field that is absent counts only when all others are read.
-/

namespace CallHandle

variable {α β γ : Type}

/-- What a reader wants. -/
inductive Wanted where
  | string
  | boolean
  | byte
  | sequence
  | nothing
  | variant
  | record (form : String)
  deriving DecidableEq

def Wanted.text : Wanted → String
  | string => "a string"
  | boolean => "a boolean"
  | byte => "u8"
  | sequence => "a sequence"
  | nothing => "unit"
  | variant => "string or map"
  | record form => "struct " ++ form

/-- Why a JSON value is refused. -/
inductive ReadError where
  /-- The value is of another kind. -/
  | otherKind (found : Json) (wanted : Wanted)
  /-- A variant with content is written as a bare string. -/
  | bareVariant
  /-- The object of a variant does not have one field. -/
  | notOneField
  | unknownVariant (name : String) (known : List String)
  /-- The integer does not fit in a byte. -/
  | notByte (value : Int)
  | missingField (name : String)
  /-- The array has fewer items than the record has fields. -/
  | tooShort (length : Nat) (form : String) (fields : Nat)
  /-- The array has more items than the record has fields. -/
  | tooLong (length : Nat)
  | formation (error : FormationError)
  | registration (error : RegistrationError)

namespace Json

/-- A character inside the quotes of a message. A character without a glyph is shown by its code
point. -/
def showChar (c : Char) : List Char :=
  match c with
  | '"' => ['\\', '"']
  | '\\' => ['\\', '\\']
  | '\n' => ['\\', 'n']
  | '\r' => ['\\', 'r']
  | '\t' => ['\\', 't']
  | '\x00' => ['\\', '0']
  | c =>
    if Text.isHidden c then
      ['\\', 'u', '\x7b'] ++ Nat.toDigits 16 c.toNat ++ ['\x7d']
    else
      [c]

/-- A string in quotes as messages show it. -/
def shown (s : String) : String :=
  "\"" ++ String.ofList (s.toList.flatMap showChar) ++ "\""

/-- How a message names a value that it does not want. -/
def kind : Json → String
  | null => "null"
  | bool true => "boolean `true`"
  | bool false => "boolean `false`"
  | int value => "integer `" ++ value.repr ++ "`"
  | double bits => "floating point `" ++ Double.text bits ++ "`"
  | str value => "string " ++ shown value
  | arr _ => "sequence"
  | obj _ => "map"

end Json

/-- A list of names in a message: two are joined by a word and more are listed. -/
def ReadError.choices : List String → String
  | [a] => "`" ++ a ++ "`"
  | [a, b] => "`" ++ a ++ "` or `" ++ b ++ "`"
  | names => "one of " ++ ", ".intercalate (names.map fun name => "`" ++ name ++ "`")

def ReadError.message : ReadError → String
  | otherKind found wanted => "invalid type: " ++ found.kind ++ ", expected " ++ wanted.text
  | bareVariant => "invalid type: unit variant, expected newtype variant"
  | notOneField => "invalid value: map, expected map with a single key"
  | unknownVariant name known =>
    "unknown variant `" ++ name ++ "`, expected " ++ ReadError.choices known
  | notByte value => "invalid value: integer `" ++ value.repr ++ "`, expected u8"
  | missingField name => "missing field `" ++ name ++ "`"
  | tooShort length form fields =>
    "invalid length " ++ length.repr ++ ", expected struct " ++ form ++ " with " ++ fields.repr ++
      (if fields = 1 then " element" else " elements")
  | tooLong length =>
    "invalid length " ++ length.repr ++ ", expected fewer elements in array"
  | formation error => error.message
  | registration error => error.message

namespace Json

/-- A value inside another, smaller than it. -/
abbrev Part (j : Json) := { part : Json // sizeOf part < sizeOf j }

theorem sizeOf_item_lt {item : Json} {items : List Json} (h : item ∈ items) :
    sizeOf item < sizeOf (arr items) := by
  have := List.sizeOf_lt_of_mem h
  simp only [arr.sizeOf_spec]
  omega

theorem sizeOf_field_lt {field : String × Json} {fields : List (String × Json)}
    (h : field ∈ fields) : sizeOf field.2 < sizeOf (obj fields) := by
  have := List.sizeOf_lt_of_mem h
  have : sizeOf field = 1 + sizeOf field.1 + sizeOf field.2 := rfl
  simp only [obj.sizeOf_spec]
  omega

def readString : Json → Except ReadError String
  | str value => .ok value
  | other => .error (.otherKind other .string)

def readBool : Json → Except ReadError Bool
  | bool value => .ok value
  | other => .error (.otherKind other .boolean)

def readByte : Json → Except ReadError UInt8
  | int value =>
    if 0 ≤ value ∧ value < 256 then .ok (UInt8.ofNat value.toNat) else .error (.notByte value)
  | other => .error (.otherKind other .byte)

/-- The items of an array. -/
def items : (j : Json) → Except ReadError (List j.Part)
  | arr items => .ok (items.attach.map fun item => ⟨item.1, sizeOf_item_lt item.2⟩)
  | other => .error (.otherKind other .sequence)

/-- The name of a variant, and its content if it is written with one. -/
def variant : (j : Json) → Except ReadError (String × Option j.Part)
  | str name => .ok (name, none)
  | obj [field] => .ok (field.1, some ⟨field.2, sizeOf_field_lt (List.mem_singleton_self field)⟩)
  | obj _ => .error .notOneField
  | other => .error (.otherKind other .variant)

/-- A variant without content may still be written as an object, around `null`. -/
def readNothing {j : Json} : Option j.Part → Except ReadError Unit
  | none | some ⟨null, _⟩ => .ok ()
  | some ⟨other, _⟩ => .error (.otherKind other .nothing)

/-- The content of a variant that has some. -/
def content {j : Json} : Option j.Part → Except ReadError j.Part
  | some part => .ok part
  | none => .error .bareVariant

/-- A value of an enumeration, by the names of its values. -/
def readEnum (known : List (String × α)) (j : Json) : Except ReadError α := do
  let (name, content?) ← j.variant
  match known.lookup name with
  | some value => do
    readNothing content?
    return value
  | none => .error (.unknownVariant name (known.map Prod.fst))

/-- The members that a value has for the fields of a record. -/
structure Members (j : Json) where
  /-- The members found, in the order in which they are looked at. -/
  found : List (String × j.Part)
  /-- What the absence of a field is. -/
  absent : String → ReadError
  /-- What is wrong with the value when all its members are read. -/
  surplus? : Option ReadError

/-- The member of an object for a field. -/
def member? (fields : List (String × Json)) (name : String) : Option (obj fields).Part :=
  (fields.attach.find? fun field => field.1.1 == name).map fun field =>
    ⟨field.1.2, sizeOf_field_lt field.2⟩

/-- The members of a value for the fields of a record of the given form. -/
def members (form : String) (names : List String) : (j : Json) → Except ReadError j.Members
  | obj fields =>
    .ok
      { found := names.mergeSort.filterMap fun name =>
          (member? fields name).map fun part => (name, part)
        absent := .missingField
        surplus? := none }
  | arr items =>
    .ok
      { found := names.zip (items.attach.map fun item => ⟨item.1, sizeOf_item_lt item.2⟩)
        absent := fun _ => .tooShort items.length form names.length
        surplus? := if names.length < items.length then some (.tooLong items.length) else none }
  | other => .error (.otherKind other (.record form))

namespace Members

variable {j : Json}

/-- What reading the member for a field gives, if the member is there. -/
def read? (m : j.Members) (name : String) (read : j.Part → Except ReadError α) :
    Option (Except ReadError α) :=
  (m.found.lookup name).map read

/-- The refusal that reading a member gives. -/
def refusal? : Option (Except ReadError α) → Option ReadError
  | some (.error error) => some error
  | _ => none

/-- Answers with the first refusal in the order in which the members are looked at. -/
def settle (m : j.Members) (refusals : List (String × Option ReadError)) :
    Except ReadError Unit :=
  match m.found.findSome? fun member => (refusals.lookup member.1).join with
  | some error => .error error
  | none => .ok ()

/-- The value read for a field. -/
def take (m : j.Members) (name : String) : Option (Except ReadError α) → Except ReadError α
  | some result => result
  | none => .error (m.absent name)

/-- Nothing may be left over. -/
def close (m : j.Members) : Except ReadError Unit :=
  match m.surplus? with
  | some error => .error error
  | none => .ok ()

end Members

/-- A record of one field. -/
def record1 (j : Json) (form a : String) (readA : j.Part → Except ReadError α) :
    Except ReadError α := do
  let m ← j.members form [a]
  let x ← m.take a (m.read? a readA)
  m.close
  return x

/-- A record of two fields. -/
def record2 (j : Json) (form a b : String) (readA : j.Part → Except ReadError α)
    (readB : j.Part → Except ReadError β) : Except ReadError (α × β) := do
  let m ← j.members form [a, b]
  let x? := m.read? a readA
  let y? := m.read? b readB
  m.settle [(a, Members.refusal? x?), (b, Members.refusal? y?)]
  let x ← m.take a x?
  let y ← m.take b y?
  m.close
  return (x, y)

/-- A record of three fields. -/
def record3 (j : Json) (form a b c : String) (readA : j.Part → Except ReadError α)
    (readB : j.Part → Except ReadError β) (readC : j.Part → Except ReadError γ) :
    Except ReadError (α × β × γ) := do
  let m ← j.members form [a, b, c]
  let x? := m.read? a readA
  let y? := m.read? b readB
  let z? := m.read? c readC
  m.settle [(a, Members.refusal? x?), (b, Members.refusal? y?), (c, Members.refusal? z?)]
  let x ← m.take a x?
  let y ← m.take b y?
  let z ← m.take c z?
  m.close
  return (x, y, z)

end Json

end CallHandle
