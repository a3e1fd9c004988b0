import CallHandle.Byte
import CallHandle.Double.Shortest

/-!
JSON values and their compact text. An object is a list of fields in the order in which it is
written.
-/

namespace CallHandle

inductive Json where
  | null
  | bool (value : Bool)
  | int (value : Int)
  /-- A number with a point or an exponent, as the bits of a double. -/
  | double (bits : UInt64)
  | str (value : String)
  | arr (items : List Json)
  | obj (fields : List (String × Json))
  deriving Inhabited

namespace Json

/-- A character inside quotes. Quotes, backslashes and control characters are escaped, and every
other character stands for itself. -/
def escape (c : Char) : List Char :=
  match c with
  | '"' => ['\\', '"']
  | '\\' => ['\\', '\\']
  | '\x08' => ['\\', 'b']
  | '\x0c' => ['\\', 'f']
  | '\n' => ['\\', 'n']
  | '\r' => ['\\', 'r']
  | '\t' => ['\\', 't']
  | c =>
    if c.toNat < 0x20 then
      ['\\', 'u', '0', '0', Byte.digit (c.toNat / 16), Byte.digit (c.toNat % 16)]
    else
      [c]

def quoted (s : String) : String :=
  "\"" ++ String.ofList (s.toList.flatMap escape) ++ "\""

mutual

/-- The text without any space. -/
def text : Json → String
  | null => "null"
  | bool true => "true"
  | bool false => "false"
  | int value => value.repr
  | double bits => Double.text bits
  | str value => quoted value
  | arr items => "[" ++ itemsText items ++ "]"
  | obj fields => "\x7b" ++ fieldsText fields ++ "\x7d"

def itemsText : List Json → String
  | [] => ""
  | [item] => item.text
  | item :: items => item.text ++ "," ++ itemsText items

def fieldsText : List (String × Json) → String
  | [] => ""
  | [(name, value)] => quoted name ++ ":" ++ value.text
  | (name, value) :: fields => quoted name ++ ":" ++ value.text ++ "," ++ fieldsText fields

end

end Json

end CallHandle
