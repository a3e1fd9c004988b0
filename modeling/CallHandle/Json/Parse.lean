import CallHandle.Double.Rounding
import CallHandle.Json

/-!
Reading JSON text. A field that is written twice has its last value. Integers that fit in 64 bits,
signed or unsigned, stay integers, and every other number is a double.
-/

namespace CallHandle.Json

def isBlank (c : Char) : Bool :=
  c == ' ' || c == '\t' || c == '\n' || c == '\r'

def skipBlanks (cs : List Char) : List Char :=
  cs.dropWhile isBlank

def hexValue? (c : Char) : Option Nat :=
  Byte.digits.findIdx? fun d => d == c.toLower

/-- The number that four hexadecimal digits spell. -/
def hexValue4? (a b c d : Char) : Option Nat := do
  return (((← hexValue? a) * 16 + (← hexValue? b)) * 16 + (← hexValue? c)) * 16 + (← hexValue? d)

/-- The character that stands for itself or for a control character after a backslash. -/
def unescape? : Char → Option Char
  | '"' => some '"'
  | '\\' => some '\\'
  | '/' => some '/'
  | 'b' => some '\x08'
  | 'f' => some '\x0c'
  | 'n' => some '\n'
  | 'r' => some '\r'
  | 't' => some '\t'
  | _ => none

/-- The characters up to the closing quote, and the rest after it. A character beyond the basic
plane may be spelled by a pair of surrogates. -/
def parseString? : List Char → Option (List Char × List Char)
  | [] => none
  | '"' :: rest => some ([], rest)
  | '\\' :: 'u' :: a :: b :: c :: d :: rest => do
    let unit ← hexValue4? a b c d
    if 0xd800 ≤ unit ∧ unit < 0xdc00 then
      match rest with
      | '\\' :: 'u' :: a :: b :: c :: d :: rest =>
        let low ← hexValue4? a b c d
        if 0xdc00 ≤ low ∧ low < 0xe000 then
          let (cs, rest) ← parseString? rest
          return (Char.ofNat (0x10000 + (unit - 0xd800) * 0x400 + (low - 0xdc00)) :: cs, rest)
        else
          none
      | _ => none
    else if 0xdc00 ≤ unit ∧ unit < 0xe000 then
      none
    else
      let (cs, rest) ← parseString? rest
      return (Char.ofNat unit :: cs, rest)
  | '\\' :: e :: rest => do
    let c ← unescape? e
    let (cs, rest) ← parseString? rest
    return (c :: cs, rest)
  | c :: rest =>
    if c.toNat < 0x20 then
      none
    else do
      let (cs, rest) ← parseString? rest
      return (c :: cs, rest)

/-- An integer with one more digit at its end. -/
def pushDigit (n : Nat) (c : Char) : Nat :=
  n * 10 + (c.toNat - '0'.toNat)

def natOfDigits (cs : List Char) : Nat :=
  cs.foldl pushDigit 0

/-- The decimal of the digits before the point. Once they exceed 64 bits, the rest counts as
zeros. -/
def wholePart (cs : List Char) : Double.Decimal :=
  cs.foldl (fun d c =>
    if d.exponent = 0 ∧ pushDigit d.digits c < UInt64.size then
      ⟨pushDigit d.digits c, 0⟩
    else
      ⟨d.digits, d.exponent + 1⟩) ⟨0, 0⟩

/-- Goes on with the digits after the point. Once they exceed 64 bits, the rest is dropped. -/
def withFraction (d : Double.Decimal) : List Char → Double.Decimal
  | [] => d
  | c :: cs =>
    if pushDigit d.digits c < UInt64.size then
      withFraction ⟨pushDigit d.digits c, d.exponent - 1⟩ cs
    else
      d

/-- The double of a decimal with a sign. Infinite ones are refused. -/
def signedDouble? (negative : Bool) (d : Double.Decimal) : Option Json := do
  let bits ← Double.ofDecimal? d
  return double (if negative then Double.negate bits else bits)

/-- A number without a point or an exponent. Minus zero is a double, since no integer is. -/
def integer? (negative : Bool) (cs : List Char) : Option Json :=
  let n := natOfDigits cs
  if negative then
    if n = 0 ∨ 1 <<< 63 < n then signedDouble? true (wholePart cs) else some (int (-n))
  else if UInt64.size ≤ n then
    signedDouble? false (wholePart cs)
  else
    some (int n)

/-- One or more digits. -/
def parseDigits? (cs : List Char) : Option (List Char × List Char) :=
  match cs.span Char.isDigit with
  | ([], _) => none
  | found => some found

/-- A signed exponent after its letter. -/
def parseExponent? (cs : List Char) : Option (Int × List Char) :=
  match cs with
  | '-' :: rest => (parseDigits? rest).map fun (ds, rest) => (-natOfDigits ds, rest)
  | '+' :: rest => (parseDigits? rest).map fun (ds, rest) => (natOfDigits ds, rest)
  | rest => (parseDigits? rest).map fun (ds, rest) => (natOfDigits ds, rest)

/-- The digits before the point. Zero is the only one that starts with a zero. -/
def parseWhole? (cs : List Char) : Option (List Char × List Char) :=
  match parseDigits? cs with
  | some ('0' :: _ :: _, _) => none
  | found => found

def parseMagnitude? (negative : Bool) (cs : List Char) : Option (Json × List Char) := do
  let (whole, rest) ← parseWhole? cs
  let (fraction, rest) ←
    match rest with
    | '.' :: rest => (parseDigits? rest).map fun (ds, rest) => (some ds, rest)
    | rest => some (none, rest)
  let (exponent, rest) ←
    match rest with
    | 'e' :: rest | 'E' :: rest => (parseExponent? rest).map fun (e, rest) => (some e, rest)
    | rest => some (none, rest)
  match fraction, exponent with
  | none, none => return (← integer? negative whole, rest)
  | fraction, exponent =>
    let d := withFraction (wholePart whole) (fraction.getD [])
    return (← signedDouble? negative ⟨d.digits, d.exponent + exponent.getD 0⟩, rest)

def parseNumber? : List Char → Option (Json × List Char)
  | '-' :: rest => parseMagnitude? true rest
  | rest => parseMagnitude? false rest

/-- Sets a field, in place if it is there already. -/
def setField (fields : List (String × Json)) (name : String) (value : Json) :
    List (String × Json) :=
  if fields.any fun field => field.1 == name then
    fields.map fun field => if field.1 == name then (name, value) else field
  else
    fields ++ [(name, value)]

mutual

/-- A value, and the rest of the text. The first argument bounds the depth of the recursion, and
the length of the text is enough. The second one is how many arrays and objects may be nested. -/
def parseValue? : Nat → Nat → List Char → Option (Json × List Char)
  | 0, _, _ => none
  | fuel + 1, depth, cs =>
    match skipBlanks cs with
    | 'n' :: 'u' :: 'l' :: 'l' :: rest => some (null, rest)
    | 't' :: 'r' :: 'u' :: 'e' :: rest => some (bool true, rest)
    | 'f' :: 'a' :: 'l' :: 's' :: 'e' :: rest => some (bool false, rest)
    | '"' :: rest => do
      let (s, rest) ← parseString? rest
      return (str (String.ofList s), rest)
    | '[' :: rest => do
      guard (0 < depth)
      match skipBlanks rest with
      | ']' :: rest => return (arr [], rest)
      | rest =>
        let (items, rest) ← parseItems? fuel (depth - 1) rest
        return (arr items, rest)
    | '\x7b' :: rest => do
      guard (0 < depth)
      match skipBlanks rest with
      | '\x7d' :: rest => return (obj [], rest)
      | rest =>
        let (fields, rest) ← parseFields? fuel (depth - 1) [] rest
        return (obj fields, rest)
    | rest => parseNumber? rest

/-- The items of an array and the bracket that closes it. -/
def parseItems? : Nat → Nat → List Char → Option (List Json × List Char)
  | 0, _, _ => none
  | fuel + 1, depth, cs => do
    let (item, rest) ← parseValue? fuel depth cs
    match skipBlanks rest with
    | ',' :: rest =>
      let (items, rest) ← parseItems? fuel depth rest
      return (item :: items, rest)
    | ']' :: rest => return ([item], rest)
    | _ => none

/-- The fields of an object after those read before, and the brace that closes it. -/
def parseFields? : Nat → Nat → List (String × Json) → List Char →
    Option (List (String × Json) × List Char)
  | 0, _, _, _ => none
  | fuel + 1, depth, fields, cs =>
    match skipBlanks cs with
    | '"' :: rest => do
      let (name, rest) ← parseString? rest
      match skipBlanks rest with
      | ':' :: rest =>
        let (value, rest) ← parseValue? fuel depth rest
        let fields := setField fields (String.ofList name) value
        match skipBlanks rest with
        | ',' :: rest => parseFields? fuel depth fields rest
        | '\x7d' :: rest => return (fields, rest)
        | _ => none
      | _ => none
    | _ => none

end

/-- How many arrays and objects may be nested in a text. -/
def maxDepth : Nat :=
  127

/-- The value that a text spells, with nothing but blanks around it. -/
def parse? (text : String) : Option Json :=
  match parseValue? (text.length + 1) maxDepth text.toList with
  | some (value, rest) => if (skipBlanks rest).isEmpty then some value else none
  | none => none

end CallHandle.Json
