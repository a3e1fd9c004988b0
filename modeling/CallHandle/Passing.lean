/-!
How values pass through a call: the modes of parameters and returns, and the keyword lists that
spell them in source.
-/

namespace CallHandle

/-- How a parameter is passed. `byIn` is a reference the callee only reads. -/
inductive ParamMode where
  | byValue
  | byRef
  | byOut
  | byIn
  deriving DecidableEq

/-- How a result is returned. -/
inductive ReturnMode where
  | byValue
  | byRef
  | byReadonlyRef
  deriving DecidableEq

/-- A modifier keyword in front of a descriptor's type. -/
inductive Keyword where
  | ref
  | out
  | readIn
  | readonly
  deriving DecidableEq

/-- Where a descriptor stands in its signature. Parameters count from zero. -/
inductive Position where
  | parameter (index : Nat)
  | result
  deriving DecidableEq

/-- Readers count parameters from one. -/
def Position.text : Position → String
  | parameter index => "parameter " ++ (index + 1).repr
  | result => "return type"

namespace Keyword

def text : Keyword → String
  | ref => "ref"
  | out => "out"
  | readIn => "in"
  | readonly => "readonly"

def textOf (keywords : List Keyword) : String :=
  " ".intercalate (keywords.map text)

end Keyword

namespace ParamMode

def isByRef (mode : ParamMode) : Bool :=
  mode != byValue

/-- The keyword in front of a parameter. A value has none. -/
def keyword? : ParamMode → Option String
  | byValue => none
  | byRef => some "ref"
  | byOut => some "out"
  | byIn => some "in"

def text (mode : ParamMode) : String :=
  mode.keyword?.getD "value"

/-- The mode that a keyword list spells. A read-only reference has two spellings. -/
def ofKeywords? : List Keyword → Option ParamMode
  | [] => some byValue
  | [.ref] => some byRef
  | [.out] => some byOut
  | [.readIn] => some byIn
  | [.ref, .readonly] => some byIn
  | _ => none

/-- The shortest spelling of a mode. -/
def keywords : ParamMode → List Keyword
  | byValue => []
  | byRef => [.ref]
  | byOut => [.out]
  | byIn => [.readIn]

theorem ofKeywords?_keywords (mode : ParamMode) : ofKeywords? mode.keywords = some mode := by
  cases mode <;> rfl

end ParamMode

namespace ReturnMode

def isByRef (mode : ReturnMode) : Bool :=
  mode != byValue

/-- The keywords in front of a return type. A value has none. -/
def keyword? : ReturnMode → Option String
  | byValue => none
  | byRef => some "ref"
  | byReadonlyRef => some "ref readonly"

def text (mode : ReturnMode) : String :=
  mode.keyword?.getD "value"

/-- The mode that a keyword list spells. -/
def ofKeywords? : List Keyword → Option ReturnMode
  | [] => some byValue
  | [.ref] => some byRef
  | [.ref, .readonly] => some byReadonlyRef
  | _ => none

def keywords : ReturnMode → List Keyword
  | byValue => []
  | byRef => [.ref]
  | byReadonlyRef => [.ref, .readonly]

theorem ofKeywords?_keywords (mode : ReturnMode) : ofKeywords? mode.keywords = some mode := by
  cases mode <;> rfl

end ReturnMode

end CallHandle
