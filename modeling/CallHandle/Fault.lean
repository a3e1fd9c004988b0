import CallHandle.AddressOf
import CallHandle.Placement
import CallHandle.Stored.Load

/-!
The faults found while handles are checked, one for each stage of checking. A fault has a stable
code, a message, a label for the place in the source where it was found, and sometimes a hint.
-/

namespace CallHandle

/-- A fault of any stage. -/
inductive Fault where
  | formation (error : FormationError)
  | conversion (error : Mismatch)
  | address (error : AddressError)
  | storage (error : StorageError)
  | placement (error : PlacementError)
  deriving DecidableEq

def FormationError.code : FormationError → String
  | invalidKeywords .. => "E0301"
  | outReturn => "E0302"
  | voidParameter _ => "E0303"
  | voidByReference => "E0304"

def FormationError.label : FormationError → String
  | invalidKeywords position _ => "not a valid passing mode for the " ++ position.text
  | outReturn => "`out` return"
  | voidParameter index => "parameter " ++ (index + 1).repr ++ " is `void`"
  | voidByReference => "`void` returned by reference"

def Mismatch.code : Mismatch → String
  | castRequired _ => "E0310"
  | parameterCount .. => "E0311"
  | mode .. => "E0312"
  | type .. => "E0313"
  | result .. => "E0314"
  | convention .. => "E0315"

def Mismatch.label : Mismatch → String
  | castRequired _ => "implicit conversion from `void*`"
  | parameterCount source target =>
    "expected " ++ target.repr ++ " parameter(s), found " ++ source.repr
  | mode index source target =>
    "parameter " ++ (index + 1).repr ++ " is `" ++ source.text ++ "` here but `" ++ target.text ++
      "` in the target"
  | type index source target =>
    "parameter " ++ (index + 1).repr ++ ": expected `" ++ target.text ++ "`, found `" ++
      source.text ++ "`"
  | result source target => "expected `" ++ target.text ++ "`, found `" ++ source.text ++ "`"
  | convention source target => "`" ++ source.text ++ "` is not `" ++ target.text ++ "`"

def AddressError.code : AddressError → String
  | noTarget .. => "E0320"
  | noCandidate _ => "E0321"
  | ambiguous .. => "E0322"
  | mismatch .. => "E0323"

def AddressError.label : AddressError → String
  | noTarget _ count => count.repr ++ " static overloads"
  | noCandidate _ => "no matching static overload"
  | ambiguous _ candidates => candidates.length.repr ++ " overloads match equally well"
  | mismatch _ _ reason => reason.label

def StorageError.code : StorageError → String
  | outputReturn => "E0330"
  | conflictingMarkers _ => "E0331"
  | markedValue _ => "E0332"
  | unknownConvention _ => "E0333"

def PlacementError.code : PlacementError → String
  | safeCode _ => "E0340"
  | typeArgument _ => "E0341"
  | boxing _ => "E0342"

def PlacementError.label : PlacementError → String
  | safeCode _ => "pointer type in safe code"
  | typeArgument _ => "handle type as type argument"
  | boxing _ => "handle converted to `object`"

namespace Fault

/-- Loading fails in the storage or in the forming of a signature. -/
def ofLoad : LoadError → Fault
  | .storage error => storage error
  | .formation error => formation error

def code : Fault → String
  | formation e => e.code
  | conversion e => e.code
  | address e => e.code
  | storage e => e.code
  | placement e => e.code

def message : Fault → String
  | formation e => e.message
  | conversion e => e.message
  | address e => e.message
  | storage e => e.message
  | placement e => e.message

def label : Fault → String
  | formation e => e.label
  | conversion e => e.label
  | address e => e.label
  | storage _ => "in this persisted signature"
  | placement e => e.label

/-- What to do about the fault, where there is one thing to do. -/
def hint? : Fault → Option String
  | conversion (.castRequired target) => some ("cast explicitly: `(" ++ target.text ++ ")ptr`")
  | conversion (.convention ..) | address (.mismatch _ _ (.convention ..)) =>
    some "calling conventions must match exactly"
  | formation .outReturn => some "return by `ref` instead"
  | address (.noTarget ..) => some "assign to a typed handle to select an overload"
  | placement (.safeCode _) => some "move this into an `unsafe` context"
  | _ => none

end Fault

end CallHandle
