import CallHandle.Widening

/-!
Overload resolution. Arguments are given by their types and modes, and a member is applicable when
it has a parameter for every argument, with the same mode, that the argument widens to. Among the
applicable members the best one is better than each of the others: at no position is the other's
parameter the better conversion, and at some position its own is.
-/

namespace CallHandle

/-- A function declaration in a group of overloads. -/
structure Overload where
  name : String
  signature : Signature
  isStatic : Bool
  deriving DecidableEq

/-- A declaration together with its position in the group. Two candidates are the same when their
positions are, since a group may declare the same thing twice. -/
structure Candidate where
  position : Nat
  overload : Overload
  deriving DecidableEq

/-- The best of several candidates, if one is. -/
inductive Best where
  | absent
  | unique (candidate : Candidate)
  | ambiguous (candidates : List Candidate)
  deriving DecidableEq

/-- Whether a call with the given arguments can reach the member. -/
def Overload.applicable (T : ClassTable) (args : List Param) (member : Overload) : Bool :=
  member.signature.params.length == args.length &&
    (args.zip member.signature.params).all fun (arg, param) => arg.widens T param

namespace Overload

/-- Whether an argument converts better to the left type than to the right one: its own type is
best, and then the more specific of two types. -/
def betterType (T : ClassTable) (arg left right : Ty) : Bool :=
  left != right &&
    (arg == left || arg != right && left.widens T right && !right.widens T left)

/-- The arguments, each with the parameters that the two members have for it. -/
def aligned (args : List Param) (left right : Overload) : List (Param × Param × Param) :=
  args.zip (left.signature.params.zip right.signature.params)

/-- Whether the left member is better than the right one for the arguments. -/
def better (T : ClassTable) (args : List Param) (left right : Overload) : Bool :=
  (aligned args left right).all (fun (arg, l, r) => !betterType T arg.ty r.ty l.ty) &&
    (aligned args left right).any fun (arg, l, r) => betterType T arg.ty l.ty r.ty

end Overload

namespace Candidate

/-- Whether the candidate is better than every entry at another position. -/
def beatsOthers (T : ClassTable) (args : List Param) (entries : List Candidate) (c : Candidate) :
    Bool :=
  (entries.filter fun other => other.position != c.position).all fun other =>
    c.overload.better T args other.overload

/-- Whether no entry is better than the candidate. -/
def undominated (T : ClassTable) (args : List Param) (entries : List Candidate) (c : Candidate) :
    Bool :=
  !entries.any fun other => other.overload.better T args c.overload

end Candidate

/-- The first entry that beats all others, or the entries that nothing beats. -/
def Best.among (T : ClassTable) (args : List Param) : List Candidate → Best
  | [] => .absent
  | entries =>
    match entries.find? (Candidate.beatsOthers T args entries) with
    | some best => .unique best
    | none => .ambiguous (entries.filter (Candidate.undominated T args entries))

end CallHandle
