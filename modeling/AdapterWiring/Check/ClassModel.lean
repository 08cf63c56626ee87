import AdapterWiring.Declaration.Basic

/-!
# Facts about classes

* **ClassModel** — a way to ask about classes, fields and methods.
* **problems** — what is wrong with a clause, each problem with the line of
  the operand.
* **type?** — the type that a clause asks for or produces.

The questions are asked in a fixed order, each as often as the check needs it,
so that the effects of asking are part of the outcome.
-/

namespace AdapterWiring

/-! ## Models -/

/-- What is known of a field. -/
structure FieldInfo where
  /-- Its declared type. -/
  type : String
  /-- Whether it belongs to the class rather than to its instances. -/
  isStatic : Bool
deriving DecidableEq, Inhabited

/-- What is known of a method. -/
structure MethodInfo where
  /-- Its declared return type. -/
  returns : String
  /-- Whether it belongs to the class rather than to its instances. -/
  isStatic : Bool
  /-- The number of its parameters. -/
  arity : Nat
deriving DecidableEq, Inhabited

/-- A way to ask about classes, with effects in `m`. -/
structure ClassModel (m : Type → Type) where
  /-- Whether there is a class of the name. -/
  hasClass : String → m Bool
  /-- The field of a class. -/
  field? : String → String → m (Option FieldInfo)
  /-- The method of a class. -/
  method? : String → String → m (Option MethodInfo)

/-! ## Problems -/

/-- What is wrong with an operand. -/
inductive ClauseProblem where
  /-- There is no such class. -/
  | classNotFound (name : String)
  /-- The class has no such field. -/
  | fieldNotFound (owner member : String)
  /-- The field belongs to instances. -/
  | fieldNotStatic (owner member : String)
  /-- The class has no such method. -/
  | methodNotFound (owner member : String)
  /-- The method belongs to instances. -/
  | methodNotStatic (owner member : String)
  /-- The method has parameters. -/
  | methodTakesArguments (owner member : String) (arity : Nat)
deriving DecidableEq, Inhabited

/-- The wording of a problem. -/
def ClauseProblem.message : ClauseProblem → String
  | classNotFound name => "class '" ++ name ++ "' not found"
  | fieldNotFound owner member => "field '" ++ member ++ "' not found in class '" ++ owner ++ "'"
  | fieldNotStatic owner member => "field '" ++ owner ++ "." ++ member ++ "' is not static"
  | methodNotFound owner member =>
    "method '" ++ member ++ "' not found in class '" ++ owner ++ "'"
  | methodNotStatic owner member => "method '" ++ owner ++ "." ++ member ++ "' is not static"
  | methodTakesArguments owner member arity =>
    "method '" ++ owner ++ "." ++ member ++ "' takes " ++ toString arity ++
      " argument(s), expected none"

/-- A problem at a line. -/
structure Located (α : Type) where
  /-- The line. -/
  line : UInt32
  /-- The problem. -/
  problem : α
deriving DecidableEq

variable {m : Type → Type} [Monad m]

namespace ClassOperand

/-- What is wrong with a class operand: the class may not exist. -/
def problems (operand : ClassOperand) (model : ClassModel m) :
    m (List (Located ClauseProblem)) := do
  if ← model.hasClass operand.name then return []
  else return [⟨operand.line, .classNotFound operand.name⟩]

end ClassOperand

namespace MemberOperand

/-- What is wrong with a field operand. -/
def fieldProblems (operand : MemberOperand) (model : ClassModel m) (mustBeStatic : Bool) :
    m (List (Located ClauseProblem)) := do
  if ← model.hasClass operand.owner then
    match ← model.field? operand.owner operand.member with
    | none => return [⟨operand.line, .fieldNotFound operand.owner operand.member⟩]
    | some field =>
      if mustBeStatic && !field.isStatic then
        return [⟨operand.line, .fieldNotStatic operand.owner operand.member⟩]
      else return []
  else return [⟨operand.line, .classNotFound operand.owner⟩]

/-- What is wrong with the operand of a call. -/
def callProblems (operand : MemberOperand) (model : ClassModel m) :
    m (List (Located ClauseProblem)) := do
  if ← model.hasClass operand.owner then
    match ← model.method? operand.owner operand.member with
    | none => return [⟨operand.line, .methodNotFound operand.owner operand.member⟩]
    | some method =>
      let static : List (Located ClauseProblem) :=
        if method.isStatic then []
        else [⟨operand.line, .methodNotStatic operand.owner operand.member⟩]
      let arity : List (Located ClauseProblem) :=
        if method.arity = 0 then []
        else [⟨operand.line, .methodTakesArguments operand.owner operand.member method.arity⟩]
      return static ++ arity
  else return [⟨operand.line, .classNotFound operand.owner⟩]

end MemberOperand

/-! ## Clauses -/

namespace Target

/-- What is wrong with a target. -/
def problems (model : ClassModel m) : Target → m (List (Located ClauseProblem))
  | field operand => operand.fieldProblems model false

/-- The type that a target asks for. -/
def type? (model : ClassModel m) : Target → m (Option String)
  | field operand => do
    return (← model.field? operand.owner operand.member).map (·.type)

end Target

namespace Source

/-- What is wrong with a source. -/
def problems (model : ClassModel m) : Source → m (List (Located ClauseProblem))
  | field operand => operand.fieldProblems model true
  | fresh operand => operand.problems model
  | call operand => operand.callProblems model
  | single operand => operand.problems model

/-- The type of the object that a source produces. -/
def type? (model : ClassModel m) : Source → m (Option String)
  | field operand => do
    return (← model.field? operand.owner operand.member).map (·.type)
  | fresh operand => do
    return if ← model.hasClass operand.name then some operand.name else none
  | call operand => do
    return (← model.method? operand.owner operand.member).map (·.returns)
  | single operand => do
    return if ← model.hasClass operand.name then some operand.name else none

end Source

end AdapterWiring
