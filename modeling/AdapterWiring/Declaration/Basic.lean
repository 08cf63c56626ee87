/-!
# Declarations

What a specification says: which object goes where, and which adapter is
preferred to which.

* **Target** — where an object is injected.
* **Source** — what is injected there.
* **Association** — a source for a target, with the adapter asked for, if any.
* **Ranking** — one adapter preferred to another.
* **render** — the text of a declaration, operands and keywords separated by
  single blanks.
-/

namespace AdapterWiring

/-! ## Operands -/

/-- Where a declaration stands. -/
structure Origin where
  /-- The file, as its path was given. -/
  file : String
  /-- The line of its first operand. -/
  line : UInt32
deriving DecidableEq, Inhabited

/-- A class named in a declaration. -/
structure ClassOperand where
  /-- The qualified name. -/
  name : String
  /-- The line it stands on. -/
  line : UInt32
deriving DecidableEq, Inhabited

/-- A field or method named in a declaration. -/
structure MemberOperand where
  /-- The qualified name of the class. -/
  owner : String
  /-- The name of the member. -/
  member : String
  /-- The line it stands on. -/
  line : UInt32
deriving DecidableEq, Inhabited

namespace MemberOperand

/-- Cut a qualified name at its last dot; both parts must hold something. -/
def split? (qualified : String) (line : UInt32) : Option MemberOperand :=
  let reversed := qualified.toList.reverse
  let member := (reversed.takeWhile (· ≠ '.')).reverse
  match reversed.dropWhile (· ≠ '.') with
  | _ :: c :: owner =>
    if member.isEmpty then none
    else some ⟨String.ofList (c :: owner).reverse, String.ofList member, line⟩
  | _ => none

/-- The qualified name. -/
def render (operand : MemberOperand) : String := operand.owner ++ "." ++ operand.member

/-- Whether two operands name the same member, wherever they stand. -/
def sameMember (first second : MemberOperand) : Bool :=
  first.owner == second.owner && first.member == second.member

end MemberOperand

/-! ## Clauses -/

/-- Where an object is injected. -/
inductive Target where
  /-- Into a field. -/
  | field (operand : MemberOperand)
deriving DecidableEq, Inhabited

namespace Target

/-- The line of the operand. -/
def line : Target → UInt32
  | field operand => operand.line

/-- Whether two targets are the same place; unlike equality this ignores lines. -/
def samePlace : Target → Target → Bool
  | field first, field second => first.sameMember second

/-- The text of the clause. -/
def render : Target → String
  | field operand => "field " ++ operand.render

end Target

/-- What is injected. -/
inductive Source where
  /-- The value of a static field. -/
  | field (operand : MemberOperand)
  /-- A new instance of a class. -/
  | fresh (operand : ClassOperand)
  /-- The result of a static method without parameters. -/
  | call (operand : MemberOperand)
  /-- The one instance of a class that all share. -/
  | single (operand : ClassOperand)
deriving DecidableEq, Inhabited

namespace Source

/-- The line of the operand. -/
def line : Source → UInt32
  | field operand => operand.line
  | fresh operand => operand.line
  | call operand => operand.line
  | single operand => operand.line

/-- The text of the clause. -/
def render : Source → String
  | field operand => "field " ++ operand.render
  | fresh operand => "new " ++ operand.name
  | call operand => "call " ++ operand.render ++ "()"
  | single operand => "single " ++ operand.name

end Source

/-! ## Declarations -/

/-- A source for a target. -/
structure Association where
  /-- Where the object goes. -/
  target : Target
  /-- What goes there. -/
  source : Source
  /-- The adapter asked for. -/
  using? : Option ClassOperand
  /-- Where the association stands. -/
  origin : Origin
deriving DecidableEq, Inhabited

/-- The text of an association. -/
def Association.render (association : Association) : String :=
  "associate " ++ association.target.render ++ " with " ++ association.source.render ++
    match association.using? with
    | none => ""
    | some adapter => " using " ++ adapter.name

/-- One adapter preferred to another. -/
structure Ranking where
  /-- The preferred adapter. -/
  higher : ClassOperand
  /-- The adapter it is preferred to. -/
  lower : ClassOperand
  /-- Where the ranking stands. -/
  origin : Origin
deriving DecidableEq, Inhabited

/-- The text of a ranking. -/
def Ranking.render (ranking : Ranking) : String :=
  "declare precedence " ++ ranking.higher.name ++ " over " ++ ranking.lower.name

/-- A declaration of a specification. -/
inductive Declaration where
  /-- A source for a target. -/
  | association (association : Association)
  /-- One adapter preferred to another. -/
  | ranking (ranking : Ranking)
deriving DecidableEq, Inhabited

namespace Declaration

/-- Where a declaration stands. -/
def origin : Declaration → Origin
  | association declared => declared.origin
  | ranking declared => declared.origin

/-- The text of a declaration. -/
def render : Declaration → String
  | association declared => declared.render
  | ranking declared => declared.render

/-- The association that a declaration is. -/
def association? : Declaration → Option Association
  | association declared => some declared
  | ranking _ => none

/-- The ranking that a declaration is. -/
def ranking? : Declaration → Option Ranking
  | association _ => none
  | ranking declared => some declared

end Declaration

end AdapterWiring
