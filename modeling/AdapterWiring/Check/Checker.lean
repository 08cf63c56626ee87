import AdapterWiring.Adapter.Cycle
import AdapterWiring.Adapter.Resolution
import AdapterWiring.Check.ClassModel
import AdapterWiring.Specification

/-!
# Checking specifications

Every declaration is checked against a model of the classes and a library of
adapters. No problem stops the check.

1. A ranking must name two adapters; the valid ones make up the precedence.
2. Each cycle of precedence is a warning.
3. Each association is checked clause by clause and then wired: directly where
   the produced type fits, through the adapter asked for, or through the one
   that resolution picks.
4. When all this is done, associations are compared in pairs for overlaps.

* **Wiring**, **WiringProblem** — how an association is wired, or why not.
* **Checker** — what a specification is checked against.
* **Report** — the wired associations and all diagnostics.
-/

namespace AdapterWiring

/-! ## Outcomes -/

/-- How an association gets its object into place. -/
inductive Wiring where
  /-- The object fits as it is. -/
  | direct
  /-- Through the adapter asked for. -/
  | explicit (adapter : String)
  /-- Through the adapter that resolution picks. -/
  | resolved (adapter : String)
deriving DecidableEq, Inhabited

/-- The adapter that a wiring goes through. -/
def Wiring.adapter? : Wiring → Option String
  | direct => none
  | explicit adapter => some adapter
  | resolved adapter => some adapter

/-- Why an association cannot be wired. -/
inductive WiringProblem where
  /-- An operand is at fault. -/
  | clause (problem : ClauseProblem)
  /-- Nothing is known of the type of the target. -/
  | untypedTarget (target : Target)
  /-- Nothing is known of the type of the source. -/
  | untypedSource (source : Source)
  /-- The adapter asked for cannot be used. -/
  | explicit (failure : ExplicitError)
  /-- An ancestor of the type of the source is not known. -/
  | hierarchy (failure : UnknownType)
  /-- No adapter is best. -/
  | unresolved (verdict : Verdict) (sourceType targetType : String)
deriving DecidableEq, Inhabited

/-- The wording of a problem. -/
def WiringProblem.message : WiringProblem → String
  | clause problem => problem.message
  | untypedTarget target => "cannot determine the type of " ++ target.render
  | untypedSource source => "cannot determine the type of " ++ source.render
  | explicit failure => failure.message
  | hierarchy failure => failure.message
  | unresolved verdict sourceType targetType =>
    verdict.message ++ " from '" ++ sourceType ++ "' to '" ++ targetType ++ "'"

/-- An association that passed every check. -/
structure WiredAssociation where
  /-- The association. -/
  association : Association
  /-- The type that its target asks for. -/
  targetType : String
  /-- The type that its source produces. -/
  sourceType : String
  /-- How it is wired. -/
  wiring : Wiring
deriving DecidableEq, Inhabited

/-- Everything found by a check. -/
structure Report where
  /-- The associations that are wired. -/
  associations : List WiredAssociation
  /-- The problems. -/
  diagnostics : List Diagnostic
deriving DecidableEq, Inhabited

namespace Report

/-- Whether there is an error. -/
def hasErrors (report : Report) : Bool := report.diagnostics.any Diagnostic.isError

/-- The errors, in order. -/
def errors (report : Report) : List Diagnostic := report.diagnostics.filter Diagnostic.isError

/-- The warnings, in order. -/
def warnings (report : Report) : List Diagnostic := report.diagnostics.filter Diagnostic.isWarning

end Report

/-! ## The checker -/

/-- Tells whether two associations inject into the same place, and how to word it. -/
abbrev Overlap (m : Type → Type) := Association → Association → m (Option String)

/-- Associations never overlap. -/
def Overlap.never {m : Type → Type} [Monad m] : Overlap m := fun _ _ => pure none

/-- What a specification is checked against. -/
structure Checker (m : Type → Type) where
  /-- The classes. -/
  model : ClassModel m
  /-- Their ancestors. -/
  types : Ancestry m
  /-- The adapters. -/
  library : Library
  /-- When associations overlap. -/
  overlap : Overlap m

namespace Checker

variable {m : Type → Type} [Monad m]

/-- A checker with another predicate for overlaps. -/
def withOverlap (checker : Checker m) (overlap : Overlap m) : Checker m := { checker with overlap }

/-! ## Rankings -/

/-- Whether a ranking names two adapters. -/
def isValid (library : Library) (ranking : Ranking) : Bool :=
  library.contains ranking.higher.name && library.contains ranking.lower.name

/-- What is wrong with a class that a ranking names. -/
def operandDiagnostics (checker : Checker m) (file : String) (operand : ClassOperand) :
    m (List Diagnostic) := do
  if checker.library.contains operand.name then return []
  else if ← checker.model.hasClass operand.name then
    return [.error file operand.line ("class '" ++ operand.name ++ "' is not an adapter")]
  else return [.error file operand.line ("class '" ++ operand.name ++ "' not found")]

/-- What is wrong with a ranking. -/
def rankingDiagnostics (checker : Checker m) (ranking : Ranking) : m (List Diagnostic) := do
  let higher ← checker.operandDiagnostics ranking.origin.file ranking.higher
  let lower ← checker.operandDiagnostics ranking.origin.file ranking.lower
  return higher ++ lower

/-- The precedence that the valid rankings make up. -/
def precedence (library : Library) (rankings : List Ranking) : Precedence :=
  .ofRankings (rankings.filter (isValid library))

/-! ## Cycles -/

/-- The warning about a cycle, at the first ranking of two of its members. -/
def cycleWarning (rankings : List Ranking) (cycle : Cycle) : Diagnostic :=
  let isMember (operand : ClassOperand) : Bool := cycle.members.contains operand.name
  let message := "cyclic precedence: " ++ cycle.render
  match rankings.find? fun ranking => isMember ranking.higher && isMember ranking.lower with
  | some ranking => .warning ranking.origin.file ranking.origin.line message
  | none => .warning "" 0 message

/-! ## Associations -/

/-- Wire an association whose types are known. -/
def wireTypes (types : Ancestry m) (library : Library) (association : Association)
    (sourceType targetType : String) : m (Except (Located WiringProblem) Wiring) := do
  match association.using? with
  | some adapter =>
    match ← library.checkExplicit types adapter.name sourceType targetType with
    | .ok () => return .ok (.explicit adapter.name)
    | .error failure => return .error ⟨adapter.line, .explicit failure⟩
  | none =>
    match ← types.isSubtypeOrEqual sourceType targetType with
    | .error failure => return .error ⟨association.origin.line, .hierarchy failure⟩
    | .ok true => return .ok .direct
    | .ok false =>
      match ← library.resolve types sourceType targetType with
      | .error failure => return .error ⟨association.origin.line, .hierarchy failure⟩
      | .ok (.resolved adapter) => return .ok (.resolved adapter)
      | .ok verdict =>
        return .error ⟨association.origin.line, .unresolved verdict sourceType targetType⟩

/-- Wire an association with a library whose precedence is in place, or tell all that is wrong with
it. -/
def wire (checker : Checker m) (library : Library) (association : Association) :
    m (Except (List (Located WiringProblem)) WiredAssociation) := do
  let targetProblems ← association.target.problems checker.model
  let sourceProblems ← association.source.problems checker.model
  match targetProblems ++ sourceProblems with
  | problem :: problems =>
    return .error ((problem :: problems).map fun located => ⟨located.line, .clause located.problem⟩)
  | [] =>
    match ← association.target.type? checker.model with
    | none => return .error [⟨association.target.line, .untypedTarget association.target⟩]
    | some targetType =>
      match ← association.source.type? checker.model with
      | none => return .error [⟨association.source.line, .untypedSource association.source⟩]
      | some sourceType =>
        match ← wireTypes checker.types library association sourceType targetType with
        | .error problem => return .error [problem]
        | .ok wiring => return .ok ⟨association, targetType, sourceType, wiring⟩

/-- The diagnostics of an association that cannot be wired. -/
def wiringDiagnostics (association : Association) (problems : List (Located WiringProblem)) :
    List Diagnostic :=
  problems.map fun located => .error association.origin.file located.line located.problem.message

/-! ## Overlaps -/

/-- The error of an association, if the answer to how it overlaps with an earlier one is a message. -/
def overlapError? : Association × Option String → Option Diagnostic
  | (second, answer) => answer.map (.error second.origin.file second.origin.line)

/-- The errors of associations that overlap with an earlier one: each association in turn is compared
with the later ones. -/
def overlapDiagnostics (overlap : Overlap m) : List Association → m (List Diagnostic)
  | [] => return []
  | first :: rest => do
    let answers ← rest.mapM fun second => return (second, ← overlap first second)
    return answers.filterMap overlapError? ++ (← overlapDiagnostics overlap rest)

/-! ## The check -/

/-- Check a specification. -/
def check (checker : Checker m) (specification : Specification) : m Report := do
  let rankings := specification.rankings
  let associations := specification.associations
  let rankingProblems ← rankings.mapM checker.rankingDiagnostics
  let precedence := precedence checker.library rankings
  let library := checker.library.withPrecedence precedence
  let outcomes ← associations.mapM fun association => do
    return (association, ← checker.wire library association)
  let overlaps ← overlapDiagnostics checker.overlap associations
  return {
    associations := outcomes.filterMap fun
      | (_, .ok wired) => some wired
      | (_, .error _) => none
    diagnostics :=
      specification.diagnostics ++ rankingProblems.flatten ++
        precedence.cycles.map (cycleWarning rankings) ++
        outcomes.flatMap (fun
          | (_, .ok _) => []
          | (association, .error problems) => wiringDiagnostics association problems) ++
        overlaps }

end Checker

end AdapterWiring
