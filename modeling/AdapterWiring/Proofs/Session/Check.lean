import AdapterWiring.Check.Checker
import AdapterWiring.Proofs.Session.Recall
import AdapterWiring.Universe.Basic

/-!
# Checks in a session

A check asks a class model and, through a session, an oracle. With a class
model that only answers, a check in a faithful session comes out as the check
against the oracle itself.

* **ClassModel.lift, Overlap.lift** — a class model and a predicate for overlaps
  without effects, in any monad.
* **overOracle, inSession** — the checker that asks the oracle, and the one that
  asks through a session.
* **Answers.check, Answers.adapterLibrary** — the report and the adapters found.
-/

namespace AdapterWiring

/-- A class model without effects, in any monad. -/
def ClassModel.lift {m : Type → Type} [Monad m] (model : ClassModel Id) : ClassModel m where
  hasClass name := pure (model.hasClass name).run
  field? owner member := pure (model.field? owner member).run
  method? owner member := pure (model.method? owner member).run

/-- A predicate for overlaps without effects, in any monad. -/
def Overlap.lift {m : Type → Type} [Monad m] (overlap : Overlap Id) : Overlap m :=
  fun first second => pure (overlap first second).run

/-! ## Clauses -/

section Lift

variable {m : Type → Type} [Monad m] [LawfulMonad m] {model : ClassModel Id}

theorem ClassOperand.problems_lift (operand : ClassOperand) :
    operand.problems (model.lift : ClassModel m) = pure (operand.problems model).run := by
  simp only [problems, ClassModel.lift, pure_bind, Id.run_bind]
  split <;> rfl

theorem MemberOperand.fieldProblems_lift (operand : MemberOperand) (mustBeStatic : Bool) :
    operand.fieldProblems (model.lift : ClassModel m) mustBeStatic =
      pure (operand.fieldProblems model mustBeStatic).run := by
  simp only [fieldProblems, ClassModel.lift, pure_bind, Id.run_bind]
  split
  · rw [Id.run_bind]
    cases (model.field? operand.owner operand.member).run with
    | none => rfl
    | some field => dsimp only; split <;> rfl
  · rfl

theorem MemberOperand.callProblems_lift (operand : MemberOperand) :
    operand.callProblems (model.lift : ClassModel m) =
      pure (operand.callProblems model).run := by
  simp only [callProblems, ClassModel.lift, pure_bind, Id.run_bind]
  split
  · rw [Id.run_bind]
    cases (model.method? operand.owner operand.member).run with
    | none => rfl
    | some method => rfl
  · rfl

theorem Target.problems_lift (target : Target) :
    target.problems (model.lift : ClassModel m) = pure (target.problems model).run := by
  cases target with
  | field operand => exact operand.fieldProblems_lift false

theorem Target.type?_lift (target : Target) :
    target.type? (model.lift : ClassModel m) = pure (target.type? model).run := by
  cases target
  simp [type?, ClassModel.lift]

theorem Source.problems_lift (source : Source) :
    source.problems (model.lift : ClassModel m) = pure (source.problems model).run := by
  cases source with
  | field operand => exact operand.fieldProblems_lift true
  | fresh operand => exact operand.problems_lift
  | call operand => exact operand.callProblems_lift
  | single operand => exact operand.problems_lift

theorem Source.type?_lift (source : Source) :
    source.type? (model.lift : ClassModel m) = pure (source.type? model).run := by
  cases source <;> simp [type?, ClassModel.lift]

/-! ## Overlaps -/

theorem Checker.overlapDiagnostics_lift (overlap : Overlap Id) (associations : List Association) :
    overlapDiagnostics (overlap.lift : Overlap m) associations =
      pure (overlapDiagnostics overlap associations).run := by
  induction associations with
  | nil => rfl
  | cons first rest ih =>
    rw [overlapDiagnostics, overlapDiagnostics, ih]
    simp only [Overlap.lift, pure_bind, List.mapM_pure, Id.run_bind, List.idRun_mapM, Id.run_pure]

end Lift

/-! ## Checkers -/

namespace Checker

/-- The checker that asks an oracle. -/
def overOracle (model : ClassModel Id) (oracle : Oracle) (library : Library)
    (overlap : Overlap Id) : Checker Id :=
  ⟨model, oracle.ancestry, library, overlap⟩

/-- The checker that asks an oracle through a session. -/
def inSession (model : ClassModel Id) (oracle : Oracle) (library : Library)
    (overlap : Overlap Id) : Checker (StateM Session) :=
  ⟨model.lift, Session.ancestry oracle, library, overlap.lift⟩

end Checker

namespace Session.Answers

variable {α β : Type} {oracle : Oracle} {model : ClassModel Id}

theorem mapM {ask : α → StateM Session β} {answer : α → Id β} {items : List α}
    (each : ∀ item ∈ items, Answers oracle (ask item) (answer item).run) :
    Answers oracle (items.mapM ask) (items.mapM answer).run := by
  induction items with
  | nil => exact .pure _
  | cons head rest ih =>
    rw [List.mapM_cons, List.mapM_cons]
    refine (each head (List.mem_cons_self ..)).bind ?_
    refine (ih fun item member => each item (List.mem_cons_of_mem _ member)).bind ?_
    exact .pure _

/-! ## Associations -/

theorem wireTypes (library : Library) (association : Association)
    (sourceType targetType : String) :
    Answers oracle
      (Checker.wireTypes (ancestry oracle) library association sourceType targetType)
      (Checker.wireTypes oracle.ancestry library association sourceType targetType).run := by
  unfold Checker.wireTypes
  cases association.using? with
  | some adapter =>
    refine (explicit library adapter.name sourceType targetType).bind ?_
    rw [Id.run_bind]
    cases (library.checkExplicit oracle.ancestry adapter.name sourceType targetType).run with
    | ok _ => exact .pure _
    | error failure => exact .pure _
  | none =>
    refine (isSubtypeOrEqual sourceType targetType).bind ?_
    rw [Id.run_bind]
    cases (oracle.ancestry.isSubtypeOrEqual sourceType targetType).run with
    | error failure => exact .pure _
    | ok fits =>
      cases fits with
      | true => exact .pure _
      | false =>
        refine (resolve library sourceType targetType).bind ?_
        dsimp only
        rw [Id.run_bind]
        cases (library.resolve oracle.ancestry sourceType targetType).run with
        | error failure => exact .pure _
        | ok verdict =>
          cases verdict with
          | resolved adapter => exact .pure _
          | ambiguous candidates => exact .pure _
          | notFound => exact .pure _
          | cyclicPrecedence involved => exact .pure _

theorem wire (library : Library) (overlap : Overlap Id) (filed : Library)
    (association : Association) :
    Answers oracle ((Checker.inSession model oracle filed overlap).wire library association)
      ((Checker.overOracle model oracle filed overlap).wire library association).run := by
  unfold Checker.wire
  simp only [Checker.inSession, Checker.overOracle, Target.problems_lift, Source.problems_lift,
    Target.type?_lift, Source.type?_lift, pure_bind, Id.run_bind]
  split
  · exact .pure _
  · rw [Id.run_bind]
    cases (association.target.type? model).run with
    | none => exact .pure _
    | some targetType =>
      dsimp only
      rw [Id.run_bind]
      cases (association.source.type? model).run with
      | none => exact .pure _
      | some sourceType =>
        refine (wireTypes library association sourceType targetType).bind ?_
        dsimp only
        rw [Id.run_bind]
        cases (Checker.wireTypes oracle.ancestry library association sourceType targetType).run with
        | error problem => exact .pure _
        | ok wiring => exact .pure _

/-! ## Rankings -/

theorem operandDiagnostics (library : Library) (overlap : Overlap Id) (file : String)
    (operand : ClassOperand) :
    Answers oracle
      ((Checker.inSession model oracle library overlap).operandDiagnostics file operand)
      ((Checker.overOracle model oracle library overlap).operandDiagnostics file operand).run := by
  show Answers oracle (if library.contains operand.name = true then _ else _)
    (Id.run (if library.contains operand.name = true then _ else _))
  by_cases filed : library.contains operand.name = true
  · rw [if_pos filed, if_pos filed]
    exact .pure _
  · rw [if_neg filed, if_neg filed]
    refine (Answers.pure (model.hasClass operand.name).run).bind ?_
    rw [Id.run_bind]
    show Answers oracle _ (Id.run (if (model.hasClass operand.name).run = true then _ else _))
    split
    · exact .pure _
    · exact .pure _

theorem rankingDiagnostics (library : Library) (overlap : Overlap Id) (ranking : Ranking) :
    Answers oracle ((Checker.inSession model oracle library overlap).rankingDiagnostics ranking)
      ((Checker.overOracle model oracle library overlap).rankingDiagnostics ranking).run := by
  refine (operandDiagnostics library overlap ranking.origin.file ranking.higher).bind ?_
  refine (operandDiagnostics library overlap ranking.origin.file ranking.lower).bind ?_
  exact .pure _

/-! ## Reports and libraries -/

/-- The report of a check. -/
theorem check (library : Library) (overlap : Overlap Id) (specification : Specification) :
    Answers oracle ((Checker.inSession model oracle library overlap).check specification)
      ((Checker.overOracle model oracle library overlap).check specification).run := by
  unfold Checker.check
  refine (mapM fun ranking _ => rankingDiagnostics library overlap ranking).bind ?_
  refine (mapM fun association _ => (wire _ overlap library association).map
    (association, ·)).bind ?_
  rw [Checker.inSession, Checker.overlapDiagnostics_lift, pure_bind]
  exact .pure _

/-- The adapters found. -/
theorem adapterLibrary (world : Universe) :
    Answers oracle (world.adapterLibrary (ancestry oracle))
      (world.adapterLibrary oracle.ancestry).run := by
  have collect : ∀ (classes : List (String × ClassDeclaration)) (library : Library),
      Answers oracle (Universe.collectAdapters (ancestry oracle) library classes)
        (Universe.collectAdapters oracle.ancestry library classes).run := by
    intro classes
    induction classes with
    | nil => exact fun _ => .pure _
    | cons head rest ih =>
      intro library
      rw [Universe.collectAdapters, Universe.collectAdapters]
      split
      · exact ih library
      next parameter parameters _ =>
        refine (discover head.1 (.ofList (parameter :: parameters))).bind ?_
        rw [Id.run_bind]
        cases (Descriptor.discover oracle.ancestry head.1
          (.ofList (parameter :: parameters))).run with
        | error failure => exact .pure _
        | ok adapter => exact ih _
  exact collect _ _

end Session.Answers

end AdapterWiring
