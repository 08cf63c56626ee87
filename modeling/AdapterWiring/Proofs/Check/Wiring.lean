import AdapterWiring.Check.Checker

/-!
# When an association is wired

The check of an association against models without effects, taken apart: every
question it asks has to come out right, and the wiring is that of the first
route open to it.

* **problems_eq_nil_iff** — the clauses without problems.
* **wireTypes_ok_iff** — the three routes, given both types.
* **wire_ok_iff** — the clauses, their types and the route.
* **mem_associations_iff** — the associations of a report are those wired with
  the precedence of the valid rankings.
-/

namespace AdapterWiring

/-! ## Clauses without problems -/

section Clauses

variable {model : ClassModel Id}

theorem ClassOperand.problems_eq_nil_iff {operand : ClassOperand} :
    (operand.problems model).run = [] ↔ (model.hasClass operand.name).run = true := by
  unfold problems
  cases known : (model.hasClass operand.name).run <;> simp [known]

theorem MemberOperand.fieldProblems_eq_nil_iff {operand : MemberOperand} {mustBeStatic : Bool} :
    (operand.fieldProblems model mustBeStatic).run = [] ↔
      (model.hasClass operand.owner).run = true ∧
      ∃ field, (model.field? operand.owner operand.member).run = some field ∧
        (mustBeStatic = true → field.isStatic = true) := by
  unfold fieldProblems
  simp only [Id.run_bind]
  cases known : (model.hasClass operand.owner).run with
  | false => simp
  | true =>
    cases found : (model.field? operand.owner operand.member).run with
    | none => simp [found]
    | some field =>
      simp only [found, Id.run_bind, if_true]
      cases mustBeStatic <;> cases static : field.isStatic <;> simp [static]

theorem MemberOperand.callProblems_eq_nil_iff {operand : MemberOperand} :
    (operand.callProblems model).run = [] ↔
      (model.hasClass operand.owner).run = true ∧
      ∃ method, (model.method? operand.owner operand.member).run = some method ∧
        method.isStatic = true ∧ method.arity = 0 := by
  unfold callProblems
  simp only [Id.run_bind]
  cases known : (model.hasClass operand.owner).run with
  | false => simp
  | true =>
    cases found : (model.method? operand.owner operand.member).run with
    | none => simp [found]
    | some method =>
      simp only [found, Id.run_bind, if_true]
      by_cases static : method.isStatic = true <;> by_cases none : method.arity = 0 <;>
        simp [static, none]

end Clauses

namespace Checker

variable {checker : Checker Id} {library : Library} {association : Association}

/-! ## Routes -/

/-- The routes from a type to another: the adapter asked for if there is one, else none at all where
the types fit, else the adapter that resolution picks. -/
inductive Routes (types : Ancestry Id) (library : Library) (source target : String) :
    Option ClassOperand → Wiring → Prop
  | explicit {adapter : ClassOperand} :
    (library.checkExplicit types adapter.name source target).run = .ok () →
      Routes types library source target (some adapter) (.explicit adapter.name)
  | direct : (types.isSubtypeOrEqual source target).run = .ok true →
    Routes types library source target none .direct
  | resolved {adapter : String} : (types.isSubtypeOrEqual source target).run = .ok false →
    (library.resolve types source target).run = .ok (.resolved adapter) →
      Routes types library source target none (.resolved adapter)

theorem Routes.of_wireTypes {types : Ancestry Id} {source target : String} {wiring : Wiring}
    (ok : (wireTypes types library association source target).run = .ok wiring) :
    Routes types library source target association.using? wiring := by
  unfold wireTypes at ok
  generalize association.using? = chosen at ok ⊢
  cases chosen with
  | some adapter =>
    simp only [Id.run_bind] at ok
    cases checked : (library.checkExplicit types adapter.name source target).run with
    | error failure => simp [checked] at ok
    | ok _ =>
      simp only [checked, Id.run_pure, Except.ok.injEq] at ok
      rw [← ok]
      exact .explicit checked
  | none =>
    simp only [Id.run_bind] at ok
    cases fits : (types.isSubtypeOrEqual source target).run with
    | error failure => simp [fits] at ok
    | ok answer =>
      cases answer with
      | true =>
        simp only [fits, Id.run_pure, Except.ok.injEq] at ok
        rw [← ok]
        exact .direct fits
      | false =>
        simp only [fits, Id.run_bind] at ok
        cases verdict : (library.resolve types source target).run with
        | error failure => simp [verdict] at ok
        | ok found =>
          cases found with
          | resolved adapter =>
            simp only [verdict, Id.run_pure, Except.ok.injEq] at ok
            rw [← ok]
            exact .resolved fits verdict
          | ambiguous candidates => simp [verdict] at ok
          | notFound => simp [verdict] at ok
          | cyclicPrecedence involved => simp [verdict] at ok

theorem wireTypes_ok_iff {types : Ancestry Id} {source target : String} {wiring : Wiring} :
    (wireTypes types library association source target).run = .ok wiring ↔
      Routes types library source target association.using? wiring := by
  refine ⟨Routes.of_wireTypes, fun route => ?_⟩
  unfold wireTypes
  generalize association.using? = chosen at route ⊢
  cases route with
  | explicit checked => simp [checked]
  | direct fits => simp [fits]
  | resolved fits verdict => simp [fits, verdict]

/-! ## Associations -/

/-- An association is wired if its clauses are in order, both types are there and a route is
open. -/
theorem wire_ok_iff {outcome : WiredAssociation} :
    (checker.wire library association).run = .ok outcome ↔
      outcome.association = association ∧
      (association.target.problems checker.model).run = [] ∧
      (association.source.problems checker.model).run = [] ∧
      (association.target.type? checker.model).run = some outcome.targetType ∧
      (association.source.type? checker.model).run = some outcome.sourceType ∧
      Routes checker.types library outcome.sourceType outcome.targetType association.using?
        outcome.wiring := by
  constructor
  · intro ok
    unfold wire at ok
    simp only [Id.run_bind] at ok
    split at ok
    · simp at ok
    next clean =>
      rw [List.append_eq_nil_iff] at clean
      cases target : (association.target.type? checker.model).run with
      | none => simp [target] at ok
      | some targetType =>
        cases source : (association.source.type? checker.model).run with
        | none => simp [target, source] at ok
        | some sourceType =>
          cases wired : (wireTypes checker.types library association sourceType targetType).run with
          | error problem => simp [target, source, wired] at ok
          | ok wiring =>
            simp only [target, source, wired, Id.run_bind, Id.run_pure, Except.ok.injEq] at ok
            rw [← ok]
            exact ⟨rfl, clean.1, clean.2, rfl, rfl, .of_wireTypes wired⟩
  · rintro ⟨rfl, cleanTarget, cleanSource, target, source, route⟩
    have wired := wireTypes_ok_iff.2 route
    unfold wire
    simp [cleanTarget, cleanSource, target, source, wired]

/-- The associations of a report are those that are wired with the precedence of the valid
rankings. -/
theorem mem_associations_iff {specification : Specification} {outcome : WiredAssociation} :
    outcome ∈ (checker.check specification).run.associations ↔
      ∃ association ∈ specification.associations,
        (checker.wire (checker.library.withPrecedence
          (precedence checker.library specification.rankings)) association).run = .ok outcome := by
  unfold check
  simp only [Id.run_bind, List.idRun_mapM, Id.run_pure, List.mem_filterMap, List.mem_map]
  constructor
  · rintro ⟨_, ⟨association, member, rfl⟩, kept⟩
    cases wired : (checker.wire (checker.library.withPrecedence
        (precedence checker.library specification.rankings)) association).run with
    | ok found =>
      simp only [wired, Option.some.injEq] at kept
      exact ⟨association, member, kept ▸ wired⟩
    | error problems => simp [wired] at kept
  · rintro ⟨association, member, wired⟩
    exact ⟨_, ⟨association, member, rfl⟩, by simp [wired]⟩

/-- The problems of an association that cannot be wired are in the report. -/
theorem mem_diagnostics_of_wire {specification : Specification}
    {problems : List (Located WiringProblem)} (declared : association ∈ specification.associations)
    (fails : (checker.wire (checker.library.withPrecedence
      (precedence checker.library specification.rankings)) association).run = .error problems) :
    ∀ diagnostic ∈ wiringDiagnostics association problems,
      diagnostic ∈ (checker.check specification).run.diagnostics := by
  intro diagnostic isProblem
  unfold check
  simp only [Id.run_bind, List.idRun_mapM, Id.run_pure, List.mem_append, List.mem_flatMap]
  exact .inl (.inr ⟨_, List.mem_map.2 ⟨association, declared, rfl⟩, by simpa [fails]⟩)

end Checker

end AdapterWiring
