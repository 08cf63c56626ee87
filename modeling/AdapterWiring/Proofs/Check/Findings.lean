import AdapterWiring.Proofs.Adapter.Preferences
import AdapterWiring.Proofs.Check.Cyclic

/-!
# What a check finds

A check finds out three things, each for itself: what is wrong with a ranking,
the cycles of precedence, and what becomes of an association. A report is put
together from them by going through the declarations in order.

* **Findings, Findings.report** — the three things and the report they make up.
* **check_eq_report** — every report comes about in that way; the findings
  depend on nothing of the specification but the precedence of its rankings.
* **rankingDiagnostics_eq** — one error for each operand that is no adapter.
* **Settles, findings_settles** — an association is wired or has errors of its
  own file, never both; **map_association_report** — those without errors are
  listed.
* **Clean, hasErrors_eq_false_iff** — the specifications without errors.
* **warnings_check** — what a report warns of.
-/

namespace AdapterWiring

/-- What a check finds out, each thing for itself. -/
structure Findings where
  /-- What is wrong with a ranking. -/
  misranked : Ranking → List Diagnostic
  /-- The cycles of precedence. -/
  cycles : List Cycle
  /-- What becomes of an association: how it is wired, or what is wrong with it. -/
  outcome : Association → Except (List Diagnostic) WiredAssociation

namespace Findings

/-- The association as it is wired, if it is. -/
def wired? (findings : Findings) (association : Association) : Option WiredAssociation :=
  (findings.outcome association).toOption

/-- What is wrong with an association. -/
def errors (findings : Findings) (association : Association) : List Diagnostic :=
  match findings.outcome association with
  | .ok _ => []
  | .error problems => problems

/-- The report on a specification that findings make up. -/
def report (findings : Findings) (overlap : Overlap Id) (specification : Specification) : Report where
  associations := specification.associations.filterMap findings.wired?
  diagnostics :=
    specification.diagnostics ++ specification.rankings.flatMap findings.misranked ++
      findings.cycles.map (Checker.cycleWarning specification.rankings) ++
      specification.associations.flatMap findings.errors ++
      (Checker.overlapDiagnostics overlap specification.associations).run

theorem diagnostics_report (findings : Findings) (overlap : Overlap Id)
    (specification : Specification) :
    (findings.report overlap specification).diagnostics =
      specification.diagnostics ++ specification.rankings.flatMap findings.misranked ++
        findings.cycles.map (Checker.cycleWarning specification.rankings) ++
        specification.associations.flatMap findings.errors ++
        (Checker.overlapDiagnostics overlap specification.associations).run :=
  rfl

/-- An association is wired as it stands, or there is something wrong with it, in its own file. -/
def Settles (findings : Findings) (association : Association) : Prop :=
  match findings.outcome association with
  | .ok wired => wired.association = association
  | .error problems => problems ≠ [] ∧
    ∀ diagnostic ∈ problems,
      diagnostic.isError = true ∧ diagnostic.file = association.origin.file

variable {findings : Findings} {association : Association}

theorem wired?_eq_some_iff {wired : WiredAssociation} :
    findings.wired? association = some wired ↔ findings.outcome association = .ok wired := by
  unfold wired?
  cases findings.outcome association with
  | ok other => simp [Except.toOption]
  | error problems => simp [Except.toOption]

theorem Settles.isError (settles : findings.Settles association) :
    ∀ diagnostic ∈ findings.errors association, diagnostic.isError = true := by
  unfold Settles at settles
  unfold errors
  cases result : findings.outcome association with
  | ok wired => simp
  | error problems =>
    rw [result] at settles
    exact fun diagnostic member => (settles.2 diagnostic member).1

/-- It is wired exactly if nothing is wrong with it. -/
theorem Settles.isSome_wired?_iff (settles : findings.Settles association) :
    (findings.wired? association).isSome = true ↔ findings.errors association = [] := by
  unfold Settles at settles
  unfold wired? errors
  cases result : findings.outcome association with
  | ok wired => simp [Except.toOption]
  | error problems =>
    rw [result] at settles
    simpa [Except.toOption] using settles.1

theorem Settles.association_of_wired? (settles : findings.Settles association)
    {wired : WiredAssociation} (found : findings.wired? association = some wired) :
    wired.association = association := by
  unfold Settles at settles
  rwa [wired?_eq_some_iff.1 found] at settles

/-- The associations of a report are those without errors, in the order of declaration. -/
theorem map_association_report (settles : ∀ association, findings.Settles association)
    (overlap : Overlap Id) (specification : Specification) :
    (findings.report overlap specification).associations.map (·.association) =
      specification.associations.filter fun association =>
        (findings.errors association).isEmpty := by
  show (specification.associations.filterMap findings.wired?).map (·.association) = _
  rw [List.map_filterMap, ← List.filterMap_eq_filter]
  refine List.filterMap_congr fun association _ => ?_
  have wired_iff := (settles association).isSome_wired?_iff
  cases found : findings.wired? association with
  | none =>
    rw [found] at wired_iff
    have failed : findings.errors association ≠ [] := fun none => by simp [none] at wired_iff
    simp [Option.guard, failed]
  | some wired =>
    rw [found] at wired_iff
    have none : findings.errors association = [] := wired_iff.1 rfl
    have same := (settles association).association_of_wired? found
    simp [Option.guard, none, same]

end Findings

/-! ## Overlaps -/

namespace Checker

/-- The pairs of an element of a list and a later one, in order. -/
def pairs {α : Type} : List α → List (α × α)
  | [] => []
  | first :: rest => rest.map (first, ·) ++ pairs rest

theorem forall_mem_pairs_iff {α : Type} {items : List α} {property : α → α → Prop} :
    (∀ pair ∈ pairs items, property pair.1 pair.2) ↔ items.Pairwise property := by
  induction items with
  | nil => simp [pairs]
  | cons first rest ih =>
    rw [pairs, List.forall_mem_append, List.forall_mem_map, ih, List.pairwise_cons]

theorem mem_of_mem_pairs {α : Type} {items : List α} {pair : α × α} (member : pair ∈ pairs items) :
    pair.1 ∈ items ∧ pair.2 ∈ items := by
  have inside : items.Pairwise fun first second => first ∈ items ∧ second ∈ items :=
    List.pairwise_of_forall_mem_list fun _ isFirst _ isSecond => ⟨isFirst, isSecond⟩
  exact forall_mem_pairs_iff.2 inside pair member

/-- Each pair is compared once, in order. -/
theorem overlapDiagnostics_eq_pairs {m : Type → Type} [Monad m] [LawfulMonad m]
    (overlap : Overlap m) (associations : List Association) :
    overlapDiagnostics overlap associations = do
      let answers ← (pairs associations).mapM fun pair => return (pair.2, ← overlap pair.1 pair.2)
      return answers.filterMap overlapError? := by
  induction associations with
  | nil => simp [overlapDiagnostics, pairs]
  | cons first rest ih =>
    rw [overlapDiagnostics, ih, pairs, List.mapM_append, List.mapM_map]
    simp only [bind_assoc, pure_bind, List.filterMap_append, Function.comp_def]

theorem run_overlapDiagnostics (overlap : Overlap Id) (associations : List Association) :
    (overlapDiagnostics overlap associations).run =
      (pairs associations).filterMap fun pair =>
        overlapError? (pair.2, (overlap pair.1 pair.2).run) := by
  rw [overlapDiagnostics_eq_pairs]
  simp only [Id.run_bind, List.idRun_mapM, Id.run_pure, List.filterMap_map, Function.comp_def]

theorem isError_of_overlapError? {answered : Association × Option String} {diagnostic : Diagnostic}
    (found : overlapError? answered = some diagnostic) : diagnostic.isError = true := by
  obtain ⟨message, _, rfl⟩ := Option.map_eq_some_iff.1 found
  rfl

/-- Every overlap is an error. -/
theorem isError_of_mem_overlapDiagnostics {overlap : Overlap Id}
    {associations : List Association} :
    ∀ diagnostic ∈ (overlapDiagnostics overlap associations).run, diagnostic.isError = true := by
  rw [run_overlapDiagnostics]
  intro diagnostic member
  obtain ⟨pair, _, found⟩ := List.mem_filterMap.1 member
  exact isError_of_overlapError? found

/-- There is none exactly if no association overlaps with an earlier one. -/
theorem overlapDiagnostics_eq_nil_iff {overlap : Overlap Id} {associations : List Association} :
    (overlapDiagnostics overlap associations).run = [] ↔
      associations.Pairwise fun first second => (overlap first second).run = none := by
  rw [run_overlapDiagnostics, List.filterMap_eq_nil_iff, ← forall_mem_pairs_iff]
  simp only [overlapError?, Option.map_eq_none_iff]

/-! ## Findings of a checker -/

variable {checker : Checker Id}

/-- What a checker finds out where precedence is in place. -/
def findings (checker : Checker Id) (precedence : Precedence) : Findings where
  misranked ranking := (checker.rankingDiagnostics ranking).run
  cycles := precedence.cycles
  outcome association :=
    (checker.wire (checker.library.withPrecedence precedence) association).run.mapError
      (wiringDiagnostics association)

/-- What a checker finds out about a specification, with the precedence of its valid rankings. -/
def found (checker : Checker Id) (specification : Specification) : Findings :=
  checker.findings (Checker.precedence checker.library specification.rankings)

variable {precedence : Precedence}

theorem outcome_findings (association : Association) :
    (checker.findings precedence).outcome association =
      (checker.wire (checker.library.withPrecedence precedence) association).run.mapError
        (wiringDiagnostics association) :=
  rfl

/-- A report is made up of what is found out. -/
theorem check_eq_report (specification : Specification) :
    (checker.check specification).run =
      (checker.found specification).report checker.overlap specification := by
  unfold check found
  simp only [Id.run_bind, List.idRun_mapM, Id.run_pure, List.filterMap_map, List.flatMap_map]
  refine congrArg₂ Report.mk ?_ (congrArg (· ++ _) (congrArg₂ (· ++ ·) ?_ ?_))
  · refine List.filterMap_congr fun association _ => ?_
    unfold Findings.wired?
    rw [outcome_findings]
    dsimp only [Function.comp]
    cases (checker.wire _ association).run with
    | ok wired => rfl
    | error problems => rfl
  · rw [List.flatMap_def]
    rfl
  · refine List.flatMap_congr fun association _ => ?_
    unfold Findings.errors
    rw [outcome_findings]
    cases (checker.wire _ association).run with
    | ok wired => rfl
    | error problems => rfl

/-! ## Rankings -/

/-- The error of a class that a ranking names and that is no adapter. -/
def misnamed (model : ClassModel Id) (file : String) (operand : ClassOperand) : Diagnostic :=
  .error file operand.line <|
    if (model.hasClass operand.name).run then "class '" ++ operand.name ++ "' is not an adapter"
    else "class '" ++ operand.name ++ "' not found"

theorem operandDiagnostics_eq (file : String) (operand : ClassOperand) :
    (checker.operandDiagnostics file operand).run =
      if checker.library.contains operand.name then []
      else [misnamed checker.model file operand] := by
  unfold operandDiagnostics misnamed
  split
  · rfl
  · rw [Id.run_bind]
    cases (checker.model.hasClass operand.name).run with
    | true => rfl
    | false => rfl

/-- There is one error for each operand, the preferred one first, that is no adapter. -/
theorem rankingDiagnostics_eq (ranking : Ranking) :
    (checker.rankingDiagnostics ranking).run =
      ([ranking.higher, ranking.lower].filter fun operand =>
        !checker.library.contains operand.name).map
          (misnamed checker.model ranking.origin.file) := by
  unfold rankingDiagnostics
  simp only [Id.run_bind, Id.run_pure, operandDiagnostics_eq]
  by_cases higher : checker.library.contains ranking.higher.name = true <;>
    by_cases lower : checker.library.contains ranking.lower.name = true <;>
    simp [higher, lower]

theorem rankingDiagnostics_eq_nil_iff {ranking : Ranking} :
    (checker.rankingDiagnostics ranking).run = [] ↔ isValid checker.library ranking = true := by
  rw [rankingDiagnostics_eq, List.map_eq_nil_iff, List.filter_eq_nil_iff]
  simp [isValid]

theorem isError_of_mem_rankingDiagnostics {ranking : Ranking} :
    ∀ diagnostic ∈ (checker.rankingDiagnostics ranking).run, diagnostic.isError = true := by
  rw [rankingDiagnostics_eq]
  intro diagnostic member
  obtain ⟨operand, _, rfl⟩ := List.mem_map.1 member
  rfl

/-! ## Associations -/

/-- An association that cannot be wired has some problem. -/
theorem wire_error_ne_nil {library : Library} {association : Association}
    {problems : List (Located WiringProblem)}
    (fails : (checker.wire library association).run = .error problems) : problems ≠ [] := by
  rintro rfl
  unfold wire at fails
  simp only [Id.run_bind] at fails
  split at fails
  · cases fails
  · cases target : (association.target.type? checker.model).run with
    | none => simp [target] at fails
    | some targetType =>
      cases source : (association.source.type? checker.model).run with
      | none => simp [target, source] at fails
      | some sourceType =>
        cases wired : (wireTypes checker.types library association sourceType targetType).run with
        | ok wiring => simp [target, source, wired] at fails
        | error problem => simp [target, source, wired] at fails

/-- A checker leaves no association without an outcome of its own. -/
theorem findings_settles (association : Association) :
    (checker.findings precedence).Settles association := by
  unfold Findings.Settles
  rw [outcome_findings]
  cases result : (checker.wire (checker.library.withPrecedence precedence) association).run with
  | ok wired => exact (wire_ok_iff.1 result).1
  | error problems =>
    have some : wiringDiagnostics association problems ≠ [] := by
      simpa [wiringDiagnostics] using wire_error_ne_nil result
    refine ⟨some, fun diagnostic member => ?_⟩
    obtain ⟨located, _, rfl⟩ := List.mem_map.1 member
    exact ⟨rfl, rfl⟩

theorem errors_findings_eq_nil_iff {association : Association} :
    (checker.findings precedence).errors association = [] ↔
      ∃ wired, (checker.wire (checker.library.withPrecedence precedence) association).run =
        .ok wired := by
  unfold Findings.errors
  rw [outcome_findings]
  cases result : (checker.wire (checker.library.withPrecedence precedence) association).run with
  | ok wired => simp [Except.mapError]
  | error problems => simpa [Except.mapError, wiringDiagnostics] using wire_error_ne_nil result

/-! ## Specifications without errors -/

/-- A specification with nothing wrong in it: it could be read, its rankings name adapters, its
associations are wired and do not overlap. -/
structure Clean (checker : Checker Id) (specification : Specification) : Prop where
  read : specification.hasErrors = false
  ranked : ∀ ranking ∈ specification.rankings, isValid checker.library ranking = true
  wired : ∀ association ∈ specification.associations, ∃ wired,
    (checker.wire (checker.library.withPrecedence
      (Checker.precedence checker.library specification.rankings)) association).run = .ok wired
  apart : specification.associations.Pairwise fun first second =>
    (checker.overlap first second).run = none

theorem any_isError_eq_false_iff {problems : List Diagnostic}
    (errors : ∀ diagnostic ∈ problems, diagnostic.isError = true) :
    problems.any Diagnostic.isError = false ↔ problems = [] := by
  rw [List.any_eq_false, List.eq_nil_iff_forall_not_mem]
  exact forall₂_congr fun diagnostic member => by simp [errors diagnostic member]

theorem filter_isWarning_eq_nil {problems : List Diagnostic}
    (errors : ∀ diagnostic ∈ problems, diagnostic.isError = true) :
    problems.filter Diagnostic.isWarning = [] := by
  rw [List.filter_eq_nil_iff]
  intro diagnostic member
  have severity : diagnostic.severity = .error := by
    simpa [Diagnostic.isError] using errors diagnostic member
  simp [Diagnostic.isWarning, severity]

variable {specification : Specification}

/-- All that is found about rankings are errors. -/
theorem isError_of_mem_misranked :
    ∀ diagnostic ∈ specification.rankings.flatMap (checker.found specification).misranked,
      diagnostic.isError = true := by
  intro diagnostic member
  obtain ⟨ranking, _, inRanking⟩ := List.mem_flatMap.1 member
  exact isError_of_mem_rankingDiagnostics diagnostic inRanking

/-- There are none exactly if all rankings name adapters. -/
theorem any_misranked_eq_false_iff :
    (specification.rankings.flatMap (checker.found specification).misranked).any
        Diagnostic.isError = false ↔
      ∀ ranking ∈ specification.rankings, isValid checker.library ranking = true := by
  rw [any_isError_eq_false_iff isError_of_mem_misranked, List.flatMap_eq_nil_iff]
  exact forall₂_congr fun ranking _ => rankingDiagnostics_eq_nil_iff

/-- The problems of associations are errors, too. -/
theorem isError_of_mem_errors :
    ∀ diagnostic ∈ specification.associations.flatMap (checker.found specification).errors,
      diagnostic.isError = true := by
  intro diagnostic member
  obtain ⟨association, _, inAssociation⟩ := List.mem_flatMap.1 member
  exact (findings_settles association).isError diagnostic inAssociation

/-- There are none exactly if all associations are wired. -/
theorem any_errors_eq_false_iff :
    (specification.associations.flatMap (checker.found specification).errors).any
        Diagnostic.isError = false ↔
      ∀ association ∈ specification.associations, ∃ wired,
        (checker.wire (checker.library.withPrecedence
          (Checker.precedence checker.library specification.rankings)) association).run =
            .ok wired := by
  rw [any_isError_eq_false_iff isError_of_mem_errors, List.flatMap_eq_nil_iff]
  exact forall₂_congr fun association _ => errors_findings_eq_nil_iff

/-- Cycles are warnings. -/
theorem isWarning_of_mem_cycles {rankings : List Ranking} {cycles : List Cycle} :
    ∀ diagnostic ∈ cycles.map (cycleWarning rankings),
      diagnostic.isWarning = true ∧ diagnostic.isError = false := by
  intro diagnostic member
  obtain ⟨cycle, _, rfl⟩ := List.mem_map.1 member
  simp [Diagnostic.isWarning, Diagnostic.isError, (cycleWarning_cases rankings cycle).1]

theorem filter_isWarning_cycles (rankings : List Ranking) (cycles : List Cycle) :
    (cycles.map (cycleWarning rankings)).filter Diagnostic.isWarning =
      cycles.map (cycleWarning rankings) :=
  List.filter_eq_self.2 fun diagnostic member => (isWarning_of_mem_cycles diagnostic member).1

/-- A report warns of what loading warned of and of the cycles. -/
theorem warnings_check (checker : Checker Id) (specification : Specification) :
    (checker.check specification).run.warnings =
      specification.diagnostics.filter Diagnostic.isWarning ++
        (checker.found specification).cycles.map (cycleWarning specification.rankings) := by
  rw [check_eq_report, Report.warnings, Findings.diagnostics_report]
  simp only [List.filter_append, filter_isWarning_cycles,
    filter_isWarning_eq_nil isError_of_mem_misranked,
    filter_isWarning_eq_nil isError_of_mem_errors,
    filter_isWarning_eq_nil isError_of_mem_overlapDiagnostics, List.append_nil]

/-- A report has no error exactly if the specification has none in it. Cycles are no errors. -/
theorem hasErrors_eq_false_iff (specification : Specification) :
    (checker.check specification).run.hasErrors = false ↔ checker.Clean specification := by
  have cycles (found : List Cycle) :
      (found.map (cycleWarning specification.rankings)).any Diagnostic.isError = false := by
    rw [List.any_eq_false]
    exact fun diagnostic member => by simp [(isWarning_of_mem_cycles diagnostic member).2]
  have overlaps : (overlapDiagnostics checker.overlap specification.associations).run.any
        Diagnostic.isError = false ↔
      specification.associations.Pairwise fun first second =>
        (checker.overlap first second).run = none :=
    (any_isError_eq_false_iff isError_of_mem_overlapDiagnostics).trans overlapDiagnostics_eq_nil_iff
  rw [check_eq_report, Report.hasErrors, Findings.diagnostics_report]
  simp only [List.any_append, Bool.or_eq_false_iff, any_misranked_eq_false_iff, cycles,
    any_errors_eq_false_iff, overlaps, and_true]
  exact ⟨fun ⟨⟨⟨read, ranked⟩, wired⟩, apart⟩ => ⟨read, ranked, wired, apart⟩,
    fun clean => ⟨⟨⟨clean.read, clean.ranked⟩, clean.wired⟩, clean.apart⟩⟩

end Checker

end AdapterWiring
