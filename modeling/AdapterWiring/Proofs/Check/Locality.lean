import AdapterWiring.Proofs.Check.Findings
import AdapterWiring.Proofs.Session.Check

/-!
# Checking is local

What becomes of an association depends on the association and on the
preferences that are stated, and on nothing else of a specification; so do the
cycles. Neither the order of declarations nor what was asked before matters.

* **found_congr** — the same preferences, the same findings.
* **Report.Shows** — what a report shows of an association.
* **shows_report** — a report shows the outcome that was found.
* **check_local** — reports on specifications that state the same preferences
  show the same outcomes and the same cycles.
-/

namespace AdapterWiring

/-! ## Outcomes -/

/-- A report shows the outcome of an association: it is listed as it is wired and in no other way,
or it is not listed and what is wrong with it is reported, one problem after the other. -/
def Report.Shows (report : Report) (association : Association) :
    Except (List Diagnostic) WiredAssociation → Prop
  | .ok wired => ∀ other,
    other ∈ report.associations ∧ other.association = association ↔ other = wired
  | .error problems => problems ≠ [] ∧ problems <:+: report.diagnostics ∧
    ∀ other ∈ report.associations, other.association ≠ association

namespace Findings

variable {findings : Findings} {overlap : Overlap Id} {specification : Specification}

theorem mem_associations_report_iff {wired : WiredAssociation} :
    wired ∈ (findings.report overlap specification).associations ↔
      ∃ association ∈ specification.associations, findings.outcome association = .ok wired := by
  show wired ∈ specification.associations.filterMap findings.wired? ↔ _
  rw [List.mem_filterMap]
  exact exists_congr fun association => and_congr_right fun _ => wired?_eq_some_iff

/-- The errors of an association are reported one after the other. -/
theorem infix_diagnostics_report (findings : Findings) (overlap : Overlap Id)
    {association : Association} (declared : association ∈ specification.associations) :
    findings.errors association <:+: (findings.report overlap specification).diagnostics := by
  have among :
      findings.errors association <:+: specification.associations.flatMap findings.errors :=
    List.infix_of_mem_flatten (List.mem_map_of_mem declared)
  rw [diagnostics_report]
  exact (among.trans (List.suffix_append _ _).isInfix).trans (List.prefix_append _ _).isInfix

/-- A report shows the outcomes of all associations that are declared. -/
theorem shows_report (settles : ∀ association, findings.Settles association)
    {association : Association} (declared : association ∈ specification.associations) :
    (findings.report overlap specification).Shows association (findings.outcome association) := by
  -- an association that is listed is the one it was wired for
  have listed {other : WiredAssociation}
      (member : other ∈ (findings.report overlap specification).associations) :
      findings.outcome other.association = .ok other := by
    obtain ⟨origin, _, wired⟩ := mem_associations_report_iff.1 member
    have same := settles origin
    rw [Settles, wired] at same
    rwa [same]
  have settled := settles association
  unfold Settles at settled
  cases result : findings.outcome association with
  | ok wired =>
    rw [result] at settled
    intro other
    constructor
    · rintro ⟨member, rfl⟩
      exact Except.ok.inj ((listed member).symm.trans result)
    · rintro rfl
      exact ⟨mem_associations_report_iff.2 ⟨association, declared, result⟩, settled⟩
  | error problems =>
    rw [result] at settled
    have reported := infix_diagnostics_report findings overlap declared
    rw [errors, result] at reported
    refine ⟨settled.1, reported, ?_⟩
    rintro other member rfl
    cases (listed member).symm.trans result

end Findings

/-! ## Locality -/

namespace Checker

/-- Specifications that state the same preferences have the same findings. -/
theorem found_congr {checker : Checker Id} {first second : Specification}
    (same : ∀ lower higher, Precedence.Stated first.rankings lower higher ↔
      Precedence.Stated second.rankings lower higher) :
    checker.found first = checker.found second := by
  have precedence : precedence checker.library first.rankings =
      precedence checker.library second.rankings :=
    Precedence.ofRankings_congr fun lower higher => by
      rw [stated_valid_iff, stated_valid_iff, same]
  unfold found
  rw [precedence]

/-- **Locality.** Two specifications that state the same preferences are checked with the same
findings, whatever precedence the library had, whatever was asked before and whenever associations
overlap: the cycles are the same, and each association that is declared comes out the same. -/
theorem check_local (model : ClassModel Id) (oracle : Oracle) (library : Library)
    (first second : Specification)
    (same : ∀ lower higher, Precedence.Stated first.rankings lower higher ↔
      Precedence.Stated second.rankings lower higher) :
    let report (held : Precedence) (overlap : Overlap Id) (queries : List Query)
        (specification : Specification) : Report :=
      (((inSession model oracle (library.withPrecedence held) overlap).check specification).run
        (Session.start.asking oracle queries)).1
    let findings := (overOracle model oracle library .never).found first
    ∀ specification, specification = first ∨ specification = second →
      ∀ held overlap queries,
        report held overlap queries specification = findings.report overlap specification ∧
        (report held overlap queries specification).warnings =
          specification.diagnostics.filter Diagnostic.isWarning ++
            findings.cycles.map (cycleWarning specification.rankings) ∧
        ∀ association ∈ specification.associations,
          (report held overlap queries specification).Shows association
            (findings.outcome association) := by
  intro report findings specification either held overlap queries
  have found : (overOracle model oracle (library.withPrecedence held) overlap).found
      specification = findings := by
    rcases either with rfl | rfl
    · rfl
    · exact (found_congr same).symm
  have checked : report held overlap queries specification =
      ((overOracle model oracle (library.withPrecedence held) overlap).check specification).run :=
    (Session.Answers.check (library.withPrecedence held) overlap specification _
      (Session.Faithful.start.asking queries)).1
  have reported : report held overlap queries specification =
      findings.report overlap specification := by
    rw [checked, check_eq_report, found]
    rfl
  refine ⟨reported, ?_, fun association declared => ?_⟩
  · rw [checked, warnings_check, found]
  · rw [reported]
    exact Findings.shows_report findings_settles declared

/-- The declarations of `knotted` backwards and once more, so that each is repeated. -/
def reknotted : Specification := ⟨knotted.declarations.reverse ++ knotted.declarations, []⟩

theorem check_local_knotted :
    (∀ lower higher, Precedence.Stated knotted.rankings lower higher ↔
      Precedence.Stated reknotted.rankings lower higher) ∧
    let findings := (overOracle tangledModel tangledTypes tangled .never).found knotted
    let first := (((inSession tangledModel tangledTypes (tangled.withPrecedence .none) .never).check
      knotted).run (Session.start.asking tangledTypes [])).1
    let second := (((inSession tangledModel tangledTypes
      (tangled.withPrecedence (.ofRankings knotted.rankings)) .never).check reknotted).run
        (Session.start.asking tangledTypes [.levels "B"])).1
    first.warnings = findings.cycles.map (cycleWarning knotted.rankings) ∧
    second.warnings = findings.cycles.map (cycleWarning reknotted.rankings) ∧
    first.Shows wanting (findings.outcome wanting) ∧
    second.Shows wanting (findings.outcome wanting) := by
  have same : ∀ lower higher, Precedence.Stated knotted.rankings lower higher ↔
      Precedence.Stated reknotted.rankings lower higher := by
    intro lower higher
    simp [Precedence.Stated, Specification.rankings, reknotted]
  have checked := check_local tangledModel tangledTypes tangled knotted reknotted same
  obtain ⟨_, firstWarnings, firstShows⟩ := checked knotted (.inl rfl) .none .never []
  obtain ⟨_, secondWarnings, secondShows⟩ :=
    checked reknotted (.inr rfl) (.ofRankings knotted.rankings) .never [.levels "B"]
  exact ⟨same, firstWarnings, secondWarnings, firstShows wanting (by decide),
    secondShows wanting (by decide)⟩

end Checker

end AdapterWiring
