import AdapterWiring.Proofs.CommandLine.Commands
import AdapterWiring.Proofs.Session.Check

/-!
# What a report accounts for

Nothing of a specification gets lost in a check, and no problem keeps another
from being found: a declaration is put to use or has errors of its own.

* **Findings.map_association_report** — the associations of a report are those
  without errors.
* **Accounts** — what a report tells of everything in a specification.
* **check_accounts** — every report does, and a check of the command line exits
  with status zero exactly if there is nothing to complain about.
-/

namespace AdapterWiring

/-! ## Accounts -/

/-- A report accounts for everything in a specification. -/
structure Accounts (checker : Checker Id) (specification : Specification) (report : Report) :
    Prop where
  /-- Diagnostics come by stages: those of loading as they are, those of rankings, a warning for
  each cycle, those of associations and of overlaps. -/
  diagnostics : report.diagnostics = specification.diagnostics ++
    specification.rankings.flatMap (checker.found specification).misranked ++
    (checker.found specification).cycles.map (Checker.cycleWarning specification.rankings) ++
    specification.associations.flatMap (checker.found specification).errors ++
    (Checker.overlapDiagnostics checker.overlap specification.associations).run
  /-- The rankings of two adapters are put to use, and nothing else is. -/
  links : ∀ lower higher,
    (Checker.precedence checker.library specification.rankings).Link lower higher ↔
      ∃ ranking ∈ specification.rankings,
        (checker.library.contains ranking.higher.name = true ∧
          checker.library.contains ranking.lower.name = true) ∧
        ranking.lower.name = lower ∧ ranking.higher.name = higher
  /-- A ranking has an error for each of its classes, the preferred one first, that is no
  adapter. -/
  misranked : ∀ ranking, (checker.found specification).misranked ranking =
    ([ranking.higher, ranking.lower].filter fun operand =>
      !checker.library.contains operand.name).map
        (Checker.misnamed checker.model ranking.origin.file)
  /-- An association is wired with the precedence of these rankings, or else each of its problems
  is an error. -/
  outcome : ∀ association, (checker.found specification).outcome association =
    (checker.wire (checker.library.withPrecedence
      (Checker.precedence checker.library specification.rankings)) association).run.mapError
        (Checker.wiringDiagnostics association)
  /-- It is either wired as it stands or has errors, in its own file. -/
  settles : ∀ association, (checker.found specification).Settles association
  /-- The associations without errors are listed, each as often as it is declared and in that
  order. -/
  associations : report.associations.map (·.association) =
    specification.associations.filter fun association =>
      ((checker.found specification).errors association).isEmpty
  /-- They are listed as they are wired. -/
  wired : report.associations =
    specification.associations.filterMap (checker.found specification).wired?
  /-- There is no error exactly if the specification has none in it. -/
  hasErrors_iff : report.hasErrors = false ↔ checker.Clean specification

/-- The report of a check accounts for the specification. -/
theorem accounts_check (checker : Checker Id) (specification : Specification) :
    Accounts checker specification (checker.check specification).run where
  diagnostics := by rw [Checker.check_eq_report]; rfl
  links lower higher := by
    rw [Checker.precedence, Precedence.link_ofRankings_iff]
    simp only [Precedence.Stated, List.mem_filter, Checker.isValid, Bool.and_eq_true, and_assoc]
  misranked := Checker.rankingDiagnostics_eq
  outcome _ := rfl
  settles := Checker.findings_settles
  associations := by
    rw [Checker.check_eq_report]
    exact Findings.map_association_report Checker.findings_settles _ specification
  wired := by rw [Checker.check_eq_report]; rfl
  hasErrors_iff := Checker.hasErrors_eq_false_iff specification

/-! ## Every check -/

/-- **Accounts.** After any history of queries, the report of a check accounts for the whole
specification. On the command line a check that can read its inputs exits with status zero exactly
if the specification has no errors in it and every adapter can be built from a single object. -/
theorem check_accounts_for_specification :
    (∀ (model : ClassModel Id) (oracle : Oracle) (library : Library) (overlap : Overlap Id)
      (specification : Specification) (queries : List Query),
      Accounts (Checker.overOracle model oracle library overlap) specification
        (((Checker.inSession model oracle library overlap).check specification).run
          (Session.start.asking oracle queries)).1) ∧
    ∀ (files : Files Id) (arguments : List String) (given : Inputs) (config? : Option String)
      (presentation : Presentation) (path : String) (specs : List String) (world : Universe),
      Invocation.parse arguments = .command (.check given config?) presentation →
      Command.Reads files given config? path specs world →
      ∃ library, (world.adapterLibrary world.oracle.ancestry).run = .ok library ∧
        ((Output.run files arguments).run.status = 0 ↔
          (Checker.overOracle world.model world.oracle library .never).Clean
            (Specification.load files.read specs).run ∧
          ∀ name declaration, world.class? name = some declaration → declaration.isAdapter = true →
            ∃ parameter, [parameter] ∈ declaration.constructors) := by
  constructor
  · intro model oracle library overlap specification queries
    rw [(Session.Answers.check library overlap specification _
      (Session.Faithful.start.asking queries)).1]
    exact accounts_check _ specification
  · intro files arguments given config? presentation path specs world parsed reads
    obtain ⟨library, ok, _⟩ := world.adapterLibrary_ok
    refine ⟨library, ok, ?_⟩
    let report := Command.report world library path (Specification.load files.read specs).run
    have clean : report.hasErrors = false ↔ _ ∧ _ := Command.hasErrors_report_eq_false_iff
    rw [Output.run_of_command parsed, Command.run_check reads ok,
      ← Universe.shapelessAdapters_eq_nil_iff, ← clean]
    show (Output.ofAnswer presentation (.report report)).status = 0 ↔ _
    rw [Output.status_ofAnswer_iff]
    exact iff_of_eq (Bool.not_eq_true' _)

theorem check_accounts_for_shop :
    Invocation.parse ["check", "--universe", "shop.json", "main.txt"] =
      .command (.check ⟨some "shop.json", ["main.txt"]⟩ none) ⟨.text, false, false⟩ ∧
    Command.Reads shopFiles ⟨some "shop.json", ["main.txt"]⟩ none "shop.json" ["main.txt"]
      shopWorld ∧
    (Output.run shopFiles ["check", "--universe", "shop.json", "main.txt"]).run.status = 0 := by
  have parsed : Invocation.parse ["check", "--universe", "shop.json", "main.txt"] =
      .command (.check ⟨some "shop.json", ["main.txt"]⟩ none) ⟨.text, false, false⟩ := by cbv
  refine ⟨parsed, reads_shop, ?_⟩
  obtain ⟨library, ok, status⟩ :=
    check_accounts_for_specification.2 shopFiles _ _ _ _ _ _ _ parsed reads_shop
  obtain rfl := Except.ok.inj (ok.symm.trans adapterLibrary_shop)
  rw [status, load_shop, ← Checker.hasErrors_eq_false_iff, ← Universe.shapelessAdapters_eq_nil_iff]
  exact ⟨by cbv, by cbv⟩

end AdapterWiring
