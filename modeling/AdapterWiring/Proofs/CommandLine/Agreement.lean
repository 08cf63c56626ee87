import AdapterWiring.Proofs.Check.Locality
import AdapterWiring.Proofs.CommandLine.Commands

/-!
# The commands agree

A check goes by the rankings of two adapters, a resolution by all that are
declared. The others concern no two adapters, so they make no difference, and a
check wires what a resolution resolves and warns of the cycles that the search
for cycles finds.

* **resolve_valid_eq** — resolution with and without the rankings that do not
  count.
* **NeedsAdapter, wire_of_needsAdapter** — an association that is wired by
  resolution or not at all.
* **prints_iff** — what a resolution prints.
* **commands_agree** — check, resolution and search for cycles over the same
  files.
-/

namespace AdapterWiring

/-! ## Precedence -/

/-- Rankings that do not name two adapters make no link between adapters. -/
theorem Library.agree_valid (library : Library) (rankings : List Ranking) :
    library.Agree (.ofRankings rankings) (Checker.precedence library rankings) := by
  intro lower higher isLower isHigher
  rw [Checker.link_precedence_iff, Precedence.link_ofRankings_iff]
  exact ⟨fun stated => ⟨stated, isLower, isHigher⟩, And.left⟩

/-- So they do not matter to resolution, wherever levels come from. -/
theorem Library.resolve_valid_eq {m : Type → Type} [Monad m] {library : Library}
    (filed : library.WellFiled) (declarations : List Declaration) (types : Ancestry m)
    (source wanted : String) :
    (library.withPrecedence (.ofDeclarations declarations)).resolve types source wanted =
      (library.withPrecedence (Checker.precedence library
        (declarations.filterMap Declaration.ranking?))).resolve types source wanted :=
  resolve_congr filed (library.agree_valid _) types source wanted

/-! ## Wiring by resolution -/

/-- How an association comes out that is wired by resolution or not at all. -/
def Association.outcomeOf (association : Association) (sourceType targetType : String) :
    Except UnknownType Verdict → Except (List Diagnostic) WiredAssociation
  | .ok (.resolved adapter) => .ok ⟨association, targetType, sourceType, .resolved adapter⟩
  | .ok verdict => .error [.error association.origin.file association.origin.line
    (WiringProblem.unresolved verdict sourceType targetType).message]
  | .error failure => .error [.error association.origin.file association.origin.line
    (WiringProblem.hierarchy failure).message]

namespace Checker

/-- An association in order that asks for no adapter and whose source does not fit its target. -/
structure NeedsAdapter (checker : Checker Id) (association : Association)
    (sourceType targetType : String) : Prop where
  unasked : association.using? = none
  cleanTarget : (association.target.problems checker.model).run = []
  cleanSource : (association.source.problems checker.model).run = []
  target : (association.target.type? checker.model).run = some targetType
  source : (association.source.type? checker.model).run = some sourceType
  unfit : (checker.types.isSubtypeOrEqual sourceType targetType).run ≠ .ok true

variable {checker : Checker Id} {library : Library} {association : Association}
  {sourceType targetType : String}

/-- Resolution decides about types that do not fit. If the levels of the source are not known, the
question whether it fits fails as resolution does. -/
theorem wireTypes_of_unfit {types : Ancestry Id} (unasked : association.using? = none)
    (unfit : (types.isSubtypeOrEqual sourceType targetType).run ≠ .ok true) :
    (wireTypes types library association sourceType targetType).run =
      match (library.resolve types sourceType targetType).run with
      | .error failure => .error ⟨association.origin.line, .hierarchy failure⟩
      | .ok (.resolved adapter) => .ok (.resolved adapter)
      | .ok verdict =>
        .error ⟨association.origin.line, .unresolved verdict sourceType targetType⟩ := by
  have different : sourceType ≠ targetType := by
    rintro rfl
    exact unfit (by simp [Ancestry.isSubtypeOrEqual])
  have fits : (types.isSubtypeOrEqual sourceType targetType).run =
      (types.levels sourceType).run.map (·.any (targetType ∈ ·)) := by
    unfold Ancestry.isSubtypeOrEqual
    rw [if_neg different]
    rfl
  have resolved : (library.resolve types sourceType targetType).run =
      ((types.levels sourceType).run.map (.singleton sourceType :: ·)).map
        (library.verdict · targetType) := rfl
  unfold wireTypes
  simp only [unasked, Id.run_bind]
  cases levels : (types.levels sourceType).run with
  | error failure =>
    rw [levels] at fits resolved
    rw [fits, resolved]
    rfl
  | ok found =>
    rw [levels] at fits resolved
    cases inside : found.any (targetType ∈ ·) with
    | true => exact absurd (fits.trans (congrArg Except.ok inside)) unfit
    | false =>
      rw [fits.trans (congrArg Except.ok inside)]
      dsimp only
      rw [Id.run_bind]
      cases (library.resolve types sourceType targetType).run with
      | error failure => rfl
      | ok verdict => cases verdict <;> rfl

/-- So resolution decides about an association that needs an adapter. -/
theorem wire_of_needsAdapter
    (needs : checker.NeedsAdapter association sourceType targetType) :
    (checker.wire library association).run.mapError (wiringDiagnostics association) =
      association.outcomeOf sourceType targetType
        (library.resolve checker.types sourceType targetType).run := by
  unfold wire
  simp only [needs.cleanTarget, needs.cleanSource, needs.target, needs.source, Id.run_bind,
    List.append_nil, wireTypes_of_unfit needs.unasked needs.unfit]
  cases (library.resolve checker.types sourceType targetType).run with
  | error failure => rfl
  | ok verdict => cases verdict <;> rfl

end Checker

/-! ## Reports -/

/-- More diagnostics at the end do not change what is shown. -/
theorem Report.Shows.append {report : Report} {association : Association}
    {outcome : Except (List Diagnostic) WiredAssociation} (shown : report.Shows association outcome)
    (more : List Diagnostic) :
    ({ report with diagnostics := report.diagnostics ++ more } : Report).Shows association
      outcome := by
  cases outcome with
  | ok wired => exact shown
  | error problems =>
    obtain ⟨some, reported, unlisted⟩ := shown
    exact ⟨some, reported.trans (List.prefix_append _ _).isInfix, unlisted⟩

/-- An association that needs an adapter is listed with one exactly if that one is resolved. -/
theorem Report.Shows.mem_resolved_iff {report : Report} {association : Association}
    {sourceType targetType : String} {result : Except UnknownType Verdict}
    (shown : report.Shows association (association.outcomeOf sourceType targetType result))
    (adapter : String) :
    ⟨association, targetType, sourceType, .resolved adapter⟩ ∈ report.associations ↔
      result = .ok (.resolved adapter) := by
  have unlisted {problems : List Diagnostic} (fails : report.Shows association (.error problems)) :
      ⟨association, targetType, sourceType, .resolved adapter⟩ ∉ report.associations :=
    fun member => fails.2.2 _ member rfl
  cases result with
  | error failure => exact iff_of_false (unlisted shown) (nomatch ·)
  | ok verdict =>
    cases verdict with
    | resolved best =>
      have listed := shown ⟨association, targetType, sourceType, .resolved adapter⟩
      simp only [and_true] at listed
      rw [listed]
      simp [eq_comm]
    | ambiguous candidates => exact iff_of_false (unlisted shown) (by simp)
    | notFound => exact iff_of_false (unlisted shown) (by simp)
    | cyclicPrecedence involved => exact iff_of_false (unlisted shown) (by simp)

/-! ## Output -/

namespace Output

/-- A run succeeds and prints one line. -/
def Prints (output : Output) (line : String) : Prop :=
  output.status = 0 ∧ output.stdout = line ++ "\n"

theorem joinLines_singleton (line : String) : joinLines [line] = line ++ "\n" := by
  simp [joinLines, String.join]

theorem status_ofFailure (presentation : Presentation) (failure : Failure) :
    (ofFailure presentation failure).status = 1 := by
  unfold ofFailure
  split <;> rfl

/-- A resolution prints an adapter exactly if it is resolved. -/
theorem prints_iff {files : Files Id} {arguments : List String} {command : Command}
    {presentation : Presentation} {result : Except UnknownType Verdict} {adapter : String}
    (parsed : Invocation.parse arguments = .command command presentation)
    (text : presentation.format = .text)
    (answer : (command.run files).run.run =
      (result.map Answer.verdict).mapError Failure.hierarchy) :
    (run files arguments).run.Prints adapter ↔ result = .ok (.resolved adapter) := by
  rw [run_of_command parsed, answer]
  cases result with
  | error failure =>
    have failed := status_ofFailure presentation (.hierarchy failure)
    refine iff_of_false (fun prints => ?_) (nomatch ·)
    exact absurd (failed.symm.trans prints.1) (by decide)
  | ok verdict =>
    show (ofAnswer presentation (.verdict verdict)).Prints adapter ↔ _
    unfold Prints
    rw [status_ofAnswer_iff]
    unfold ofAnswer
    rw [text]
    cases verdict with
    | resolved best =>
      show _ ∧ joinLines [best] = adapter ++ "\n" ↔ _
      rw [joinLines_singleton]
      simp [Answer.isGood, Verdict.adapter?]
    | ambiguous candidates => simp [Answer.isGood, Verdict.adapter?]
    | notFound => simp [Answer.isGood, Verdict.adapter?]
    | cyclicPrecedence involved => simp [Answer.isGood, Verdict.adapter?]

end Output

/-! ## Agreement -/

/-- A check on the command line shows of an association that needs an adapter what a resolution over
the same files comes to. -/
theorem Command.shows_report {world : Universe} {library : Library} (files : world.Files library)
    {path : String} {specification : Specification} {association : Association}
    (declared : association ∈ specification.associations) {sourceType targetType : String}
    (needs : (Checker.overOracle world.model world.oracle library .never).NeedsAdapter association
      sourceType targetType) :
    (report world library path specification).Shows association
      (association.outcomeOf sourceType targetType
        ((library.withPrecedence (.ofDeclarations specification.declarations)).resolve
          world.oracle.ancestry sourceType targetType).run) := by
  let checker := Checker.overOracle world.model world.oracle library .never
  have shown : (checker.check specification).run.Shows association
      ((checker.found specification).outcome association) := by
    rw [Checker.check_eq_report]
    exact Findings.shows_report Checker.findings_settles declared
  have decided : (checker.found specification).outcome association =
      association.outcomeOf sourceType targetType
        ((library.withPrecedence (Checker.precedence library specification.rankings)).resolve
          world.oracle.ancestry sourceType targetType).run :=
    Checker.wire_of_needsAdapter needs
  rw [Library.resolve_valid_eq files.built.wellFiled]
  exact (decided ▸ shown).append _

/-- **Agreement.** Resolution with all rankings that are declared, after whatever queries, is
resolution with those of two adapters of the universe's library. Over files that can be read, a
check therefore wires an association that needs an adapter through the one that a resolution prints,
or else has its verdict or its failure as the error, and it warns of exactly the cycles that the
search for cycles finds, in the same order. -/
theorem commands_agree (world : Universe) :
    ∃ library, (world.adapterLibrary world.oracle.ancestry).run = .ok library ∧
      (∀ (declarations : List Declaration) (source wanted : String) (first second : List Query),
        let types := Session.ancestry world.oracle
        let valid := Checker.precedence library (declarations.filterMap Declaration.ranking?)
        (((library.withPrecedence (.ofDeclarations declarations)).resolve types source wanted).run
            (Session.start.asking world.oracle first)).1 =
          (((library.withPrecedence valid).resolve types source wanted).run
            (Session.start.asking world.oracle second)).1) ∧
      ∀ (files : Files Id) (given : Inputs) (config? : Option String) (path : String)
        (specs : List String), Command.Reads files given config? path specs world →
        let specification := (Specification.load files.read specs).run
        specification.hasErrors = false →
        ∃ report cycles,
          ((Command.check given config?).run files).run.run = .ok (.report report) ∧
          ((Command.cycles given config?).run files).run.run = .ok (.cycles cycles) ∧
          report.warnings = cycles.map (Checker.cycleWarning specification.rankings) ∧
          ∀ association ∈ specification.associations, ∀ sourceType targetType,
            (Checker.overOracle world.model world.oracle library .never).NeedsAdapter association
              sourceType targetType →
            ∃ result : Except UnknownType Verdict,
              ((Command.resolve path sourceType targetType specs).run files).run.run =
                (result.map Answer.verdict).mapError Failure.hierarchy ∧
              report.Shows association (association.outcomeOf sourceType targetType result) ∧
              ∀ arguments presentation adapter,
                Invocation.parse arguments =
                  .command (.resolve path sourceType targetType specs) presentation →
                presentation.format = .text →
                (⟨association, targetType, sourceType, .resolved adapter⟩ ∈ report.associations ↔
                  (Output.run files arguments).run.Prints adapter) := by
  obtain ⟨library, ok, filed⟩ := world.adapterLibrary_ok
  refine ⟨library, ok, ?_, ?_⟩
  · intro declarations source wanted first second types valid
    rw [Library.resolve_valid_eq filed.built.wellFiled]
    have answered (queries : List Query) :
        (((library.withPrecedence valid).resolve types source wanted).run
          (Session.start.asking world.oracle queries)).1 =
            ((library.withPrecedence valid).resolve world.oracle.ancestry source wanted).run :=
      (Session.Answers.resolve _ source wanted _ (Session.Faithful.start.asking queries)).1
    exact (answered first).trans (answered second).symm
  · intro files given config? path specs reads specification clean
    refine ⟨_, _, Command.run_check reads ok, Command.run_cycles reads ok clean,
      Command.warnings_report (Specification.diagnostics_load_eq_nil clean), ?_⟩
    intro association declared sourceType targetType needs
    have shown : (Command.report world library path specification).Shows association _ :=
      Command.shows_report filed declared needs
    have answer := Command.run_resolve reads.world ok clean sourceType targetType
    refine ⟨_, answer, shown, fun arguments presentation adapter parsed text => ?_⟩
    rw [shown.mem_resolved_iff, Output.prints_iff parsed text answer]

/-- The one association of the shop. -/
def shopAssociation : Association :=
  ⟨.field ⟨"Shop", "part", 1⟩, .fresh ⟨"B", 1⟩, none, ⟨"main.txt", 1⟩⟩

theorem commands_agree_shop :
    let arguments := ["resolve", "--universe", "shop.json", "--from", "B", "--to", "A", "main.txt"]
    (Command.Reads shopFiles ⟨some "shop.json", ["main.txt"]⟩ none "shop.json" ["main.txt"]
      shopWorld ∧ (Specification.load shopFiles.read ["main.txt"]).run.hasErrors = false) ∧
    (shopAssociation ∈ (Specification.load shopFiles.read ["main.txt"]).run.associations ∧
      (Checker.overOracle shopWorld.model shopWorld.oracle shopLibrary .never).NeedsAdapter
        shopAssociation "B" "A") ∧
    Invocation.parse arguments =
      .command (.resolve "shop.json" "B" "A" ["main.txt"]) ⟨.text, false, false⟩ ∧
    ∃ report,
      ((Command.check ⟨some "shop.json", ["main.txt"]⟩ none).run shopFiles).run.run =
        .ok (.report report) ∧
      ⟨shopAssociation, "A", "B", .resolved "OtherBtoA"⟩ ∈ report.associations ∧
      (Output.run shopFiles arguments).run.Prints "OtherBtoA" := by
  intro arguments
  have clean : (Specification.load shopFiles.read ["main.txt"]).run.hasErrors = false := by
    rw [load_shop]
    rfl
  have declared :
      shopAssociation ∈ (Specification.load shopFiles.read ["main.txt"]).run.associations := by
    rw [load_shop]
    decide
  have needs : (Checker.overOracle shopWorld.model shopWorld.oracle shopLibrary .never).NeedsAdapter
      shopAssociation "B" "A" := by
    refine ⟨rfl, by cbv, by cbv, by cbv, by cbv, fun fits => ?_⟩
    cbv at fits
    cases fits
  have parsed : Invocation.parse arguments =
      .command (.resolve "shop.json" "B" "A" ["main.txt"]) ⟨.text, false, false⟩ := by cbv
  refine ⟨⟨reads_shop, clean⟩, ⟨declared, needs⟩, parsed, ?_⟩
  obtain ⟨library, ok, _, agree⟩ := commands_agree shopWorld
  obtain rfl := Except.ok.inj (ok.symm.trans adapterLibrary_shop)
  obtain ⟨report, cycles, checked, _, _, resolved⟩ := agree _ _ _ _ _ reads_shop clean
  obtain ⟨result, answer, _, prints⟩ := resolved _ declared "B" "A" needs
  have best : result = .ok (.resolved "OtherBtoA") := by
    have found : ((shopLibrary.withPrecedence
        (.ofDeclarations shopSpecification.declarations)).resolve
          shopWorld.oracle.ancestry "B" "A").run = .ok (.resolved "OtherBtoA") := by cbv
    have direct := Command.run_resolve reads_shop.world adapterLibrary_shop clean "B" "A"
    rw [answer, load_shop, found] at direct
    cases result with
    | error failure => cases direct
    | ok verdict => simpa [Except.map, Except.mapError] using direct
  have printed := (Output.prints_iff parsed rfl answer).2 best
  exact ⟨report, checked, (prints _ _ _ parsed rfl).2 printed, printed⟩

end AdapterWiring
