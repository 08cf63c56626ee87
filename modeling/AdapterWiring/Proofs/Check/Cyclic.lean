import AdapterWiring.Check.Checker
import AdapterWiring.Proofs.Adapter.Cycles
import AdapterWiring.Proofs.Adapter.Verdict
import AdapterWiring.Proofs.Check.Wiring
import AdapterWiring.Proofs.Session.Check
import Mathlib

/-!
# Cyclic verdicts and cycle warnings

Resolution looks for a cycle among the tied adapters only, the search for cycles
at all of them, and it may list a longer cycle that leaves the tied ones. What
they have in common is a link: each tied adapter has a tied one preferred to it,
so following these links one takes a link that closes a listed cycle.

* **EndsIn** — a cycle whose first and last names are among given ones.
* **verdict_cyclic, exists_endsIn** — the links between tied adapters, and the
  cycle listed.
* **Yields** — an outcome that a query has in some state; how outcomes of
  composed queries come about.
* **startsWith_…** — the wordings of problems, told apart by how they start.
* **Unwired, wire_error** — how associations are left unwired.
* **check_stages** — where the diagnostics of a report come from.
* **cyclic_warned** — the warning that goes with each error.
-/

namespace AdapterWiring

/-- The first and the last name of a cycle are among given ones. -/
def Cycle.EndsIn (cycle : Cycle) (names : NameSet) : Prop :=
  ∃ first ∈ names, ∃ last ∈ names,
    cycle.members.head? = some first ∧ cycle.members.getLast? = some last

/-! ## Ties -/

namespace Library

variable {library : Library} {levels : Levels} {wanted : String} {involved : NameSet}

/-- Candidates are in a cyclic tie if each has one of them preferred to it. -/
theorem byPrecedence_cyclic {candidates : List Descriptor}
    (cyclic : library.byPrecedence candidates = .cyclicPrecedence involved) :
    involved = .ofList (candidates.map (·.name)) ∧
      ∀ name ∈ involved, ∃ higher ∈ involved, library.precedence.Link name higher := by
  simp only [byPrecedence_eq_unbeaten] at cyclic
  split at cyclic
  next none =>
    obtain rfl := Verdict.cyclicPrecedence.inj cyclic
    refine ⟨rfl, fun name isTied => ?_⟩
    by_contra unbeaten
    push Not at unbeaten
    have survives := mem_unbeaten.2 ⟨isTied, unbeaten⟩
    rw [NameSet.mem_def, none] at survives
    cases survives
  next => cases cyclic
  next => cases cyclic

/-- A cyclic verdict names some adapters, each with one of them preferred to it. -/
theorem verdict_cyclic (cyclic : library.verdict levels wanted = .cyclicPrecedence involved) :
    (∃ name, name ∈ involved) ∧
      ∀ name ∈ involved, ∃ higher ∈ involved, library.precedence.Link name higher := by
  rw [verdict_eq_narrowed] at cyclic
  match library.narrowed levels wanted, cyclic with
  | first :: second :: rest, cyclic =>
    obtain ⟨rfl, links⟩ := byPrecedence_cyclic cyclic
    exact ⟨⟨first.name, by simp⟩, links⟩

/-- Where the verdict is cyclic the search lists a cycle that ends among the adapters named. -/
theorem exists_endsIn (cyclic : library.verdict levels wanted = .cyclicPrecedence involved) :
    ∃ cycle ∈ library.precedence.cycles, cycle.EndsIn involved := by
  obtain ⟨⟨start, isInvolved⟩, onward⟩ := verdict_cyclic cyclic
  -- only the links that stay among the adapters named are followed
  let inside (lower higher : String) : Prop :=
    library.precedence.Link lower higher ∧ lower ∈ involved ∧ higher ∈ involved
  have endless (lower : String) (here : lower ∈ involved) :
      ∃ higher, higher ∈ involved ∧ inside lower higher := by
    obtain ⟨higher, alsoInvolved, link⟩ := onward lower here
    exact ⟨higher, alsoInvolved, link, here, alsoInvolved⟩
  obtain ⟨cycle, listed, lower, higher, ⟨_, isLower, isHigher⟩, closing⟩ :=
    Precedence.exists_closing inside (· ∈ involved) (fun _ _ link => link.1) endless isInvolved
  obtain ⟨isLast, isFirst⟩ := Cycle.closing?_eq_some_iff.1 closing
  exact ⟨cycle, listed, higher, isHigher, lower, isLower, isFirst, isLast⟩

end Library

/-! ## Outcomes -/

section Outcomes

variable {σ α β : Type}

/-- An outcome that a query has in some state. -/
def Yields (query : StateM σ α) (outcome : α) : Prop := ∃ state, (query.run state).1 = outcome

theorem Yields.of_bind {query : StateM σ α} {next : α → StateM σ β} {outcome : β}
    (yields : Yields (query >>= next) outcome) :
    ∃ first, Yields query first ∧ Yields (next first) outcome := by
  obtain ⟨state, rfl⟩ := yields
  exact ⟨_, ⟨state, rfl⟩, ⟨(query.run state).2, rfl⟩⟩

theorem Yields.of_pure {value outcome : α} (yields : Yields (pure value : StateM σ α) outcome) :
    outcome = value := by
  obtain ⟨_, rfl⟩ := yields
  rfl

theorem Yields.of_mapM {ask : α → StateM σ β} {items : List α} {outcomes : List β}
    (yields : Yields (items.mapM ask) outcomes) :
    ∀ outcome ∈ outcomes, ∃ item ∈ items, Yields (ask item) outcome := by
  induction items generalizing outcomes with
  | nil =>
    rw [List.mapM_nil] at yields
    rw [yields.of_pure]
    simp
  | cons item rest ih =>
    rw [List.mapM_cons] at yields
    obtain ⟨first, asked, yields⟩ := yields.of_bind
    obtain ⟨others, askedRest, yields⟩ := yields.of_bind
    rw [yields.of_pure]
    intro outcome member
    rcases List.mem_cons.1 member with rfl | later
    · exact ⟨item, List.mem_cons_self .., asked⟩
    · obtain ⟨other, isOther, asked⟩ := ih askedRest outcome later
      exact ⟨other, List.mem_cons_of_mem _ isOther, asked⟩

end Outcomes

/-! ## Wordings -/

theorem startsWith_self (start rest : String) : (start ++ rest).startsWith start = true := by
  rw [String.startsWith_string_iff, String.toList_append]
  exact List.prefix_append ..

theorem startsWith_append {start message : String} (starts : message.startsWith start = true)
    (rest : String) : (message ++ rest).startsWith start = true := by
  rw [String.startsWith_string_iff] at starts ⊢
  rw [String.toList_append]
  exact starts.trans (List.prefix_append ..)

/-- Two starts of one message: one of them goes on from the other. -/
theorem startsWith_or {message first second : String} (isFirst : message.startsWith first = true)
    (isSecond : message.startsWith second = true) :
    first.toList <+: second.toList ∨ second.toList <+: first.toList :=
  List.prefix_or_prefix_of_prefix (String.startsWith_string_iff.1 isFirst)
    (String.startsWith_string_iff.1 isSecond)

/-- How problems are worded, cyclic verdicts apart. -/
def openings : List String :=
  ["class '", "field '", "method '", "cannot determine the type of ", "adapter '", "unknown type '",
    "resolved to ", "ambiguous adapters: ", "no suitable adapter found"]

/-- A message is worded as a problem that is not a cyclic verdict. -/
def Opens (message : String) : Prop := ∃ start ∈ openings, message.startsWith start = true

theorem Opens.of_start {start : String} (isOpening : start ∈ openings) (rest : String) :
    Opens (start ++ rest) :=
  ⟨start, isOpening, startsWith_self start rest⟩

theorem Opens.of_self {start : String} (isOpening : start ∈ openings) : Opens start :=
  ⟨start, isOpening, String.startsWith_string_iff.2 List.prefix_rfl⟩

theorem Opens.append {message : String} (opens : Opens message) (rest : String) :
    Opens (message ++ rest) := by
  obtain ⟨start, isOpening, starts⟩ := opens
  exact ⟨start, isOpening, startsWith_append starts rest⟩

/-- Such a message does not read as a cyclic verdict. -/
theorem Opens.not_cyclic {message : String} (opens : Opens message) :
    ¬ message.startsWith "cyclic precedence between adapters: " = true := by
  obtain ⟨start, isOpening, starts⟩ := opens
  intro cyclic
  have apart : ∀ start ∈ openings,
      ¬ (start.toList <+: "cyclic precedence between adapters: ".toList ∨
        "cyclic precedence between adapters: ".toList <+: start.toList) := by
    decide
  exact apart start isOpening (startsWith_or starts cyclic)

theorem ClauseProblem.opens (problem : ClauseProblem) : Opens problem.message := by
  have class' : "class '" ∈ openings := by decide
  have field : "field '" ∈ openings := by decide
  have method : "method '" ∈ openings := by decide
  cases problem with
  | classNotFound name => exact (Opens.of_start class' _).append _
  | fieldNotFound owner member => exact (((Opens.of_start field _).append _).append _).append _
  | fieldNotStatic owner member => exact (((Opens.of_start field _).append _).append _).append _
  | methodNotFound owner member => exact (((Opens.of_start method _).append _).append _).append _
  | methodNotStatic owner member => exact (((Opens.of_start method _).append _).append _).append _
  | methodTakesArguments owner member arity =>
    exact (((((Opens.of_start method _).append _).append _).append _).append _).append _

theorem UnknownType.opens (failure : UnknownType) : Opens failure.message :=
  (Opens.of_start (by decide) _).append _

theorem ExplicitError.opens (failure : ExplicitError) : Opens failure.message := by
  have adapter' : "adapter '" ∈ openings := by decide
  cases failure with
  | unknownAdapter adapter => exact (Opens.of_start adapter' _).append _
  | notEligible adapter source wanted =>
    exact (((((Opens.of_start adapter' _).append _).append _).append _).append _).append _
  | hierarchy failure => exact failure.opens

/-- Only a cyclic verdict reads as one. -/
theorem WiringProblem.cyclic_of_startsWith (problem : WiringProblem)
    (starts : problem.message.startsWith "cyclic precedence between adapters: " = true) :
    ∃ involved source wanted,
      problem = .unresolved (.cyclicPrecedence involved) source wanted := by
  have untyped : "cannot determine the type of " ∈ openings := by decide
  have resolved : "resolved to " ∈ openings := by decide
  have ambiguous : "ambiguous adapters: " ∈ openings := by decide
  have notFound : "no suitable adapter found" ∈ openings := by decide
  cases problem with
  | clause problem => exact absurd starts problem.opens.not_cyclic
  | untypedTarget target =>
    have opens : Opens (WiringProblem.untypedTarget target).message := .of_start untyped _
    exact absurd starts opens.not_cyclic
  | untypedSource source =>
    have opens : Opens (WiringProblem.untypedSource source).message := .of_start untyped _
    exact absurd starts opens.not_cyclic
  | explicit failure => exact absurd starts failure.opens.not_cyclic
  | hierarchy failure => exact absurd starts failure.opens.not_cyclic
  | unresolved verdict source wanted =>
    have carries (opens : Opens verdict.message) :
        Opens (WiringProblem.unresolved verdict source wanted).message :=
      ((((opens.append _).append _).append _).append _).append _
    cases verdict with
    | cyclicPrecedence involved => exact ⟨involved, source, wanted, rfl⟩
    | resolved adapter => exact absurd starts (carries (.of_start resolved _)).not_cyclic
    | ambiguous candidates => exact absurd starts (carries (.of_start ambiguous _)).not_cyclic
    | notFound => exact absurd starts (carries (.of_self notFound)).not_cyclic

/-! ## Associations -/

namespace Checker

variable {σ : Type} {checker : Checker (StateM σ)} {library : Library} {association : Association}

/-- How an association whose types are known is left unwired. -/
inductive Unfit (types : Ancestry (StateM σ)) (library : Library) (association : Association)
    (source wanted : String) : Located WiringProblem → Prop
  | asked {adapter : ClassOperand} {failure : ExplicitError} : association.using? = some adapter →
      Unfit types library association source wanted ⟨adapter.line, .explicit failure⟩
  | unknown {failure : UnknownType} :
      Unfit types library association source wanted ⟨association.origin.line, .hierarchy failure⟩
  | unresolved {verdict : Verdict} : Yields (library.resolve types source wanted) (.ok verdict) →
      Unfit types library association source wanted
        ⟨association.origin.line, .unresolved verdict source wanted⟩

theorem wireTypes_error {types : Ancestry (StateM σ)} {source wanted : String}
    {located : Located WiringProblem}
    (fails : Yields (wireTypes types library association source wanted) (.error located)) :
    Unfit types library association source wanted located := by
  unfold wireTypes at fails
  cases chosen : association.using? with
  | some adapter =>
    rw [chosen] at fails
    obtain ⟨result, _, fails⟩ := fails.of_bind
    cases result with
    | ok _ => cases fails.of_pure
    | error failure =>
      cases fails.of_pure
      exact .asked chosen
  | none =>
    rw [chosen] at fails
    obtain ⟨result, _, fails⟩ := fails.of_bind
    match result with
    | .error failure =>
      cases fails.of_pure
      exact .unknown
    | .ok true => cases fails.of_pure
    | .ok false =>
      obtain ⟨result, resolved, fails⟩ := fails.of_bind
      match result with
      | .error failure =>
        cases fails.of_pure
        exact .unknown
      | .ok (.resolved adapter) => cases fails.of_pure
      | .ok (.ambiguous candidates) | .ok .notFound | .ok (.cyclicPrecedence involved) =>
        cases fails.of_pure
        exact .unresolved resolved

/-- How an association is left unwired: by its clauses, by a type that is not known, or between
types that are. -/
inductive Unwired (checker : Checker (StateM σ)) (library : Library) (association : Association) :
    List (Located WiringProblem) → Prop
  | clauses {ofTarget ofSource : List (Located ClauseProblem)} :
      Yields (association.target.problems checker.model) ofTarget →
      Yields (association.source.problems checker.model) ofSource →
      Unwired checker library association
        ((ofTarget ++ ofSource).map fun located => ⟨located.line, .clause located.problem⟩)
  | target : Unwired checker library association
      [⟨association.target.line, .untypedTarget association.target⟩]
  | source : Unwired checker library association
      [⟨association.source.line, .untypedSource association.source⟩]
  | types {source wanted : String} {located : Located WiringProblem} :
      Unfit checker.types library association source wanted located →
      Unwired checker library association [located]

theorem wire_error {problems : List (Located WiringProblem)}
    (fails : Yields (checker.wire library association) (.error problems)) :
    checker.Unwired library association problems := by
  unfold wire at fails
  obtain ⟨targetProblems, ofTarget, fails⟩ := fails.of_bind
  obtain ⟨sourceProblems, ofSource, fails⟩ := fails.of_bind
  split at fails
  next problem others found =>
    cases fails.of_pure
    rw [← found]
    exact .clauses ofTarget ofSource
  · obtain ⟨targetType?, _, fails⟩ := fails.of_bind
    cases targetType? with
    | none =>
      cases fails.of_pure
      exact .target
    | some targetType =>
      obtain ⟨sourceType?, _, fails⟩ := fails.of_bind
      cases sourceType? with
      | none =>
        cases fails.of_pure
        exact .source
      | some sourceType =>
        obtain ⟨result, wired, fails⟩ := fails.of_bind
        cases result with
        | ok wiring => cases fails.of_pure
        | error problem =>
          cases fails.of_pure
          exact .types (wireTypes_error wired)

/-- An association is left without a verdict in its favour only by resolution, which answered for
the types named, and the problem is put at the association itself. -/
theorem Unwired.unresolved {problems : List (Located WiringProblem)}
    (unwired : checker.Unwired library association problems) {located : Located WiringProblem}
    (member : located ∈ problems) {verdict : Verdict} {sourceType targetType : String}
    (unresolved : located.problem = .unresolved verdict sourceType targetType) :
    located.line = association.origin.line ∧
      Yields (library.resolve checker.types sourceType targetType) (.ok verdict) := by
  cases unwired with
  | clauses ofTarget ofSource =>
    obtain ⟨clause, _, rfl⟩ := List.mem_map.1 member
    cases unresolved
  | target =>
    cases List.mem_singleton.1 member
    cases unresolved
  | source =>
    cases List.mem_singleton.1 member
    cases unresolved
  | types unfit =>
    cases List.mem_singleton.1 member
    cases unfit with
    | asked chosen => cases unresolved
    | unknown => cases unresolved
    | unresolved resolved =>
      cases unresolved
      exact ⟨rfl, resolved⟩

/-! ## Reports -/

/-- Every problem of a ranking is one with a class. -/
theorem operandDiagnostics_opens {file : String} {operand : ClassOperand}
    {found : List Diagnostic} (yields : Yields (checker.operandDiagnostics file operand) found) :
    ∀ diagnostic ∈ found, Opens diagnostic.message := by
  have class' : "class '" ∈ openings := by decide
  unfold operandDiagnostics at yields
  split at yields
  · rw [yields.of_pure]
    simp
  · obtain ⟨isClass, _, yields⟩ := yields.of_bind
    split at yields
    · rw [yields.of_pure]
      intro diagnostic member
      rw [List.mem_singleton.1 member]
      exact (Opens.of_start class' _).append _
    · rw [yields.of_pure]
      intro diagnostic member
      rw [List.mem_singleton.1 member]
      exact (Opens.of_start class' _).append _

theorem rankingDiagnostics_opens {ranking : Ranking} {found : List Diagnostic}
    (yields : Yields (checker.rankingDiagnostics ranking) found) :
    ∀ diagnostic ∈ found, Opens diagnostic.message := by
  unfold rankingDiagnostics at yields
  obtain ⟨higher, ofHigher, yields⟩ := yields.of_bind
  obtain ⟨lower, ofLower, yields⟩ := yields.of_bind
  rw [yields.of_pure]
  intro diagnostic member
  rcases List.mem_append.1 member with inHigher | inLower
  · exact operandDiagnostics_opens ofHigher diagnostic inHigher
  · exact operandDiagnostics_opens ofLower diagnostic inLower

/-- The library that associations are wired with: its precedence is that of the valid rankings. -/
def ranked (checker : Checker (StateM σ)) (specification : Specification) : Library :=
  checker.library.withPrecedence (precedence checker.library specification.rankings)

/-- The diagnostics of a report, by where they come from. -/
theorem check_stages {specification : Specification} {report : Report}
    (yields : Yields (checker.check specification) report) :
    ∃ rankingProblems wiringProblems overlaps,
      report.diagnostics = specification.diagnostics ++
        (rankingProblems ++
          (checker.ranked specification).precedence.cycles.map
            (cycleWarning specification.rankings) ++ wiringProblems) ++ overlaps ∧
      Yields (overlapDiagnostics checker.overlap specification.associations) overlaps ∧
      (∀ diagnostic ∈ rankingProblems, ∃ ranking ∈ specification.rankings, ∃ problems,
        Yields (checker.rankingDiagnostics ranking) problems ∧ diagnostic ∈ problems) ∧
      ∀ diagnostic ∈ wiringProblems, ∃ association ∈ specification.associations, ∃ problems,
        Yields (checker.wire (checker.ranked specification) association) (.error problems) ∧
        diagnostic ∈ wiringDiagnostics association problems := by
  unfold check at yields
  obtain ⟨rankingProblems, ofRankings, yields⟩ := yields.of_bind
  obtain ⟨outcomes, ofAssociations, yields⟩ := yields.of_bind
  obtain ⟨overlaps, ofOverlaps, yields⟩ := yields.of_bind
  rw [yields.of_pure]
  dsimp only
  generalize collected : outcomes.flatMap _ = wiringProblems
  refine ⟨rankingProblems.flatten, wiringProblems, overlaps, ?_, ofOverlaps, ?_, ?_⟩
  · simp only [List.append_assoc]
    rfl
  · intro diagnostic member
    obtain ⟨problems, isOutcome, inProblems⟩ := List.mem_flatten.1 member
    obtain ⟨ranking, declared, ofRanking⟩ := ofRankings.of_mapM problems isOutcome
    exact ⟨ranking, declared, problems, ofRanking, inProblems⟩
  · intro diagnostic member
    rw [← collected] at member
    obtain ⟨outcome, isOutcome, inProblems⟩ := List.mem_flatMap.1 member
    obtain ⟨association, declared, yields⟩ := ofAssociations.of_mapM outcome isOutcome
    obtain ⟨result, wired, yields⟩ := yields.of_bind
    rw [yields.of_pure] at inProblems
    cases result with
    | ok outcome => cases inProblems
    | error problems => exact ⟨association, declared, problems, wired, inProblems⟩

/-- None of the problems of rankings reads as a cyclic verdict. -/
theorem check_diagnostics {specification : Specification} {report : Report}
    (yields : Yields (checker.check specification) report) :
    ∃ rankingProblems wiringProblems overlaps,
      report.diagnostics = specification.diagnostics ++
        (rankingProblems ++
          (checker.ranked specification).precedence.cycles.map
            (cycleWarning specification.rankings) ++ wiringProblems) ++ overlaps ∧
      Yields (overlapDiagnostics checker.overlap specification.associations) overlaps ∧
      (∀ diagnostic ∈ rankingProblems, Opens diagnostic.message) ∧
      ∀ diagnostic ∈ wiringProblems, ∃ association ∈ specification.associations, ∃ problems,
        Yields (checker.wire (checker.ranked specification) association) (.error problems) ∧
        diagnostic ∈ wiringDiagnostics association problems := by
  obtain ⟨rankingProblems, wiringProblems, overlaps, diagnostics, ofOverlaps, ofRankings,
    ofAssociations⟩ := check_stages yields
  refine ⟨rankingProblems, wiringProblems, overlaps, diagnostics, ofOverlaps,
    fun diagnostic member => ?_, ofAssociations⟩
  obtain ⟨_, _, _, ofRanking, inProblems⟩ := ofRankings diagnostic member
  exact rankingDiagnostics_opens ofRanking diagnostic inProblems

/-- The warning about a cycle is one, and names the cycle. -/
theorem cycleWarning_cases (rankings : List Ranking) (cycle : Cycle) :
    (cycleWarning rankings cycle).severity = .warning ∧
      (cycleWarning rankings cycle).message = "cyclic precedence: " ++ cycle.render := by
  unfold cycleWarning
  dsimp only
  split
  · exact ⟨rfl, rfl⟩
  · exact ⟨rfl, rfl⟩

/-- The error of an association whose resolution is cyclic, with the adapters involved. -/
def IsCyclicError (checker : Checker (StateM σ)) (specification : Specification)
    (involved : NameSet) (diagnostic : Diagnostic) : Prop :=
  ∃ association ∈ specification.associations, ∃ sourceType targetType,
    Yields ((checker.ranked specification).resolve checker.types sourceType targetType)
      (.ok (.cyclicPrecedence involved)) ∧
    diagnostic = .error association.origin.file association.origin.line
      (WiringProblem.unresolved (.cyclicPrecedence involved) sourceType targetType).message

/-- Where resolution answers so, the search lists a cycle that ends among the adapters named. -/
theorem exists_endsIn_of_resolve {types : Ancestry (StateM σ)} {source wanted : String}
    {involved : NameSet}
    (cyclic : Yields (library.resolve types source wanted) (.ok (.cyclicPrecedence involved))) :
    ∃ cycle ∈ library.precedence.cycles, cycle.EndsIn involved := by
  obtain ⟨levels, _, cyclic⟩ := cyclic.of_bind
  cases levels with
  | error failure => cases cyclic.of_pure
  | ok levels => exact Library.exists_endsIn (Except.ok.inj cyclic.of_pure).symm

/-- A problem of an association that reads as a cyclic verdict is one, and a cycle is listed. -/
theorem isCyclicError_of_wire {specification : Specification} {diagnostic : Diagnostic}
    {problems : List (Located WiringProblem)} (declared : association ∈ specification.associations)
    (fails : Yields (checker.wire (checker.ranked specification) association) (.error problems))
    (member : diagnostic ∈ wiringDiagnostics association problems)
    (starts : diagnostic.message.startsWith "cyclic precedence between adapters: " = true) :
    ∃ involved, checker.IsCyclicError specification involved diagnostic ∧
      ∃ cycle ∈ (checker.ranked specification).precedence.cycles, cycle.EndsIn involved := by
  obtain ⟨located, isProblem, rfl⟩ := List.mem_map.1 member
  obtain ⟨involved, sourceType, targetType, unresolved⟩ :=
    located.problem.cyclic_of_startsWith starts
  obtain ⟨line, resolved⟩ := (wire_error fails).unresolved isProblem unresolved
  refine ⟨involved, ⟨association, declared, sourceType, targetType, resolved, ?_⟩,
    exists_endsIn_of_resolve resolved⟩
  rw [line, unresolved]

/-- **Cyclic verdicts and cycle warnings.** Whenever resolution answers that precedence is cyclic,
in whatever state, the search lists a cycle that ends among the adapters involved. So in each
report, the problems of the files and the overlaps apart, each error that reads as a cyclic verdict
is that of an association, and the report also warns of such a cycle; and without a warning of a
cycle there is no such error. -/
theorem cyclic_warned (checker : Checker (StateM σ)) (specification : Specification) (state : σ) :
    (∀ (library : Library) (types : Ancestry (StateM σ)) (source wanted : String)
      (involved : NameSet),
      Yields (library.resolve types source wanted) (.ok (.cyclicPrecedence involved)) →
        ∃ cycle ∈ library.precedence.cycles, cycle.EndsIn involved) ∧
    let report := ((checker.check specification).run state).1
    ∃ found overlaps, report.diagnostics = specification.diagnostics ++ found ++ overlaps ∧
      Yields (overlapDiagnostics checker.overlap specification.associations) overlaps ∧
      (∀ diagnostic ∈ found, diagnostic.isError = true →
        diagnostic.message.startsWith "cyclic precedence between adapters: " = true →
        ∃ involved, checker.IsCyclicError specification involved diagnostic ∧
          ∃ cycle ∈ (precedence checker.library specification.rankings).cycles,
            cycle.EndsIn involved ∧ cycleWarning specification.rankings cycle ∈ found) ∧
      ((∀ diagnostic ∈ report.diagnostics, diagnostic.isWarning = true →
          ¬ diagnostic.message.startsWith "cyclic precedence: " = true) →
        ∀ diagnostic ∈ found, diagnostic.isError = true →
          ¬ diagnostic.message.startsWith "cyclic precedence between adapters: " = true) := by
  refine ⟨fun library types source wanted involved => exists_endsIn_of_resolve, ?_⟩
  intro report
  have yields : Yields (checker.check specification) report := ⟨state, rfl⟩
  obtain ⟨rankingProblems, wiringProblems, overlaps, diagnostics, ofOverlaps, ofRankings,
    ofAssociations⟩ := check_diagnostics yields
  let warnings := (checker.ranked specification).precedence.cycles.map
    (cycleWarning specification.rankings)
  have warned : ∀ diagnostic ∈ rankingProblems ++ warnings ++ wiringProblems,
      diagnostic.isError = true →
      diagnostic.message.startsWith "cyclic precedence between adapters: " = true →
      ∃ involved, checker.IsCyclicError specification involved diagnostic ∧
        ∃ cycle ∈ (checker.ranked specification).precedence.cycles, cycle.EndsIn involved ∧
          cycleWarning specification.rankings cycle ∈
            rankingProblems ++ warnings ++ wiringProblems := by
    intro diagnostic member isError starts
    rcases List.mem_append.1 member with early | inWiring
    · rcases List.mem_append.1 early with inRankings | inWarnings
      · exact absurd starts (ofRankings diagnostic inRankings).not_cyclic
      · -- a warning about a cycle is no error
        obtain ⟨cycle, _, rfl⟩ := List.mem_map.1 inWarnings
        simp [Diagnostic.isError, (cycleWarning_cases _ cycle).1] at isError
    · obtain ⟨association, declared, problems, fails, inProblems⟩ :=
        ofAssociations diagnostic inWiring
      obtain ⟨involved, isCyclic, cycle, listed, ends⟩ :=
        isCyclicError_of_wire declared fails inProblems starts
      refine ⟨involved, isCyclic, cycle, listed, ends, ?_⟩
      exact List.mem_append_left _ (List.mem_append_right _ (List.mem_map.2 ⟨cycle, listed, rfl⟩))
  refine ⟨_, overlaps, diagnostics, ofOverlaps, warned,
    fun none diagnostic member isError starts => ?_⟩
  obtain ⟨_, _, cycle, _, _, isWarned⟩ := warned diagnostic member isError starts
  obtain ⟨severity, message⟩ := cycleWarning_cases specification.rankings cycle
  refine none (cycleWarning specification.rankings cycle) ?_ ?_ ?_
  · rw [diagnostics]
    exact List.mem_append_left _ (List.mem_append_right _ isWarned)
  · simp [Diagnostic.isWarning, severity]
  · rw [message]
    exact startsWith_self ..

/-- Two adapters for the same types, and a third one for others. -/
def tangled : Library :=
  .ofList [⟨"A", .singleton "B", [.singleton "T"]⟩, ⟨"M", .singleton "C", [.singleton "T"]⟩,
    ⟨"Z", .singleton "B", [.singleton "T"]⟩]

/-- Their classes, the types that they adapt and one with a field. -/
def tangledModel : ClassModel Id where
  hasClass name := pure (["Main", "T", "B", "C", "A", "M", "Z"].contains name)
  field? _ member := pure (if member = "t" then some ⟨"T", false⟩ else none)
  method? _ _ := pure none

/-- The supertypes of the types that they adapt. -/
def tangledTypes : Oracle := .ofTable (.ofList [("B", ∅), ("C", ∅), ("T", ∅)])

/-- An association that two of the adapters can wire. -/
def wanting : Association :=
  ⟨.field ⟨"Main", "t", 5⟩, .fresh ⟨"B", 5⟩, none, ⟨"main.gluer", 5⟩⟩

/-- Rankings that prefer these two to each other and put the third between them. -/
def knotted : Specification :=
  ⟨[.ranking ⟨⟨"M", 1⟩, ⟨"A", 1⟩, ⟨"main.gluer", 1⟩⟩,
    .ranking ⟨⟨"Z", 2⟩, ⟨"A", 2⟩, ⟨"main.gluer", 2⟩⟩,
    .ranking ⟨⟨"Z", 3⟩, ⟨"M", 3⟩, ⟨"main.gluer", 3⟩⟩,
    .ranking ⟨⟨"A", 4⟩, ⟨"Z", 4⟩, ⟨"main.gluer", 4⟩⟩, .association wanting], []⟩

/-- A ranking that does not count. -/
def loose : Specification := ⟨[.ranking ⟨⟨"M", 1⟩, ⟨"T", 1⟩, ⟨"main.gluer", 1⟩⟩], []⟩

theorem cyclic_warned_knotted :
    let checker := inSession tangledModel tangledTypes tangled .never
    let involved := NameSet.ofList ["A", "Z"]
    let error := Diagnostic.error "main.gluer" 5
      (WiringProblem.unresolved (.cyclicPrecedence involved) "B" "T").message
    (Yields ((checker.ranked knotted).resolve checker.types "B" "T")
        (.ok (.cyclicPrecedence involved)) ∧
      ∃ cycle ∈ (checker.ranked knotted).precedence.cycles, cycle.EndsIn involved) ∧
    (error ∈ ((checker.check knotted).run .start).1.diagnostics ∧
      ∃ names, checker.IsCyclicError knotted names error) ∧
    ((checker.check loose).run .start).1.diagnostics =
        [.error "main.gluer" 1 "class 'T' is not an adapter"] ∧
    ∀ diagnostic ∈ ((checker.check loose).run .start).1.diagnostics,
      ¬ diagnostic.message.startsWith "cyclic precedence between adapters: " = true := by
  intro checker involved error
  obtain ⟨listed, found, overlaps, diagnostics, ofOverlaps, errors, _⟩ :=
    cyclic_warned checker knotted .start
  obtain ⟨_, found', overlaps', diagnostics', ofOverlaps', _, noErrors⟩ :=
    cyclic_warned checker loose .start
  have none : overlaps = [] := ofOverlaps.of_pure
  have none' : overlaps' = [] := ofOverlaps'.of_pure
  rw [none, List.append_nil] at diagnostics
  rw [none', List.append_nil] at diagnostics'
  have cyclic : Yields ((checker.ranked knotted).resolve checker.types "B" "T")
      (.ok (.cyclicPrecedence involved)) := by
    refine ⟨.start, ?_⟩
    cbv
  -- the report in the session is that of a check that asks the oracle itself
  have same : ((checker.check knotted).run .start).1 =
      ((overOracle tangledModel tangledTypes tangled .never).check knotted).run :=
    (Session.Answers.check tangled .never knotted .start .start).1
  have fails : ((overOracle tangledModel tangledTypes tangled .never).wire
      (checker.ranked knotted) wanting).run =
        .error [⟨5, .unresolved (.cyclicPrecedence involved) "B" "T"⟩] := by
    cbv
  have isError : error ∈ ((checker.check knotted).run .start).1.diagnostics := by
    rw [same]
    exact mem_diagnostics_of_wire (List.mem_singleton_self _) fails _ (List.mem_singleton_self _)
  have starts : error.message.startsWith "cyclic precedence between adapters: " = true :=
    startsWith_append (startsWith_append (startsWith_append (startsWith_append (startsWith_append
      (startsWith_self _ _) _) _) _) _) _
  have alone : ((checker.check loose).run .start).1.diagnostics =
      [.error "main.gluer" 1 "class 'T' is not an adapter"] := by
    cbv
  refine ⟨⟨cyclic, listed _ _ _ _ _ cyclic⟩, ⟨isError, ?_⟩, alone, ?_⟩
  · rw [diagnostics] at isError
    obtain ⟨names, isCyclic, _⟩ := errors error isError rfl starts
    exact ⟨names, isCyclic⟩
  · intro diagnostic member
    have only := member
    rw [alone, List.mem_singleton] at only
    rw [diagnostics'] at member
    refine noErrors (fun other isOther isWarning => ?_) diagnostic member (by rw [only]; rfl)
    rw [alone, List.mem_singleton] at isOther
    rw [isOther] at isWarning
    cases isWarning

end Checker

end AdapterWiring
