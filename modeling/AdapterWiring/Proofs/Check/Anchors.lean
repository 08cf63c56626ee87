import AdapterWiring.Proofs.Adapter.Rotations
import AdapterWiring.Proofs.Check.Findings
import AdapterWiring.Proofs.Declaration.Lines

/-!
# Where problems are anchored

Every problem that a check adds stands at a declaration: in its file, and on its
line or that of one of its operands. The warning about a cycle is given its
place by a search through all rankings, valid or not. The search finds one,
since the cycle was declared; and whatever it finds is valid, since the members
of a cycle are adapters, and lies on a cycle, since they are connected.

* **Declaration.Anchors** — a problem at a declaration.
* **Unwired.lines, rankingDiagnostics_cases** — the lines that problems stand on.
* **exists_within_of_link** — a link between members of a cycle lies on a cycle.
* **FirstWithin, exists_firstWithin** — the ranking that anchors a cycle.
* **check_anchored** — all of this.
-/

namespace AdapterWiring

/-- A problem stands at a declaration: in its file, on its line or on that of an operand. -/
def Declaration.Anchors (declaration : Declaration) (diagnostic : Diagnostic) : Prop :=
  diagnostic.file = declaration.origin.file ∧ diagnostic.line ∈ declaration.lines

/-- The lines of an association are its own and those of its operands. -/
theorem Declaration.mem_lines_association {association : Association} {line : UInt32} :
    line ∈ (Declaration.association association).lines ↔ line = association.origin.line ∨
      line = association.target.line ∨ line = association.source.line ∨
      ∃ adapter, association.using? = some adapter ∧ line = adapter.line := by
  obtain ⟨target, source, using?, origin⟩ := association
  cases using? with
  | none =>
    simp only [lines, List.mem_append, List.mem_cons, List.not_mem_nil, reduceCtorEq, false_and,
      exists_false, or_false, Option.map_none, Option.toList_none]
    tauto
  | some adapter =>
    simp only [lines, List.mem_append, List.mem_cons, List.not_mem_nil, or_false, Option.map_some,
      Option.toList_some, Option.some.injEq, exists_eq_left']
    tauto

/-! ## Clauses -/

section Clauses

variable {σ : Type} {model : ClassModel (StateM σ)} {problems : List (Located ClauseProblem)}

/-- All problems stand on one line. -/
def OnLine (line : UInt32) (problems : List (Located ClauseProblem)) : Prop :=
  ∀ located ∈ problems, located.line = line

theorem OnLine.nil {line : UInt32} : OnLine line [] := fun _ member => by cases member

theorem OnLine.singleton {line : UInt32} {problem : ClauseProblem} :
    OnLine line [⟨line, problem⟩] := fun _ member => by rw [List.mem_singleton.1 member]

theorem OnLine.append {line : UInt32} {first second : List (Located ClauseProblem)}
    (isFirst : OnLine line first) (isSecond : OnLine line second) :
    OnLine line (first ++ second) :=
  List.forall_mem_append.2 ⟨isFirst, isSecond⟩

theorem ClassOperand.onLine {operand : ClassOperand}
    (yields : Yields (operand.problems model) problems) : OnLine operand.line problems := by
  obtain ⟨isClass, _, yields⟩ := yields.of_bind
  cases isClass with
  | true => rw [yields.of_pure]; exact .nil
  | false => rw [yields.of_pure]; exact .singleton

theorem MemberOperand.onLine_field {operand : MemberOperand} {mustBeStatic : Bool}
    (yields : Yields (operand.fieldProblems model mustBeStatic) problems) :
    OnLine operand.line problems := by
  obtain ⟨isClass, _, yields⟩ := yields.of_bind
  cases isClass with
  | false => rw [yields.of_pure]; exact .singleton
  | true =>
    obtain ⟨field?, _, yields⟩ := yields.of_bind
    cases field? with
    | none => rw [yields.of_pure]; exact .singleton
    | some field =>
      dsimp only at yields
      split at yields
      · rw [yields.of_pure]; exact .singleton
      · rw [yields.of_pure]; exact .nil

theorem MemberOperand.onLine_call {operand : MemberOperand}
    (yields : Yields (operand.callProblems model) problems) : OnLine operand.line problems := by
  obtain ⟨isClass, _, yields⟩ := yields.of_bind
  cases isClass with
  | false => rw [yields.of_pure]; exact .singleton
  | true =>
    obtain ⟨method?, _, yields⟩ := yields.of_bind
    cases method? with
    | none => rw [yields.of_pure]; exact .singleton
    | some method =>
      rw [yields.of_pure]
      refine .append ?_ ?_
      · split
        · exact .nil
        · exact .singleton
      · split
        · exact .nil
        · exact .singleton

theorem Target.onLine {target : Target} (yields : Yields (target.problems model) problems) :
    OnLine target.line problems := by
  cases target with
  | field operand => exact MemberOperand.onLine_field yields

theorem Source.onLine {source : Source} (yields : Yields (source.problems model) problems) :
    OnLine source.line problems := by
  cases source with
  | field operand => exact MemberOperand.onLine_field yields
  | fresh operand => exact ClassOperand.onLine yields
  | call operand => exact MemberOperand.onLine_call yields
  | single operand => exact ClassOperand.onLine yields

end Clauses

namespace Checker

variable {σ : Type} {checker : Checker (StateM σ)}

/-! ## Associations -/

section Associations

variable {library : Library} {association : Association}

theorem Unfit.line {types : Ancestry (StateM σ)} {source wanted : String}
    {located : Located WiringProblem}
    (unfit : Unfit types library association source wanted located) :
    located.line ∈ (Declaration.association association).lines := by
  cases unfit with
  | asked chosen => exact Declaration.mem_lines_association.2 (.inr (.inr (.inr ⟨_, chosen, rfl⟩)))
  | unknown => exact Declaration.mem_lines_association.2 (.inl rfl)
  | unresolved => exact Declaration.mem_lines_association.2 (.inl rfl)

/-- Each problem of an association stands on its line or that of an operand. -/
theorem Unwired.lines {problems : List (Located WiringProblem)}
    (unwired : checker.Unwired library association problems) :
    ∀ located ∈ problems, located.line ∈ (Declaration.association association).lines := by
  have target := Declaration.mem_lines_association.2 (.inr (.inl (Eq.refl association.target.line)))
  have source := Declaration.mem_lines_association.2
    (.inr (.inr (.inl (Eq.refl association.source.line))))
  cases unwired with
  | clauses ofTarget ofSource =>
    refine List.forall_mem_map.2 (List.forall_mem_append.2 ⟨fun located member => ?_,
      fun located member => ?_⟩)
    · rwa [Target.onLine ofTarget located member]
    · rwa [Source.onLine ofSource located member]
  | target => exact List.forall_mem_singleton.2 target
  | source => exact List.forall_mem_singleton.2 source
  | types unfit => exact List.forall_mem_singleton.2 unfit.line

end Associations

/-! ## Rankings -/

/-- A class that is no adapter is an error, on the line of the class. -/
theorem operandDiagnostics_cases {file : String} {operand : ClassOperand}
    {found : List Diagnostic} (yields : Yields (checker.operandDiagnostics file operand) found) :
    ∀ diagnostic ∈ found, ∃ message, diagnostic = .error file operand.line message := by
  unfold operandDiagnostics at yields
  split at yields
  · rw [yields.of_pure]
    simp
  · obtain ⟨isClass, _, yields⟩ := yields.of_bind
    cases isClass with
    | true =>
      rw [yields.of_pure]
      exact List.forall_mem_singleton.2 ⟨_, rfl⟩
    | false =>
      rw [yields.of_pure]
      exact List.forall_mem_singleton.2 ⟨_, rfl⟩

theorem rankingDiagnostics_cases {ranking : Ranking} {found : List Diagnostic}
    (yields : Yields (checker.rankingDiagnostics ranking) found) :
    ∀ diagnostic ∈ found, ∃ operand ∈ [ranking.higher, ranking.lower], ∃ message,
      diagnostic = .error ranking.origin.file operand.line message := by
  obtain ⟨higher, ofHigher, yields⟩ := yields.of_bind
  obtain ⟨lower, ofLower, yields⟩ := yields.of_bind
  rw [yields.of_pure]
  intro diagnostic member
  rcases List.mem_append.1 member with inHigher | inLower
  · exact ⟨ranking.higher, by simp, operandDiagnostics_cases ofHigher diagnostic inHigher⟩
  · exact ⟨ranking.lower, by simp, operandDiagnostics_cases ofLower diagnostic inLower⟩

end Checker

/-! ## Links between members of a cycle -/

namespace Precedence

variable {precedence : Precedence}

/-- The link from the last name to the first is one of a cycle. -/
theorem closing_mem_links {first last : String} {front rest : List String}
    (same : first :: rest = front ++ [last]) : (last, first) ∈ Cycle.links ⟨first :: rest⟩ := by
  have sameLength : front.length = rest.length := by
    simpa using (congrArg List.length same).symm
  show _ ∈ (first :: rest).zip (rest ++ [first])
  rw [same, List.zip_append sameLength]
  simp

/-- A cycle can be entered at any of its names. -/
theorem within_turned {name : String} {before after : List String}
    (within : Cycle.Within ⟨before ++ name :: after⟩ precedence) :
    Cycle.Within ⟨name :: (after ++ before)⟩ precedence := by
  cases before with
  | nil => rwa [List.append_nil]
  | cons first rest =>
    have around : List.IsChain precedence.Link ((first :: rest) ++ name :: (after ++ [first])) := by
      simpa using within_cons_iff.1 within
    rw [List.isChain_split] at around
    have turned : List.IsChain precedence.Link ((name :: after) ++ first :: (rest ++ [name])) :=
      List.isChain_split.2 ⟨around.2, around.1⟩
    rw [within_cons_iff]
    simpa using turned

/-- A link between two members of a cycle lies on a cycle: the way back goes along the first. -/
theorem exists_within_of_link {cycle : Cycle} (within : cycle.Within precedence)
    (nodup : cycle.members.Nodup) {lower higher : String} (link : precedence.Link lower higher)
    (isLower : lower ∈ cycle.members) (isHigher : higher ∈ cycle.members) :
    ∃ other : Cycle, other.Within precedence ∧ other.members.Nodup ∧
      (lower, higher) ∈ other.links := by
  obtain ⟨members⟩ := cycle
  obtain ⟨before, after, rfl⟩ := List.append_of_mem isHigher
  have turned := within_turned within
  have sameNames : (higher :: (after ++ before)).Perm (before ++ higher :: after) :=
    (List.perm_append_comm.cons higher).trans List.perm_middle.symm
  -- from the preferred name on, the cycle is followed up to the other one
  obtain ⟨front, back, split⟩ := List.append_of_mem (sameNames.mem_iff.2 isLower)
  obtain ⟨rest, starts⟩ : ∃ rest, higher :: rest = front ++ [lower] := by
    rcases List.cons_eq_append_iff.1 split with ⟨rfl, same⟩ | ⟨front', rfl, _⟩
    · exact ⟨[], by rw [(List.cons.inj same).1]; rfl⟩
    · exact ⟨front' ++ [lower], rfl⟩
  refine ⟨⟨higher :: rest⟩, ?_, ?_, closing_mem_links starts⟩
  · rw [within_cons_iff, split, List.append_assoc, List.cons_append, List.isChain_split] at turned
    rw [within_cons_iff, starts, List.append_assoc, List.singleton_append, List.isChain_split]
    exact ⟨turned.1, .cons_cons link (.singleton _)⟩
  · have part : (front ++ [lower]).Sublist (higher :: (after ++ before)) := by
      rw [split]
      exact (List.Sublist.refl front).append (by simp)
    show (higher :: rest).Nodup
    rw [starts]
    exact (sameNames.nodup_iff.2 nodup).sublist part

/-- No name is twice on a cycle listed. -/
theorem nodup_of_mem_cycles {cycle : Cycle} (listed : cycle ∈ precedence.cycles) :
    cycle.members.Nodup := by
  obtain ⟨entered, nodup, written⟩ := exists_inOrder precedence
  exact nodup.sublist (written cycle listed)

end Precedence

/-! ## The ranking at a cycle -/

namespace Cycle

/-- A ranking is one of two members of a cycle. -/
def Ranks (cycle : Cycle) (ranking : Ranking) : Prop :=
  ranking.higher.name ∈ cycle.members ∧ ranking.lower.name ∈ cycle.members

/-- The first ranking of two members of a cycle. -/
def FirstWithin (cycle : Cycle) (rankings : List Ranking) (ranking : Ranking) : Prop :=
  cycle.Ranks ranking ∧ ∃ before after, rankings = before ++ ranking :: after ∧
    ∀ earlier ∈ before, ¬ cycle.Ranks earlier

variable {cycle : Cycle} {rankings : List Ranking}

theorem ranks_iff {ranking : Ranking} : (cycle.members.contains ranking.higher.name &&
    cycle.members.contains ranking.lower.name) = true ↔ cycle.Ranks ranking := by
  simp [Ranks]

theorem find?_eq_some_iff {ranking : Ranking} : (rankings.find? fun ranking =>
    cycle.members.contains ranking.higher.name && cycle.members.contains ranking.lower.name) =
      some ranking ↔ cycle.FirstWithin rankings ranking := by
  rw [List.find?_eq_some_iff_append]
  simp only [Bool.not_eq_true', ← Bool.not_eq_true, ranks_iff]
  rfl

/-- There is a first one as soon as there is any. -/
theorem exists_firstWithin {declared : Ranking} (isRanking : declared ∈ rankings)
    (ranks : cycle.Ranks declared) : ∃ ranking, cycle.FirstWithin rankings ranking := by
  have some : (rankings.find? fun ranking => cycle.members.contains ranking.higher.name &&
      cycle.members.contains ranking.lower.name).isSome = true :=
    List.find?_isSome.2 ⟨declared, isRanking, ranks_iff.2 ranks⟩
  obtain ⟨ranking, found⟩ := Option.isSome_iff_exists.1 some
  exact ⟨ranking, find?_eq_some_iff.1 found⟩

end Cycle

namespace Checker

variable {library : Library} {rankings : List Ranking} {cycle : Cycle}

/-- A cycle is warned of at the first ranking of two of its members, if there is one. -/
theorem cycleWarning_eq {ranking : Ranking} (first : cycle.FirstWithin rankings ranking) :
    cycleWarning rankings cycle = .warning ranking.origin.file ranking.origin.line
      ("cyclic precedence: " ++ cycle.render) := by
  unfold cycleWarning
  dsimp only
  rw [Cycle.find?_eq_some_iff.2 first]

/-- Each name of a cycle of the valid rankings is an adapter that some of them prefers another one
of the cycle to. -/
theorem exists_stated_of_mem (within : cycle.Within (precedence library rankings)) {name : String}
    (member : name ∈ cycle.members) :
    library.contains name = true ∧
      ∃ higher ∈ cycle.members, Precedence.Stated rankings name higher := by
  obtain ⟨higher, alsoMember, isLink⟩ := Cycle.exists_link member
  obtain ⟨stated, contained, _⟩ := link_precedence_iff.1 (within.2 _ isLink)
  exact ⟨contained, higher, alsoMember, stated⟩

/-- What the ranking at a cycle is good for: it names adapters, and its link is one of a cycle. -/
structure Grounds (library : Library) (rankings : List Ranking) (ranking : Ranking) : Prop where
  higher : library.contains ranking.higher.name = true
  lower : library.contains ranking.lower.name = true
  cycle : ∃ other : Cycle, other.Within (precedence library rankings) ∧ other.members.Nodup ∧
    (ranking.lower.name, ranking.higher.name) ∈ other.links

/-- Each cycle listed has a ranking it is warned of at, and that ranking counts. -/
theorem exists_grounds (listed : cycle ∈ (precedence library rankings).cycles) :
    ∃ ranking, cycle.FirstWithin rankings ranking ∧ Grounds library rankings ranking := by
  have within := Precedence.within_of_mem_cycles listed
  obtain ⟨name, member⟩ := List.exists_mem_of_ne_nil _ within.1
  obtain ⟨_, _, alsoMember, declared, isRanking, rfl, rfl⟩ := exists_stated_of_mem within member
  obtain ⟨ranking, first⟩ := Cycle.exists_firstWithin isRanking ⟨alsoMember, member⟩
  obtain ⟨⟨isHigher, isLower⟩, before, after, split, _⟩ := id first
  obtain ⟨higherContained, _⟩ := exists_stated_of_mem within isHigher
  obtain ⟨lowerContained, _⟩ := exists_stated_of_mem within isLower
  have stated : Precedence.Stated rankings ranking.lower.name ranking.higher.name :=
    ⟨ranking, by simp [split], rfl, rfl⟩
  refine ⟨ranking, first, higherContained, lowerContained, ?_⟩
  exact Precedence.exists_within_of_link within (Precedence.nodup_of_mem_cycles listed)
    (link_precedence_iff.2 ⟨stated, lowerContained, higherContained⟩) isLower isHigher

/-! ## Reports -/

section Reports

variable {σ : Type} {checker : Checker (StateM σ)} {specification : Specification}

/-- A problem stands at some declaration of a specification. -/
def IsAnchored (specification : Specification) (diagnostic : Diagnostic) : Prop :=
  ∃ declaration ∈ specification.declarations, declaration.Anchors diagnostic

/-- A problem in the file of an association, on one of its lines. -/
theorem isAnchored_association {association : Association} {diagnostic : Diagnostic}
    (declared : association ∈ specification.associations)
    (file : diagnostic.file = association.origin.file)
    (line : diagnostic.line ∈ (Declaration.association association).lines) :
    IsAnchored specification diagnostic := by
  obtain ⟨declaration, member, found⟩ := List.mem_filterMap.1 declared
  cases declaration with
  | association other =>
    cases found
    exact ⟨_, member, file, line⟩
  | ranking other => cases found

/-- A problem in the file of a ranking, on one of its lines. -/
theorem isAnchored_ranking {ranking : Ranking} {diagnostic : Diagnostic}
    (declared : ranking ∈ specification.rankings)
    (file : diagnostic.file = ranking.origin.file)
    (line : diagnostic.line ∈ (Declaration.ranking ranking).lines) :
    IsAnchored specification diagnostic := by
  obtain ⟨declaration, member, found⟩ := List.mem_filterMap.1 declared
  cases declaration with
  | association other => cases found
  | ranking other =>
    cases found
    exact ⟨_, member, file, line⟩

theorem isAnchored_of_ranking {ranking : Ranking} {problems : List Diagnostic}
    (declared : ranking ∈ specification.rankings)
    (yields : Yields (checker.rankingDiagnostics ranking) problems) :
    ∀ diagnostic ∈ problems, IsAnchored specification diagnostic := by
  intro diagnostic member
  obtain ⟨operand, isOperand, message, rfl⟩ := rankingDiagnostics_cases yields diagnostic member
  refine isAnchored_ranking declared rfl ?_
  rcases List.mem_pair.1 isOperand with rfl | rfl
  · simp [Diagnostic.error, Declaration.lines]
  · simp [Diagnostic.error, Declaration.lines]

theorem isError_of_ranking {ranking : Ranking} {problems : List Diagnostic}
    (yields : Yields (checker.rankingDiagnostics ranking) problems) :
    ∀ diagnostic ∈ problems, diagnostic.isError = true := by
  intro diagnostic member
  obtain ⟨_, _, _, rfl⟩ := rankingDiagnostics_cases yields diagnostic member
  rfl

theorem isAnchored_of_wire {library : Library} {association : Association}
    {problems : List (Located WiringProblem)} (declared : association ∈ specification.associations)
    (yields : Yields (checker.wire library association) (.error problems)) :
    ∀ diagnostic ∈ wiringDiagnostics association problems,
      IsAnchored specification diagnostic :=
  List.forall_mem_map.2 fun located member =>
    isAnchored_association declared rfl ((wire_error yields).lines located member)

theorem isError_of_mem_wiringDiagnostics {association : Association}
    {problems : List (Located WiringProblem)} :
    ∀ diagnostic ∈ wiringDiagnostics association problems, diagnostic.isError = true :=
  List.forall_mem_map.2 fun _ _ => rfl

/-- Every overlap is an error of an association. -/
theorem overlapDiagnostics_cases {overlap : Overlap (StateM σ)} {associations : List Association}
    {overlaps : List Diagnostic}
    (yields : Yields (overlapDiagnostics overlap associations) overlaps) :
    ∀ diagnostic ∈ overlaps, ∃ association ∈ associations, ∃ message,
      diagnostic = .error association.origin.file association.origin.line message := by
  rw [overlapDiagnostics_eq_pairs] at yields
  obtain ⟨answers, answered, yields⟩ := yields.of_bind
  rw [yields.of_pure]
  intro diagnostic member
  obtain ⟨answer, isAnswer, found⟩ := List.mem_filterMap.1 member
  obtain ⟨pair, isPair, asked⟩ := answered.of_mapM answer isAnswer
  obtain ⟨_, _, yields⟩ := asked.of_bind
  rw [yields.of_pure] at found
  obtain ⟨message, _, rfl⟩ := Option.map_eq_some_iff.1 found
  exact ⟨pair.2, (mem_of_mem_pairs isPair).2, message, rfl⟩

theorem isAnchored_of_overlap {overlap : Overlap (StateM σ)} {overlaps : List Diagnostic}
    (yields : Yields (overlapDiagnostics overlap specification.associations) overlaps) :
    ∀ diagnostic ∈ overlaps, IsAnchored specification diagnostic := by
  intro diagnostic member
  obtain ⟨association, declared, message, rfl⟩ := overlapDiagnostics_cases yields diagnostic member
  exact isAnchored_association declared rfl (Declaration.mem_lines_association.2 (.inl rfl))

theorem isError_of_overlap {overlap : Overlap (StateM σ)} {overlaps : List Diagnostic}
    (yields : Yields (overlapDiagnostics overlap specification.associations) overlaps) :
    ∀ diagnostic ∈ overlaps, diagnostic.isError = true := by
  intro diagnostic member
  obtain ⟨_, _, _, rfl⟩ := overlapDiagnostics_cases yields diagnostic member
  rfl

theorem isAnchored_of_cycle {library : Library} {cycle : Cycle}
    (listed : cycle ∈ (precedence library specification.rankings).cycles) :
    IsAnchored specification (cycleWarning specification.rankings cycle) := by
  obtain ⟨ranking, first, _⟩ := exists_grounds listed
  rw [cycleWarning_eq first]
  obtain ⟨_, before, after, split, _⟩ := first
  have declared : ranking ∈ specification.rankings := by simp [split]
  refine isAnchored_ranking declared rfl ?_
  simp [Diagnostic.warning, Declaration.lines]

end Reports

/-- **Every problem is anchored.** Whatever a check adds to the problems of the files, in whatever
state it runs, stands at a declaration: in its file, on its line or on that of one of its operands.
The warnings among it are those about the cycles. Each of these stands at the first ranking of two
members of the cycle; there is one, it names two adapters, and its link lies on a cycle. -/
theorem check_anchored {σ : Type} (checker : Checker (StateM σ)) (specification : Specification)
    (state : σ) :
    let report := ((checker.check specification).run state).1
    let cycles := (precedence checker.library specification.rankings).cycles
    ∃ added, report.diagnostics = specification.diagnostics ++ added ∧
      (∀ diagnostic ∈ added, ∃ declaration ∈ specification.declarations,
        declaration.Anchors diagnostic) ∧
      added.filter Diagnostic.isWarning = cycles.map (cycleWarning specification.rankings) ∧
      ∀ cycle ∈ cycles, ∃ ranking, cycle.FirstWithin specification.rankings ranking ∧
        cycleWarning specification.rankings cycle =
          .warning ranking.origin.file ranking.origin.line
            ("cyclic precedence: " ++ cycle.render) ∧
        Grounds checker.library specification.rankings ranking := by
  intro report cycles
  have yields : Yields (checker.check specification) report := ⟨state, rfl⟩
  obtain ⟨rankingProblems, wiringProblems, overlaps, diagnostics, ofOverlaps, ofRankings,
    ofAssociations⟩ := check_stages yields
  let warnings := cycles.map (cycleWarning specification.rankings)
  refine ⟨rankingProblems ++ warnings ++ wiringProblems ++ overlaps, ?_, ?_, ?_, ?_⟩
  · rw [diagnostics, List.append_assoc]
    rfl
  · simp only [List.forall_mem_append]
    refine ⟨⟨⟨fun diagnostic member => ?_, List.forall_mem_map.2 fun cycle => isAnchored_of_cycle⟩,
      fun diagnostic member => ?_⟩, isAnchored_of_overlap ofOverlaps⟩
    · obtain ⟨ranking, declared, problems, yields, inProblems⟩ := ofRankings diagnostic member
      exact isAnchored_of_ranking declared yields diagnostic inProblems
    · obtain ⟨association, declared, problems, yields, inProblems⟩ :=
        ofAssociations diagnostic member
      exact isAnchored_of_wire declared yields diagnostic inProblems
  · have ofRanking : ∀ diagnostic ∈ rankingProblems, diagnostic.isError = true := by
      intro diagnostic member
      obtain ⟨ranking, _, problems, yields, inProblems⟩ := ofRankings diagnostic member
      exact isError_of_ranking yields diagnostic inProblems
    have ofWiring : ∀ diagnostic ∈ wiringProblems, diagnostic.isError = true := by
      intro diagnostic member
      obtain ⟨association, _, problems, _, inProblems⟩ := ofAssociations diagnostic member
      exact isError_of_mem_wiringDiagnostics diagnostic inProblems
    simp only [List.filter_append, filter_isWarning_eq_nil ofRanking,
      filter_isWarning_eq_nil ofWiring, filter_isWarning_cycles, warnings,
      filter_isWarning_eq_nil (isError_of_overlap ofOverlaps), List.append_nil, List.nil_append]
  · intro cycle listed
    obtain ⟨ranking, first, grounds⟩ := exists_grounds listed
    exact ⟨ranking, first, cycleWarning_eq first, grounds⟩

/-- Rankings over several lines; the first one names a class that is no adapter, and the second one
cuts across the cycle that the others make. -/
def scattered : Specification :=
  ⟨[.ranking ⟨⟨"A", 1⟩, ⟨"T", 2⟩, ⟨"first.gluer", 1⟩⟩,
    .ranking ⟨⟨"Z", 3⟩, ⟨"A", 3⟩, ⟨"first.gluer", 3⟩⟩,
    .ranking ⟨⟨"M", 1⟩, ⟨"A", 1⟩, ⟨"second.gluer", 1⟩⟩,
    .ranking ⟨⟨"Z", 2⟩, ⟨"M", 2⟩, ⟨"second.gluer", 2⟩⟩,
    .ranking ⟨⟨"A", 3⟩, ⟨"Z", 4⟩, ⟨"second.gluer", 3⟩⟩], []⟩

theorem check_anchored_scattered :
    let report := (((inSession tangledModel tangledTypes tangled .never).check scattered).run
      .start).1
    let cycle : Cycle := ⟨["A", "M", "Z"]⟩
    report.diagnostics = [.error "first.gluer" 2 "class 'T' is not an adapter",
      .warning "first.gluer" 3 "cyclic precedence: A → M → Z → A"] ∧
    (∀ diagnostic ∈ report.diagnostics, ∃ declaration ∈ scattered.declarations,
      declaration.Anchors diagnostic) ∧
    ∃ ranking, cycle.FirstWithin scattered.rankings ranking ∧
      Grounds tangled scattered.rankings ranking := by
  intro report cycle
  obtain ⟨added, diagnostics, anchored, _, cycles⟩ :=
    check_anchored (inSession tangledModel tangledTypes tangled .never) scattered .start
  have listed : (precedence tangled scattered.rankings).cycles = [⟨["A", "M", "Z"]⟩] := by cbv
  have found : report.diagnostics = [.error "first.gluer" 2 "class 'T' is not an adapter",
      .warning "first.gluer" 3 "cyclic precedence: A → M → Z → A"] := by
    cbv
  obtain ⟨ranking, first, _, grounds⟩ := cycles cycle (by
    show cycle ∈ (precedence tangled scattered.rankings).cycles
    rw [listed]
    exact List.mem_singleton_self _)
  refine ⟨found, fun diagnostic member => anchored diagnostic ?_, ranking, first, grounds⟩
  rwa [show report.diagnostics = added from diagnostics] at member

end Checker

end AdapterWiring
