import AdapterWiring.Proofs.Grammar.Calls

/-!
# The order of alternatives

Alternatives are tried in order, but where at most one of them can be read the
order makes no difference: the same one is found, and if there is none, all of
them fail, and the first line among their errors is the same in every order.

* **Reordered** — grammars that differ in the order of alternatives only, as a
  grammar and the **reversed** one do.
* **ExclusiveOn** — at most one alternative is read, on any rest of the words.
* **exclusiveOn_of_firstWord** — so it is if they start with different words.
* **readers_reordered** — rules are read alike in both.
* **Agrees, agrees_of_reordered** — texts are read as the same tree, or fail on
  the same line.
-/

namespace AdapterWiring

/-! ## Maps -/

theorem SortedEntries.find?_map {α β : Type} (change : α → β) (name : String)
    (entries : List (String × α)) :
    find? name (entries.map fun entry => (entry.1, change entry.2)) =
      (find? name entries).map change := by
  induction entries with
  | nil => rfl
  | cons head rest ih =>
    rw [List.map_cons, find?, find?, apply_ite (Option.map change), ih]
    rfl

theorem NameMap.get?_map {α β : Type} (map : NameMap α) (change : α → β) (name : String) :
    (map.map change).get? name = (map.get? name).map change :=
  SortedEntries.find?_map change name map.entries

/-! ## The line of several errors -/

theorem earlierLine?_left_comm (first second third : Option UInt32) :
    earlierLine? first (earlierLine? second third) =
      earlierLine? second (earlierLine? first third) := by
  cases first <;> cases second <;> cases third <;> simp only [earlierLine?]
  all_goals grind

instance : LeftCommutative earlierLine? := ⟨earlierLine?_left_comm⟩

theorem SyntaxError.firstLine?_eq (failures : List SyntaxError) :
    firstLine? failures = (failures.map line?).foldr earlierLine? none := by
  induction failures with
  | nil => rfl
  | cons failure rest ih => rw [firstLine?, ih, List.map_cons, List.foldr_cons]

namespace Grammar

/-- The rests of given words, each like itself only, with errors that are like if they are on the
same line. -/
def Likeness.onLines (tokens : List Token) : Likeness :=
  .within tokens (fun failure other => failure.line? = other.line?) (fun _ _ => rfl) <| by
    intro _ _ same
    have lines := List.forall₂_map_left_iff.2 (List.forall₂_map_right_iff.2 same)
    rw [List.forall₂_eq_eq_eq] at lines
    rw [SyntaxError.line?, SyntaxError.line?, SyntaxError.firstLine?_eq,
      SyntaxError.firstLine?_eq, lines]

/-! ## Grammars -/

/-- Rules that differ in the order of alternatives only. -/
inductive Permuted : Rule → Rule → Prop
  | same (rule : Rule) : Permuted rule rule
  | alternation {alternatives others : List String} : alternatives.Perm others →
    Permuted (.alternation alternatives) (.alternation others)

/-- Grammars that differ in the order of alternatives only. -/
def Reordered (grammar other : Grammar) : Prop :=
  ∀ name, Option.Rel Permuted (grammar.rule? name) (other.rule? name)

theorem Permuted.references {rule other : Rule} (permuted : Permuted rule other) :
    rule.references.Perm other.references := by
  cases permuted with
  | same => exact .refl _
  | alternation permuted => exact permuted

/-- Ranks do not depend on the order of alternatives. -/
theorem Ranked.of_reordered {grammar other : Grammar} {rank : String → Nat}
    (ranked : grammar.Ranked rank) (reordered : grammar.Reordered other) : other.Ranked rank := by
  intro name rule found reference member
  have rules := reordered name
  rw [found] at rules
  cases foundFirst : grammar.rule? name with
  | none =>
    rw [foundFirst] at rules
    cases rules
  | some first =>
    rw [foundFirst, Option.rel_some_some] at rules
    exact ranked name first foundFirst reference (rules.references.mem_iff.2 member)

/-- A rule with its alternatives in reverse order. -/
def reverseRule : Rule → Rule
  | .alternation alternatives => .alternation alternatives.reverse
  | rule => rule

/-- A grammar with all alternatives in reverse order. -/
def reversed (grammar : Grammar) : Grammar := ⟨grammar.rules.map reverseRule⟩

theorem permuted_reverseRule (rule : Rule) : Permuted rule (reverseRule rule) := by
  cases rule with
  | alternation alternatives => exact .alternation (List.reverse_perm alternatives).symm
  | _ => exact .same _

theorem reordered_reversed (grammar : Grammar) : grammar.Reordered grammar.reversed := by
  intro name
  rw [rule?, rule?, reversed, NameMap.get?_map]
  cases grammar.rules.get? name with
  | none => exact .none
  | some rule => exact .some (permuted_reverseRule rule)

/-- A rule can be read from words. -/
def Succeeds (grammar : Grammar) (name : String) (tokens : List Token) : Prop :=
  ∃ depth node rest, parseRule grammar depth name tokens = some (.ok (node, rest))

/-- On each rest of the words at most one alternative of each alternation can be read. -/
def ExclusiveOn (grammar : Grammar) (tokens : List Token) : Prop :=
  ∀ rest, rest <:+ tokens → ∀ name alternatives,
    grammar.rule? name = some (.alternation alternatives) →
      ∀ first ∈ alternatives, ∀ second ∈ alternatives,
        grammar.Succeeds first rest → grammar.Succeeds second rest → first = second

/-! ## Alternatives that start with different words -/

/-- The word that a sequence starts with. -/
def firstWord? (grammar : Grammar) (name : String) : Option String :=
  match grammar.rule? name with
  | some (.sequence (.literal word :: _)) => some word
  | _ => none

theorem Succeeds.exists_firstWord {grammar : Grammar} {name word : String} {tokens : List Token}
    (succeeds : grammar.Succeeds name tokens) (starts : grammar.firstWord? name = some word) :
    ∃ token rest, tokens = token :: rest ∧ token.word = word := by
  obtain ⟨depth, node, rest, ok⟩ := succeeds
  unfold firstWord? at starts
  split at starts
  next elements found =>
    cases starts
    cases depth with
    | zero => cases ok
    | succ depth =>
      obtain ⟨members, inRow, _⟩ := (parseRule_sequence_ok_iff found).1 ok
      obtain ⟨token, more, split, isFirst, _⟩ := parseElements_literal_ok_iff.1 inRow
      exact ⟨token, more, split, isFirst⟩
  · cases starts

/-- Alternatives that start with different words exclude one another, on all words. -/
theorem exclusiveOn_of_firstWord {grammar : Grammar}
    (apart : ∀ name alternatives, grammar.rule? name = some (.alternation alternatives) →
      ∀ first ∈ alternatives, (grammar.firstWord? first).isSome = true ∧
        ∀ second ∈ alternatives, grammar.firstWord? first = grammar.firstWord? second →
          first = second) (tokens : List Token) : grammar.ExclusiveOn tokens := by
  intro rest _ name alternatives found first isFirst second isSecond succeeds alsoSucceeds
  obtain ⟨starts, different⟩ := apart name alternatives found first isFirst
  obtain ⟨word, atFirst⟩ := Option.isSome_iff_exists.1 starts
  obtain ⟨other, atSecond⟩ :=
    Option.isSome_iff_exists.1 (apart name alternatives found second isSecond).1
  obtain ⟨token, more, rfl, isWord⟩ := succeeds.exists_firstWord atFirst
  obtain ⟨_, _, split, isOther⟩ := alsoSucceeds.exists_firstWord atSecond
  cases split
  exact different second isSecond (by rw [atFirst, atSecond, ← isWord, ← isOther])

/-! ## Alternatives -/

section Alternatives

variable {parse other : RuleReader} {tokens rest : List Token} {alternatives others : List String}

/-- The error that a rule fails with. -/
def errorOf (parse : RuleReader) (tokens : List Token) (name : String) : SyntaxError :=
  match parse name tokens with
  | some (.error failure) => failure
  | _ => .unknownRule name

theorem errorOf_eq {name : String} {failure : SyntaxError}
    (failed : parse name tokens = some (.error failure)) : errorOf parse tokens name = failure := by
  rw [errorOf, failed]

/-- Alternatives fail if each of them does, with the errors of all. -/
theorem parseAlternatives_error_iff {failures : List SyntaxError} {failure : SyntaxError} :
    parseAlternatives parse failures alternatives tokens = some (.error failure) ↔
      (∀ alternative ∈ alternatives, ∃ failed, parse alternative tokens = some (.error failed)) ∧
        failure = .noAlternative (failures.reverse ++ alternatives.map (errorOf parse tokens)) := by
  induction alternatives generalizing failures with
  | nil => simp [parseAlternatives, eq_comm]
  | cons head alternatives ih =>
    rw [parseAlternatives, List.forall_mem_cons]
    cases found : parse head tokens with
    | none => simp
    | some outcome =>
      cases outcome with
      | ok parsed => simp
      | error failed =>
        dsimp only
        rw [ih, List.map_cons, errorOf_eq found]
        simp

/-- **Order.** Where at most one alternative can be read, alternatives in another order are read
alike: as the same tree, or with an error on the same line. -/
theorem follows_permuted (permuted : alternatives.Perm others) (inside : rest <:+ tokens)
    (readers : ∀ name, (Likeness.onLines tokens).Readers (parse name) (other name))
    (total : ∀ name, (other name rest).isSome = true)
    (exclusive : ∀ first ∈ alternatives, ∀ second ∈ alternatives,
      (∃ parsed, other first rest = some (.ok parsed)) →
        (∃ parsed, other second rest = some (.ok parsed)) → first = second) :
    (Likeness.onLines tokens).Follows Eq (parseAlternatives parse [] others rest)
      (parseAlternatives other [] alternatives rest) := by
  have reads name := readers name rest rest ⟨rfl, inside⟩
  rintro (failure | ⟨node, more⟩) found
  · obtain ⟨fails, rfl⟩ := parseAlternatives_error_iff.1 found
    have otherFails : ∀ alternative ∈ alternatives, ∃ failed,
        other alternative rest = some (.error failed) ∧
          (errorOf parse rest alternative).line? = failed.line? := by
      intro alternative member
      obtain ⟨failed, here⟩ := fails alternative (permuted.mem_iff.1 member)
      obtain ⟨otherFailed, there, sameLine⟩ := (reads alternative).error here
      exact ⟨otherFailed, there, (errorOf_eq here).symm ▸ sameLine⟩
    refine ⟨_, parseAlternatives_error_iff.2 ⟨fun alternative member => ?_, rfl⟩, .error ?_⟩
    · obtain ⟨failed, there, _⟩ := otherFails alternative member
      exact ⟨failed, there⟩
    · -- the errors are on the same lines, in another order
      have lines : (alternatives.map (errorOf parse rest)).map SyntaxError.line? =
          (alternatives.map (errorOf other rest)).map SyntaxError.line? := by
        rw [List.map_map, List.map_map]
        refine List.map_congr_left fun alternative member => ?_
        obtain ⟨failed, there, sameLine⟩ := otherFails alternative member
        exact sameLine.trans (congrArg _ (errorOf_eq there).symm)
      have permutedLines := (permuted.map (errorOf parse rest)).map SyntaxError.line?
      rw [lines] at permutedLines
      show SyntaxError.firstLine? _ = SyntaxError.firstLine? _
      rw [SyntaxError.firstLine?_eq, SyntaxError.firstLine?_eq]
      exact (permutedLines.foldr_eq none).symm
  · obtain ⟨_, chosen, _, value, rfl, _, here, rfl⟩ := parseAlternatives_ok_iff.1 found
    obtain ⟨_, _, there, rfl, likeRest⟩ := (reads chosen).ok here
    have member : chosen ∈ alternatives := permuted.mem_iff.2 (by simp)
    refine ⟨_, parseAlternatives_of_exclusive member there fun alternative isOther different => ?_,
      .ok rfl likeRest⟩
    -- another one that could be read would be the one chosen
    refine error_of_not_ok (total alternative) fun node more ok => different ?_
    exact exclusive _ isOther _ member ⟨_, ok⟩ ⟨_, there⟩

end Alternatives

/-! ## Rules -/

variable {grammar other : Grammar} {tokens : List Token}

/-- A depth at which every rule is read on all rests of the words. -/
def Deep (grammar : Grammar) (depth : Nat) (tokens : List Token) : Prop :=
  ∀ name rest, rest <:+ tokens → (parseRule grammar depth name rest).isSome = true

theorem deep_of_returns (returns : ∀ start tokens, grammar.Returns start tokens)
    (tokens : List Token) : grammar.Deep (depthBound grammar tokens) tokens := by
  intro name rest inside
  obtain ⟨outcome, settles⟩ := (returns name rest).settles
  rw [settles _ (depthBound_le inside)]
  rfl

/-- One level more does not change what is read, then. -/
theorem Deep.parseRule_succ {depth : Nat} (deep : grammar.Deep depth tokens) {name : String}
    {rest : List Token} (inside : rest <:+ tokens) :
    parseRule grammar depth name rest = parseRule grammar (depth + 1) name rest := by
  obtain ⟨outcome, found⟩ := Option.isSome_iff_exists.1 (deep name rest inside)
  rw [found, Grammar.parseRule_succ found]

/-- **Simulation.** What the other grammar reads, to whatever depth, the first reads alike. -/
theorem readers_reordered (reordered : grammar.Reordered other) {deep : Nat}
    (isDeep : grammar.Deep deep tokens) (exclusive : grammar.ExclusiveOn tokens) (depth : Nat)
    (name : String) :
    (Likeness.onLines tokens).Readers (parseRule other depth name)
      (parseRule grammar deep name) := by
  induction depth generalizing name with
  | zero => exact fun _ _ _ => Likeness.follows_none
  | succ depth ih =>
    rintro rest _ ⟨rfl, inside⟩
    have rules := reordered name
    rw [isDeep.parseRule_succ inside, parseRule, parseRule]
    cases found : grammar.rule? name with
    | none =>
      rw [found] at rules
      cases foundOther : other.rule? name with
      | none => exact Likeness.follows_rule ih (foundOther.trans found.symm) ⟨rfl, inside⟩
      | some rule =>
        rw [foundOther] at rules
        cases rules
    | some rule =>
      rw [found] at rules
      cases foundOther : other.rule? name with
      | none =>
        rw [foundOther] at rules
        cases rules
      | some otherRule =>
        rw [foundOther, Option.rel_some_some] at rules
        cases rules with
        | same => exact Likeness.follows_rule ih (foundOther.trans found.symm) ⟨rfl, inside⟩
        | alternation permuted =>
          rw [parseRuleWith, parseRuleWith, found, foundOther]
          refine follows_permuted permuted inside ih (fun name => isDeep name rest inside) ?_
          rintro first isFirst second isSecond ⟨_, ok⟩ ⟨_, otherOk⟩
          exact exclusive rest inside name _ found first isFirst second isSecond ⟨_, _, _, ok⟩
            ⟨_, _, _, otherOk⟩

/-! ## Texts -/

/-- Results that are the same tree, or errors on the same line. -/
inductive Agrees : Except SyntaxError Node → Except SyntaxError Node → Prop
  | ok (node : Node) : Agrees (.ok node) (.ok node)
  | error {failure other : SyntaxError} : failure.line? = other.line? →
    Agrees (.error failure) (.error other)

/-- The error at words that are left over is on the line of the first of them. -/
theorem exists_parse_error {start : String} {node : Node} {token : Token} {rest : List Token}
    (found : parseRule grammar (depthBound grammar tokens) start tokens =
      some (.ok (node, token :: rest))) :
    ∃ failure, parse grammar start tokens = .error failure ∧ failure.line? = some token.line := by
  rw [parse, found]
  dsimp only
  cases stoppedRepetition? grammar start (token :: rest) with
  | none => exact ⟨_, rfl, rfl⟩
  | some cause => exact ⟨_, rfl, rfl⟩

theorem agrees_of_reordered (reordered : grammar.Reordered other)
    (returns : ∀ start tokens, grammar.Returns start tokens)
    (otherReturns : ∀ start tokens, other.Returns start tokens)
    (exclusive : grammar.ExclusiveOn tokens) (start : String) :
    Agrees (parse grammar start tokens) (parse other start tokens) := by
  have readers := readers_reordered reordered (deep_of_returns returns tokens) exclusive
    (depthBound other tokens) start
  obtain ⟨otherOutcome, settles⟩ := (otherReturns start tokens).settles
  have otherFound := settles _ (Nat.le_refl _)
  obtain ⟨outcome, found, like⟩ := readers _ _ ⟨rfl, List.suffix_rfl⟩ _ otherFound
  cases like with
  | error sameLine =>
    rw [parse, parse, found, otherFound]
    exact .error sameLine.symm
  | @ok node _ rest _ sameNode likeRest =>
    obtain ⟨rfl, _⟩ := likeRest
    subst sameNode
    cases rest with
    | nil =>
      rw [parse, parse, found, otherFound]
      exact .ok node
    | cons token rest =>
      obtain ⟨failure, failed, line⟩ := exists_parse_error found
      obtain ⟨otherFailure, otherFailed, otherLine⟩ := exists_parse_error otherFound
      rw [failed, otherFailed]
      exact .error (line.trans otherLine.symm)

end Grammar

end AdapterWiring
