import AdapterWiring.Grammar.Parse
import Mathlib.Tactic.Common

/-!
# What readers read

Each part of a rule by the words it takes where it succeeds, and grammars whose
rules refer to lower ones only, which always come to an end.

* **parse…_ok_iff** — one lemma for each part of a rule and each kind of rule.
* **Runs** — the matches of a repetition; what `parseMany` finds.
* **Ranked** — no rule refers to itself, not even through others.
* **parseRule_isSome** — in such a grammar a depth above the rank of a rule is
  deep enough, whatever the words.
-/

namespace AdapterWiring.Grammar

/-! ## Parts of a rule -/

theorem expectWord_ok_iff {word : String} {tokens rest : List Token} :
    expectWord word tokens = .ok rest ↔ ∃ token, tokens = token :: rest ∧ token.word = word := by
  cases tokens with
  | nil => simp [expectWord]
  | cons token others =>
    rw [expectWord]
    split
    next same => simp [same]
    next different =>
      refine ⟨(fun ok => nomatch ok), ?_⟩
      rintro ⟨_, split, same⟩
      exact absurd ((List.cons.inj split).1 ▸ same) different

theorem parsePattern_ok_iff {name : String} {pattern : Pattern} {tokens rest : List Token}
    {node : Node} : parsePattern name pattern tokens = .ok (node, rest) ↔
      ∃ token, tokens = token :: rest ∧ pattern.accepts token.word = true ∧
        node = .token token := by
  cases tokens with
  | nil => simp [parsePattern]
  | cons token others =>
    rw [parsePattern]
    split
    next accepted =>
      constructor
      · intro ok
        cases ok
        exact ⟨token, rfl, accepted, rfl⟩
      · rintro ⟨_, split, _, rfl⟩
        cases split
        rfl
    next refused =>
      refine ⟨(fun ok => nomatch ok), ?_⟩
      rintro ⟨_, split, accepted, _⟩
      exact absurd ((List.cons.inj split).1 ▸ accepted) refused

section Elements

variable {parse : RuleReader} {elements : List Element} {tokens rest : List Token}
  {members : List (String × Node)}

theorem parseElements_nil_ok_iff :
    parseElements parse [] tokens = some (.ok (members, rest)) ↔ members = [] ∧ rest = tokens := by
  rw [parseElements]
  simp [eq_comm]

theorem parseElements_literal_ok_iff {word : String} :
    parseElements parse (.literal word :: elements) tokens = some (.ok (members, rest)) ↔
      ∃ token more, tokens = token :: more ∧ token.word = word ∧
        parseElements parse elements more = some (.ok (members, rest)) := by
  rw [parseElements]
  cases found : expectWord word tokens with
  | error failure =>
    refine ⟨(fun ok => nomatch ok), ?_⟩
    rintro ⟨token, more, split, same, _⟩
    rw [expectWord_ok_iff.2 ⟨token, split, same⟩] at found
    cases found
  | ok more =>
    obtain ⟨token, rfl, same⟩ := expectWord_ok_iff.1 found
    constructor
    · intro ok
      exact ⟨token, more, rfl, same, ok⟩
    · rintro ⟨_, _, split, _, ok⟩
      cases split
      exact ok

theorem parseElements_ref_ok_iff {rule : String} {times : Repeat} :
    parseElements parse (.ref rule times :: elements) tokens = some (.ok (members, rest)) ↔
      ∃ node more others, parseRepeat (parse rule) times tokens = some (.ok (node, more)) ∧
        parseElements parse elements more = some (.ok (others, rest)) ∧
          members = (rule, node) :: others := by
  rw [parseElements]
  cases found : parseRepeat (parse rule) times tokens with
  | none => simp
  | some outcome =>
    cases outcome with
    | error failure => simp
    | ok parsed =>
      obtain ⟨node, more⟩ := parsed
      cases later : parseElements parse elements more with
      | none => simp [later]
      | some outcome =>
        cases outcome with
        | error failure => simp [later]
        | ok parsed =>
          obtain ⟨others, last⟩ := parsed
          simp only [later, Option.map_some, Option.some.injEq, Except.ok.injEq, Prod.mk.injEq]
          constructor
          · rintro ⟨rfl, rfl⟩
            exact ⟨node, more, others, ⟨rfl, rfl⟩, later, rfl⟩
          · rintro ⟨_, _, _, ⟨rfl, rfl⟩, ok, rfl⟩
            cases later.symm.trans ok
            exact ⟨rfl, rfl⟩

theorem parseRepeat_one {reader : List Token → Option (Outcome Node)} :
    parseRepeat reader .one tokens = reader tokens := rfl

theorem parseRepeat_optional_ok_iff {reader : List Token → Option (Outcome Node)} {node : Node} :
    parseRepeat reader .optional tokens = some (.ok (node, rest)) ↔
      reader tokens = some (.ok (node, rest)) ∨
        (∃ failure, reader tokens = some (.error failure)) ∧ node = .absent ∧ rest = tokens := by
  rw [parseRepeat]
  cases reader tokens with
  | none => simp
  | some outcome =>
    cases outcome with
    | error failure => simp [eq_comm]
    | ok parsed => simp

theorem parseRepeat_zeroOrMore_ok_iff {reader : List Token → Option (Outcome Node)} {node : Node} :
    parseRepeat reader .zeroOrMore tokens = some (.ok (node, rest)) ↔
      ∃ nodes, parseMany reader tokens = some (nodes, rest) ∧ node = .list nodes := by
  rw [parseRepeat]
  cases parseMany reader tokens with
  | none => simp
  | some found =>
    obtain ⟨nodes, last⟩ := found
    constructor
    · intro ok
      cases ok
      exact ⟨nodes, rfl, rfl⟩
    · rintro ⟨_, same, rfl⟩
      cases same
      rfl

theorem parseRepeat_oneOrMore_ok_iff {reader : List Token → Option (Outcome Node)} {node : Node} :
    parseRepeat reader .oneOrMore tokens = some (.ok (node, rest)) ↔
      ∃ first more nodes, reader tokens = some (.ok (first, more)) ∧
        parseMany reader more = some (nodes, rest) ∧ node = .list (first :: nodes) := by
  rw [parseRepeat]
  cases found : reader tokens with
  | none => simp
  | some outcome =>
    cases outcome with
    | error failure => simp
    | ok parsed =>
      obtain ⟨first, more⟩ := parsed
      simp only [Option.map_eq_some_iff]
      constructor
      · rintro ⟨⟨nodes, last⟩, many, same⟩
        cases same
        exact ⟨first, more, nodes, rfl, many, rfl⟩
      · rintro ⟨_, _, nodes, same, many, rfl⟩
        cases same
        exact ⟨(nodes, rest), many, rfl⟩

end Elements

/-- The first alternative that succeeds, those before it having failed. -/
theorem parseAlternatives_ok_iff {parse : RuleReader} {failures : List SyntaxError}
    {alternatives : List String} {tokens rest : List Token} {node : Node} :
    parseAlternatives parse failures alternatives tokens = some (.ok (node, rest)) ↔
      ∃ before chosen after value, alternatives = before ++ chosen :: after ∧
        (∀ other ∈ before, ∃ failure, parse other tokens = some (.error failure)) ∧
        parse chosen tokens = some (.ok (value, rest)) ∧ node = .choice chosen value := by
  induction alternatives generalizing failures with
  | nil => simp [parseAlternatives]
  | cons head others ih =>
    rw [parseAlternatives]
    cases found : parse head tokens with
    | none =>
      refine ⟨(fun ok => nomatch ok), ?_⟩
      rintro ⟨before, chosen, after, value, split, failed, ok, _⟩
      cases before with
      | nil =>
        cases split
        simp [found] at ok
      | cons first before =>
        cases split
        obtain ⟨failure, failed⟩ := failed _ (List.mem_cons_self ..)
        simp [found] at failed
    | some outcome =>
      cases outcome with
      | ok parsed =>
        obtain ⟨value, last⟩ := parsed
        constructor
        · intro ok
          cases ok
          exact ⟨[], head, others, value, rfl, by simp, found, rfl⟩
        · rintro ⟨before, chosen, after, _, split, failed, ok, rfl⟩
          cases before with
          | nil =>
            cases split
            cases found.symm.trans ok
            rfl
          | cons first before =>
            cases split
            obtain ⟨failure, failed⟩ := failed _ (List.mem_cons_self ..)
            cases found.symm.trans failed
      | error failure =>
        dsimp only
        rw [ih]
        constructor
        · rintro ⟨before, chosen, after, value, rfl, failed, ok, rfl⟩
          refine ⟨head :: before, chosen, after, value, rfl, ?_, ok, rfl⟩
          exact List.forall_mem_cons.2 ⟨⟨failure, found⟩, failed⟩
        · rintro ⟨before, chosen, after, value, split, failed, ok, rfl⟩
          -- the head fails, so it is among the alternatives before the one chosen
          cases before with
          | nil =>
            cases split
            cases found.symm.trans ok
          | cons first before =>
            cases split
            exact ⟨before, chosen, after, value, rfl, (List.forall_mem_cons.1 failed).2, ok, rfl⟩

/-- An alternative that succeeds where all others fail is the one that is chosen. -/
theorem parseAlternatives_of_exclusive {parse : RuleReader} {failures : List SyntaxError}
    {alternatives : List String} {chosen : String} {tokens rest : List Token} {value : Node}
    (member : chosen ∈ alternatives) (ok : parse chosen tokens = some (.ok (value, rest)))
    (failed : ∀ other ∈ alternatives, other ≠ chosen →
      ∃ failure, parse other tokens = some (.error failure)) :
    parseAlternatives parse failures alternatives tokens =
      some (.ok (.choice chosen value, rest)) := by
  induction alternatives generalizing failures with
  | nil => cases member
  | cons head others ih =>
    rw [parseAlternatives]
    by_cases isHead : head = chosen
    · rw [isHead, ok]
    · obtain ⟨failure, headFailed⟩ := failed head (List.mem_cons_self ..) isHead
      rw [headFailed]
      have later : chosen ∈ others := (List.mem_cons.1 member).resolve_left (Ne.symm isHead)
      exact ih later fun other isOther => failed other (List.mem_cons_of_mem _ isOther)

/-! ## Repetitions -/

/-- The matches of a repetition, up to one that fails or reads no word. -/
inductive Runs (reader : List Token → Option (Outcome Node)) :
    List Token → List Node → List Token → Prop
  | stop {tokens : List Token} {failure : SyntaxError} :
    reader tokens = some (.error failure) → Runs reader tokens [] tokens
  | idle {tokens rest : List Token} {node : Node} :
    reader tokens = some (.ok (node, rest)) → tokens.length ≤ rest.length →
      Runs reader tokens [node] rest
  | more {tokens rest last : List Token} {node : Node} {nodes : List Node} :
    reader tokens = some (.ok (node, rest)) → rest.length < tokens.length →
      Runs reader rest nodes last → Runs reader tokens (node :: nodes) last

theorem parseMany_eq_some_iff {reader : List Token → Option (Outcome Node)}
    {tokens last : List Token} {nodes : List Node} :
    parseMany reader tokens = some (nodes, last) ↔ Runs reader tokens nodes last := by
  constructor
  · intro found
    fun_induction parseMany reader tokens generalizing nodes last
    case case1 => cases found
    case case2 failed =>
      cases found
      exact .stop failed
    case case3 tokens node rest ok shorter ih =>
      obtain ⟨⟨others, _⟩, later, same⟩ := Option.map_eq_some_iff.1 found
      cases same
      exact .more ok shorter (ih later)
    case case4 tokens node rest ok notShorter =>
      cases found
      exact .idle ok (Nat.le_of_not_lt notShorter)
  · intro runs
    induction runs with
    | stop failed => rw [parseMany, failed]
    | idle ok notShorter =>
      rw [parseMany, ok]
      dsimp only
      rw [if_neg (Nat.not_lt_of_le notShorter)]
    | more ok shorter _ ih =>
      rw [parseMany, ok]
      dsimp only
      rw [if_pos shorter, ih]
      rfl

/-! ## Rules -/

section Rules

variable {grammar : Grammar} {depth : Nat} {name : String} {tokens rest : List Token} {node : Node}

theorem rule?_of_parseRule_ok
    (ok : parseRule grammar (depth + 1) name tokens = some (.ok (node, rest))) :
    ∃ rule, grammar.rule? name = some rule := by
  rw [parseRule, parseRuleWith] at ok
  cases found : grammar.rule? name with
  | none => rw [found] at ok; cases ok
  | some rule => exact ⟨rule, rfl⟩

theorem parseRule_literal_ok_iff {word : String}
    (found : grammar.rule? name = some (.literal word)) :
    parseRule grammar (depth + 1) name tokens = some (.ok (node, rest)) ↔
      ∃ token, tokens = token :: rest ∧ token.word = word ∧ node = .literal := by
  rw [parseRule, parseRuleWith, found]
  dsimp only
  cases expected : expectWord word tokens with
  | error failure =>
    refine iff_of_false (fun ok => nomatch ok) ?_
    rintro ⟨token, split, same, _⟩
    rw [expectWord_ok_iff.2 ⟨token, split, same⟩] at expected
    cases expected
  | ok more =>
    obtain ⟨token, rfl, same⟩ := expectWord_ok_iff.1 expected
    constructor
    · intro ok
      cases ok
      exact ⟨token, rfl, same, rfl⟩
    · rintro ⟨_, split, _, rfl⟩
      cases split
      rfl

theorem parseRule_pattern_ok_iff {pattern : Pattern}
    (found : grammar.rule? name = some (.pattern pattern)) :
    parseRule grammar (depth + 1) name tokens = some (.ok (node, rest)) ↔
      ∃ token, tokens = token :: rest ∧ pattern.accepts token.word = true ∧
        node = .token token := by
  rw [parseRule, parseRuleWith, found]
  simp only [Option.some.injEq, parsePattern_ok_iff]

theorem parseRule_sequence_ok_iff {elements : List Element}
    (found : grammar.rule? name = some (.sequence elements)) :
    parseRule grammar (depth + 1) name tokens = some (.ok (node, rest)) ↔
      ∃ members, parseElements (parseRule grammar depth) elements tokens =
        some (.ok (members, rest)) ∧ node = .fields members := by
  rw [parseRule, parseRuleWith, found]
  dsimp only
  cases parseElements (parseRule grammar depth) elements tokens with
  | none => simp
  | some outcome =>
    cases outcome with
    | error failure => simp
    | ok parsed =>
      obtain ⟨members, last⟩ := parsed
      constructor
      · intro ok
        cases ok
        exact ⟨members, rfl, rfl⟩
      · rintro ⟨_, same, rfl⟩
        cases same
        rfl

theorem parseRule_alternation {alternatives : List String}
    (found : grammar.rule? name = some (.alternation alternatives)) :
    parseRule grammar (depth + 1) name tokens =
      parseAlternatives (parseRule grammar depth) [] alternatives tokens := by
  rw [parseRule, parseRuleWith, found]

/-! ## Depth -/

/-- Every rule refers to rules of a lower rank. -/
def Ranked (grammar : Grammar) (rank : String → Nat) : Prop :=
  ∀ name rule, grammar.rule? name = some rule → ∀ reference ∈ rule.references,
    rank reference < rank name

theorem parseMany_isSome {reader : List Token → Option (Outcome Node)}
    (each : ∀ tokens, (reader tokens).isSome = true) (tokens : List Token) :
    (parseMany reader tokens).isSome = true := by
  fun_induction parseMany reader tokens
  case case1 tokens none =>
    have := each tokens
    simp [none] at this
  case case2 => rfl
  case case3 ih => simpa using ih
  case case4 => rfl

theorem parseRepeat_isSome {reader : List Token → Option (Outcome Node)}
    (each : ∀ tokens, (reader tokens).isSome = true) (times : Repeat) (tokens : List Token) :
    (parseRepeat reader times tokens).isSome = true := by
  cases times with
  | one => exact each tokens
  | optional => simpa [parseRepeat] using each tokens
  | zeroOrMore => simpa [parseRepeat] using parseMany_isSome each tokens
  | oneOrMore =>
    rw [parseRepeat]
    split
    next none =>
      have := each tokens
      simp [none] at this
    next => rfl
    next rest _ => simpa using parseMany_isSome each rest

theorem parseElements_isSome {parse : RuleReader} {elements : List Element}
    (each : ∀ rule ∈ elements.filterMap Element.reference?, ∀ tokens,
      (parse rule tokens).isSome = true) (tokens : List Token) :
    (parseElements parse elements tokens).isSome = true := by
  induction elements generalizing tokens with
  | nil => rfl
  | cons head others ih =>
    cases head with
    | literal word =>
      rw [parseElements]
      split
      · rfl
      · exact ih each _
    | ref rule times =>
      obtain ⟨eachHead, eachOther⟩ := List.forall_mem_cons.1 each
      rw [parseElements]
      split
      next none =>
        have := parseRepeat_isSome eachHead times tokens
        simp [none] at this
      · rfl
      · simpa using ih eachOther _

theorem parseAlternatives_isSome {parse : RuleReader} {alternatives : List String}
    {tokens : List Token} (each : ∀ rule ∈ alternatives, (parse rule tokens).isSome = true)
    (failures : List SyntaxError) :
    (parseAlternatives parse failures alternatives tokens).isSome = true := by
  induction alternatives generalizing failures with
  | nil => rfl
  | cons head others ih =>
    obtain ⟨eachHead, eachOther⟩ := List.forall_mem_cons.1 each
    rw [parseAlternatives]
    split
    next none => simp [none] at eachHead
    · rfl
    · exact ih eachOther _

/-- Where every rule refers to rules of a lower rank, a depth above the rank of a rule is deep
enough to read it or tell why not. -/
theorem parseRule_isSome {rank : String → Nat} (ranked : grammar.Ranked rank)
    (deep : rank name < depth) (tokens : List Token) :
    (parseRule grammar depth name tokens).isSome = true := by
  induction depth generalizing name tokens with
  | zero => omega
  | succ depth ih =>
    rw [parseRule, parseRuleWith]
    split
    · rfl
    · rfl
    · rfl
    next elements found =>
      -- a rule referred to is of a lower rank, so one level less is enough for it
      have each : ∀ rule ∈ elements.filterMap Element.reference?, ∀ tokens,
          (parseRule grammar depth rule tokens).isSome = true := by
        intro rule member tokens
        have lower := ranked name _ found rule member
        exact ih (by omega) tokens
      simpa using parseElements_isSome each tokens
    next alternatives found =>
      refine parseAlternatives_isSome (fun rule member => ?_) []
      have lower := ranked name _ found rule member
      exact ih (by omega) tokens

/-- A rule that a depth is enough for and that does not succeed fails. -/
theorem error_of_not_ok {outcome : Option (Outcome Node)} (isSome : outcome.isSome = true)
    (notOk : ∀ node rest, outcome ≠ some (.ok (node, rest))) :
    ∃ failure, outcome = some (.error failure) := by
  obtain ⟨result, rfl⟩ := Option.isSome_iff_exists.1 isSome
  cases result with
  | error failure => exact ⟨failure, rfl⟩
  | ok parsed => exact absurd rfl (notOk parsed.1 parsed.2)

end Rules

end AdapterWiring.Grammar
