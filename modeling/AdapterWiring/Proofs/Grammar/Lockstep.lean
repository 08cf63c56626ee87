import AdapterWiring.Proofs.Grammar.Readers
import Mathlib.Data.List.Forall2

/-!
# Readers in lockstep

Two readers of rules that give like results on like words do so for everything
that is made of rules: repetitions, sequences and alternatives. What like means
may be chosen: the same words read to another depth, words on other lines, or
the same words with errors of which only the lines are the same.

* **Likeness** — words, trees and errors that count as the same, with what
  reading asks of that.
* **Follows** — where one reader gives a result, the other gives a like one.
* **follows_rule** — a rule, with readers for the rules that it refers to.
* **within** — the rests of given words, each like itself only.
-/

namespace AdapterWiring

/-- An error that a rule may come to. The others are errors of a text as a whole. -/
def SyntaxError.OfRule : SyntaxError → Prop
  | unexpected _ _ => True
  | unexpectedEnd _ => True
  | unknownRule _ => True
  | noAlternative _ => True
  | _ => False

namespace Grammar

/-! ## What counts as the same -/

/-- Words, trees and errors that count as the same. Like words are read word by word, and what is
made of like parts is like. -/
structure Likeness where
  /-- Words. -/
  words : List Token → List Token → Prop
  /-- Trees. -/
  tree : Node → Node → Prop
  /-- Errors. -/
  failure : SyntaxError → SyntaxError → Prop
  words_nil {others : List Token} : words [] others → others = []
  words_cons {token : Token} {rest others : List Token} : words (token :: rest) others →
    ∃ other more, others = other :: more ∧ other.word = token.word ∧ words rest more ∧
      tree (.token token) (.token other) ∧
      ∀ expected, failure (.unexpected token expected) (.unexpected other expected)
  literal : tree .literal .literal
  absent : tree .absent .absent
  choice (rule : String) {node other : Node} : tree node other →
    tree (.choice rule node) (.choice rule other)
  list {nodes others : List Node} : List.Forall₂ tree nodes others →
    tree (.list nodes) (.list others)
  fields {members others : List (String × Node)} :
    List.Forall₂ (fun member other => member.1 = other.1 ∧ tree member.2 other.2) members others →
      tree (.fields members) (.fields others)
  unexpectedEnd (expected : Expected) : failure (.unexpectedEnd expected) (.unexpectedEnd expected)
  unknownRule (name : String) : failure (.unknownRule name) (.unknownRule name)
  noAlternative {failures others : List SyntaxError} : List.Forall₂ failure failures others →
    failure (.noAlternative failures) (.noAlternative others)

namespace Likeness

variable (alike : Likeness)

/-- Trees of the references of a sequence that count as the same. -/
abbrev member (first second : String × Node) : Prop :=
  first.1 = second.1 ∧ alike.tree first.2 second.2

/-- Results that count as the same. -/
inductive Outcomes {α : Type} (result : α → α → Prop) : Outcome α → Outcome α → Prop
  | ok {value other : α} {rest more : List Token} : result value other → alike.words rest more →
    Outcomes result (.ok (value, rest)) (.ok (other, more))
  | error {failure other : SyntaxError} : alike.failure failure other →
    Outcomes result (.error failure) (.error other)

/-- Where the first comes to a result, the second comes to a like one. -/
def Follows {α : Type} (result : α → α → Prop) (first second : Option (Outcome α)) : Prop :=
  ∀ outcome, first = some outcome → ∃ other, second = some other ∧
    alike.Outcomes result outcome other

/-- The second reader follows the first on like words. -/
def Readers (first second : List Token → Option (Outcome Node)) : Prop :=
  ∀ tokens others, alike.words tokens others →
    alike.Follows alike.tree (first tokens) (second others)

variable {alike}

theorem length_eq {tokens others : List Token} (like : alike.words tokens others) :
    tokens.length = others.length := by
  induction tokens generalizing others with
  | nil => rw [alike.words_nil like]
  | cons token rest ih =>
    obtain ⟨other, more, rfl, _, likeRest, _⟩ := alike.words_cons like
    rw [List.length_cons, List.length_cons, ih likeRest]

section Results

variable {α : Type} {result : α → α → Prop} {first second : Option (Outcome α)}

theorem Follows.ok (follows : alike.Follows result first second) {value : α} {rest : List Token}
    (found : first = some (.ok (value, rest))) :
    ∃ other more, second = some (.ok (other, more)) ∧ result value other ∧
      alike.words rest more := by
  obtain ⟨_, same, ok⟩ := follows _ found
  cases ok with
  | ok likeValue likeRest => exact ⟨_, _, same, likeValue, likeRest⟩

theorem Follows.error (follows : alike.Follows result first second) {failure : SyntaxError}
    (found : first = some (.error failure)) :
    ∃ other, second = some (.error other) ∧ alike.failure failure other := by
  obtain ⟨_, same, failed⟩ := follows _ found
  cases failed with
  | error likeFailure => exact ⟨_, same, likeFailure⟩

/-- A result that is known follows if a like one is there. -/
theorem follows_some {outcome other : Outcome α} (like : alike.Outcomes result outcome other) :
    alike.Follows result (some outcome) (some other) := by
  intro _ found
  cases found
  exact ⟨other, rfl, like⟩

theorem follows_none : alike.Follows result none second := fun _ found => nomatch found

end Results

/-! ## Words -/

theorem expectWord_like {tokens others : List Token} (like : alike.words tokens others)
    (word : String) :
    (∃ rest more, expectWord word tokens = .ok rest ∧ expectWord word others = .ok more ∧
      alike.words rest more) ∨
    ∃ failure other, expectWord word tokens = .error failure ∧
      expectWord word others = .error other ∧ alike.failure failure other := by
  cases tokens with
  | nil =>
    rw [alike.words_nil like]
    exact .inr ⟨_, _, rfl, rfl, alike.unexpectedEnd _⟩
  | cons token rest =>
    obtain ⟨other, more, rfl, sameWord, likeRest, _, failures⟩ := alike.words_cons like
    simp only [expectWord, sameWord]
    by_cases expected : token.word = word
    · simp only [if_pos expected]
      exact .inl ⟨rest, more, rfl, rfl, likeRest⟩
    · simp only [if_neg expected]
      exact .inr ⟨_, _, rfl, rfl, failures _⟩

theorem outcomes_expectWord {tokens others : List Token} (like : alike.words tokens others)
    (word : String) :
    alike.Outcomes alike.tree ((expectWord word tokens).map fun rest => (.literal, rest))
      ((expectWord word others).map fun rest => (.literal, rest)) := by
  rcases expectWord_like like word with ⟨rest, more, ok, otherOk, likeRest⟩ |
    ⟨failure, other, failed, otherFailed, likeFailure⟩
  · rw [ok, otherOk]
    exact .ok alike.literal likeRest
  · rw [failed, otherFailed]
    exact .error likeFailure

theorem outcomes_parsePattern {tokens others : List Token} (like : alike.words tokens others)
    (name : String) (pattern : Pattern) :
    alike.Outcomes alike.tree (parsePattern name pattern tokens)
      (parsePattern name pattern others) := by
  cases tokens with
  | nil =>
    rw [alike.words_nil like]
    exact .error (alike.unexpectedEnd _)
  | cons token rest =>
    obtain ⟨other, more, rfl, sameWord, likeRest, likeToken, failures⟩ := alike.words_cons like
    simp only [parsePattern, sameWord]
    split
    · exact .ok likeToken likeRest
    · exact .error (failures _)

/-! ## Repetitions -/

section Repetitions

variable {reader other : List Token → Option (Outcome Node)} {tokens others : List Token}

/-- Matches of the first reader come with like matches of the second. -/
theorem exists_runs (readers : alike.Readers reader other) (like : alike.words tokens others)
    {nodes : List Node} {rest : List Token} (runs : Runs reader tokens nodes rest) :
    ∃ otherNodes more, Runs other others otherNodes more ∧
      List.Forall₂ alike.tree nodes otherNodes ∧ alike.words rest more := by
  induction runs generalizing others with
  | stop failed =>
    obtain ⟨_, otherFailed, _⟩ := (readers _ _ like).error failed
    exact ⟨[], others, .stop otherFailed, .nil, like⟩
  | idle ok notShorter =>
    obtain ⟨node, more, otherOk, likeNode, likeRest⟩ := (readers _ _ like).ok ok
    -- like words are of one length, so the second reader stops here too
    rw [length_eq like, length_eq likeRest] at notShorter
    exact ⟨[node], more, .idle otherOk notShorter, .cons likeNode .nil, likeRest⟩
  | more ok shorter _ ih =>
    obtain ⟨node, between, otherOk, likeNode, likeBetween⟩ := (readers _ _ like).ok ok
    rw [length_eq like, length_eq likeBetween] at shorter
    obtain ⟨otherNodes, more, otherRuns, likeNodes, likeRest⟩ := ih likeBetween
    exact ⟨node :: otherNodes, more, .more otherOk shorter otherRuns, .cons likeNode likeNodes,
      likeRest⟩

theorem exists_parseMany (readers : alike.Readers reader other) (like : alike.words tokens others)
    {nodes : List Node} {rest : List Token} (found : parseMany reader tokens = some (nodes, rest)) :
    ∃ otherNodes more, parseMany other others = some (otherNodes, more) ∧
      List.Forall₂ alike.tree nodes otherNodes ∧ alike.words rest more := by
  obtain ⟨otherNodes, more, runs, likeNodes, likeRest⟩ :=
    exists_runs readers like (parseMany_eq_some_iff.1 found)
  exact ⟨otherNodes, more, parseMany_eq_some_iff.2 runs, likeNodes, likeRest⟩

theorem follows_repeat (readers : alike.Readers reader other) (like : alike.words tokens others)
    (times : Repeat) :
    alike.Follows alike.tree (parseRepeat reader times tokens)
      (parseRepeat other times others) := by
  have first := readers _ _ like
  cases times with
  | one => exact first
  | optional =>
    rw [parseRepeat, parseRepeat]
    cases found : reader tokens with
    | none => exact follows_none
    | some outcome =>
      obtain ⟨_, otherFound, likeOutcome⟩ := first outcome found
      rw [otherFound]
      cases likeOutcome with
      | ok likeNode likeRest => exact follows_some (.ok likeNode likeRest)
      | error _ => exact follows_some (.ok alike.absent like)
  | zeroOrMore =>
    rw [parseRepeat, parseRepeat]
    cases found : parseMany reader tokens with
    | none => exact follows_none
    | some matched =>
      obtain ⟨nodes, more, otherFound, likeNodes, likeRest⟩ := exists_parseMany readers like found
      rw [otherFound]
      exact follows_some (.ok (alike.list likeNodes) likeRest)
  | oneOrMore =>
    rw [parseRepeat, parseRepeat]
    cases found : reader tokens with
    | none => exact follows_none
    | some outcome =>
      obtain ⟨_, otherFound, likeOutcome⟩ := first outcome found
      rw [otherFound]
      cases likeOutcome with
      | error likeFailure => exact follows_some (.error likeFailure)
      | @ok node otherNode rest more likeNode likeRest =>
        dsimp only
        cases foundMany : parseMany reader rest with
        | none => exact follows_none
        | some matched =>
          obtain ⟨nodes, last, otherMany, likeNodes, likeLast⟩ :=
            exists_parseMany readers likeRest foundMany
          rw [otherMany]
          exact follows_some (.ok (alike.list (.cons likeNode likeNodes)) likeLast)

end Repetitions

/-! ## Sequences and alternatives -/

section Parts

variable {parse other : RuleReader} {tokens others : List Token}

theorem follows_elements (readers : ∀ name, alike.Readers (parse name) (other name))
    (like : alike.words tokens others) (elements : List Element) :
    alike.Follows (List.Forall₂ alike.member) (parseElements parse elements tokens)
      (parseElements other elements others) := by
  induction elements generalizing tokens others with
  | nil => exact follows_some (.ok .nil like)
  | cons element elements ih =>
    cases element with
    | literal word =>
      rw [parseElements, parseElements]
      rcases expectWord_like like word with ⟨rest, more, ok, otherOk, likeRest⟩ |
        ⟨failure, other, failed, otherFailed, likeFailure⟩
      · rw [ok, otherOk]
        exact ih likeRest
      · rw [failed, otherFailed]
        exact follows_some (.error likeFailure)
    | ref rule times =>
      rw [parseElements, parseElements]
      cases found : parseRepeat (parse rule) times tokens with
      | none => exact follows_none
      | some outcome =>
        obtain ⟨_, otherFound, likeOutcome⟩ :=
          follows_repeat (readers rule) like times outcome found
        rw [otherFound]
        cases likeOutcome with
        | error likeFailure => exact follows_some (.error likeFailure)
        | @ok node otherNode rest more likeNode likeRest =>
          dsimp only
          cases foundLater : parseElements parse elements rest with
          | none => exact follows_none
          | some outcome =>
            obtain ⟨_, otherLater, likeLater⟩ := ih likeRest outcome foundLater
            rw [otherLater]
            cases likeLater with
            | error likeFailure => exact follows_some (.error likeFailure)
            | ok likeMembers likeLast =>
              exact follows_some (.ok (.cons ⟨rfl, likeNode⟩ likeMembers) likeLast)

theorem follows_alternatives (readers : ∀ name, alike.Readers (parse name) (other name))
    (like : alike.words tokens others) (alternatives : List String)
    {failures otherFailures : List SyntaxError}
    (likeFailures : List.Forall₂ alike.failure failures otherFailures) :
    alike.Follows alike.tree (parseAlternatives parse failures alternatives tokens)
      (parseAlternatives other otherFailures alternatives others) := by
  induction alternatives generalizing failures otherFailures with
  | nil =>
    exact follows_some (.error (alike.noAlternative (List.forall₂_reverse_iff.2 likeFailures)))
  | cons alternative alternatives ih =>
    rw [parseAlternatives, parseAlternatives]
    cases found : parse alternative tokens with
    | none => exact follows_none
    | some outcome =>
      obtain ⟨_, otherFound, likeOutcome⟩ := readers alternative _ _ like outcome found
      rw [otherFound]
      cases likeOutcome with
      | ok likeNode likeRest => exact follows_some (.ok (alike.choice _ likeNode) likeRest)
      | error likeFailure => exact ih (.cons likeFailure likeFailures)

/-! ## Rules -/

/-- **Lockstep.** Where the rules of a name are the same in two grammars, and the readers for the
rules that it refers to give like results, so does reading it. -/
theorem follows_rule {grammar otherGrammar : Grammar}
    (readers : ∀ name, alike.Readers (parse name) (other name)) {name : String}
    (sameRule : grammar.rule? name = otherGrammar.rule? name)
    (like : alike.words tokens others) :
    alike.Follows alike.tree (parseRuleWith grammar parse name tokens)
      (parseRuleWith otherGrammar other name others) := by
  rw [parseRuleWith, parseRuleWith, ← sameRule]
  cases grammar.rule? name with
  | none => exact follows_some (.error (alike.unknownRule name))
  | some rule =>
    cases rule with
    | literal word => exact follows_some (outcomes_expectWord like word)
    | pattern pattern => exact follows_some (outcomes_parsePattern like name pattern)
    | alternation alternatives => exact follows_alternatives readers like alternatives .nil
    | sequence elements =>
      dsimp only
      cases found : parseElements parse elements tokens with
      | none => exact follows_none
      | some outcome =>
        obtain ⟨_, otherFound, likeOutcome⟩ := follows_elements readers like elements outcome found
        rw [otherFound]
        cases likeOutcome with
        | error likeFailure => exact follows_some (.error likeFailure)
        | ok likeMembers likeRest => exact follows_some (.ok (alike.fields likeMembers) likeRest)

end Parts

/-- A grammar reads like words alike, and no depth beyond one that is enough changes that. -/
theorem readers_parseRule (alike : Likeness) (grammar : Grammar) (depth more : Nat)
    (name : String) :
    alike.Readers (parseRule grammar depth name) (parseRule grammar (depth + more) name) := by
  induction depth generalizing name with
  | zero => exact fun _ _ _ => follows_none
  | succ depth ih =>
    rw [Nat.add_right_comm]
    exact fun _ _ like => follows_rule ih rfl like

/-! ## The rests of given words -/

/-- The rests of given words, each like itself only, with a choice of errors that count as the
same. -/
def within (tokens : List Token) (failure : SyntaxError → SyntaxError → Prop)
    (same : ∀ error : SyntaxError, error.OfRule → failure error error)
    (noAlternative : ∀ failures others, List.Forall₂ failure failures others →
      failure (.noAlternative failures) (.noAlternative others)) : Likeness where
  words rest other := rest = other ∧ rest <:+ tokens
  tree := Eq
  failure := failure
  words_nil like := like.1.symm
  words_cons := by
    rintro token rest _ ⟨rfl, inside⟩
    exact ⟨token, rest, rfl, rfl, ⟨rfl, (List.suffix_cons token rest).trans inside⟩, rfl,
      fun _ => same _ trivial⟩
  literal := rfl
  absent := rfl
  choice _ _ _ := congrArg _
  list like := by rw [List.forall₂_eq_eq_eq] at like; rw [like]
  fields like := by
    have equal := like.imp fun _ _ ⟨sameName, sameTree⟩ => Prod.ext sameName sameTree
    rw [List.forall₂_eq_eq_eq] at equal
    rw [equal]
  unexpectedEnd _ := same _ trivial
  unknownRule _ := same _ trivial
  noAlternative := noAlternative _ _

end Likeness

end Grammar

end AdapterWiring
