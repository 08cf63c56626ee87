import AdapterWiring.Proofs.Grammar.Lockstep
import AdapterWiring.Proofs.Text.Lines

/-!
# Words on other lines

What is read depends on the words only. Their lines go into trees and errors,
but nothing is decided by them, so the same words on other lines give the same
tree or the same error, but for the lines in it.

* **eraseLine, eraseLines** — words, trees and errors without their lines.
* **Likeness.butLines** — what is the same but for lines.
* **parseRule_butLines** — a rule has the same result but for lines, or none, on
  both.
* **SameButLines, parse_butLines** — texts of the same words.
-/

namespace AdapterWiring

/-! ## Without lines -/

namespace Token

/-- A word without its line. -/
def eraseLine : Token → Token := mapLine fun _ => 0

theorem eraseLine_eq_iff {token other : Token} :
    token.eraseLine = other.eraseLine ↔ token.word = other.word := by
  simp [eraseLine, mapLine]

end Token

namespace Node

mutual

/-- A tree without lines. -/
def eraseLines : Node → Node
  | literal => literal
  | token word => token word.eraseLine
  | fields members => fields (eraseMembers members)
  | choice rule value => choice rule value.eraseLines
  | list items => list (eraseItems items)
  | absent => absent

/-- The references of a sequence without lines. -/
def eraseMembers : List (String × Node) → List (String × Node)
  | [] => []
  | (name, node) :: rest => (name, node.eraseLines) :: eraseMembers rest

/-- The matches of a repeated reference without lines. -/
def eraseItems : List Node → List Node
  | [] => []
  | node :: rest => node.eraseLines :: eraseItems rest

end

theorem eraseItems_congr {nodes others : List Node}
    (same : List.Forall₂ (fun node other => node.eraseLines = other.eraseLines) nodes others) :
    eraseItems nodes = eraseItems others := by
  induction same with
  | nil => rfl
  | cons sameFirst _ ih => rw [eraseItems, eraseItems, sameFirst, ih]

theorem eraseMembers_congr {members others : List (String × Node)}
    (same : List.Forall₂ (fun member other => member.1 = other.1 ∧
      member.2.eraseLines = other.2.eraseLines) members others) :
    eraseMembers members = eraseMembers others := by
  induction same with
  | nil => rfl
  | cons sameFirst _ ih => rw [eraseMembers, eraseMembers, sameFirst.1, sameFirst.2, ih]

end Node

namespace SyntaxError

mutual

/-- An error without lines. -/
def eraseLines : SyntaxError → SyntaxError
  | unexpected token expected => unexpected token.eraseLine expected
  | unexpectedEnd expected => unexpectedEnd expected
  | unknownRule name => unknownRule name
  | noAlternative failures => noAlternative (eraseEach failures)
  | trailing _ => trailing 0
  | stopped _ cause => stopped 0 cause.eraseLines
  | malformed part => malformed part
  | endless => endless

/-- Several errors without lines. -/
def eraseEach : List SyntaxError → List SyntaxError
  | [] => []
  | failure :: rest => failure.eraseLines :: eraseEach rest

end

theorem eraseEach_congr {failures others : List SyntaxError}
    (same : List.Forall₂ (fun failure other => failure.eraseLines = other.eraseLines) failures
      others) : eraseEach failures = eraseEach others := by
  induction same with
  | nil => rfl
  | cons sameFirst _ ih => rw [eraseEach, eraseEach, sameFirst, ih]

end SyntaxError

namespace Grammar

/-! ## The same but for lines -/

/-- What is the same but for lines. -/
def Likeness.butLines : Likeness where
  words tokens others := tokens.map Token.word = others.map Token.word
  tree node other := node.eraseLines = other.eraseLines
  failure failure other := failure.eraseLines = other.eraseLines
  words_nil same := List.map_eq_nil_iff.1 same.symm
  words_cons {token rest others} same := by
    obtain ⟨other, more, rfl, sameWord, sameRest⟩ := List.map_eq_cons_iff.1 same.symm
    have sameToken := Token.eraseLine_eq_iff.2 sameWord.symm
    refine ⟨other, more, rfl, sameWord, sameRest.symm, ?_, fun expected => ?_⟩
    · rw [Node.eraseLines, Node.eraseLines, sameToken]
    · rw [SyntaxError.eraseLines, SyntaxError.eraseLines, sameToken]
  literal := rfl
  absent := rfl
  choice rule node other same := by rw [Node.eraseLines, Node.eraseLines, same]
  list same := by rw [Node.eraseLines, Node.eraseLines, Node.eraseItems_congr same]
  fields same := by rw [Node.eraseLines, Node.eraseLines, Node.eraseMembers_congr same]
  unexpectedEnd _ := rfl
  unknownRule _ := rfl
  noAlternative same := by
    rw [SyntaxError.eraseLines, SyntaxError.eraseLines, SyntaxError.eraseEach_congr same]

variable (grammar : Grammar) {tokens others : List Token}

/-- The same words on other lines are read as a rule with the same result, or none, too. -/
theorem parseRule_butLines (same : tokens.map Token.word = others.map Token.word) (depth : Nat)
    (name : String) :
    Option.Rel (Likeness.butLines.Outcomes Likeness.butLines.tree)
      (parseRule grammar depth name tokens) (parseRule grammar depth name others) := by
  have follows : Likeness.butLines.Readers (parseRule grammar depth name)
      (parseRule grammar depth name) := Likeness.butLines.readers_parseRule grammar depth 0 name
  cases found : parseRule grammar depth name tokens with
  | some outcome =>
    obtain ⟨other, foundOther, like⟩ := follows tokens others same outcome found
    rw [foundOther]
    exact .some like
  | none =>
    cases foundOther : parseRule grammar depth name others with
    | none => exact .none
    | some other =>
      obtain ⟨_, foundFirst, _⟩ := follows others tokens same.symm other foundOther
      rw [found] at foundFirst
      cases foundFirst

theorem depthBound_butLines (same : tokens.map Token.word = others.map Token.word) :
    depthBound grammar tokens = depthBound grammar others := by
  have like : Likeness.butLines.words tokens others := same
  rw [depthBound, depthBound, Likeness.length_eq like]

/-! ## Texts -/

theorem stoppedRepetition?_butLines (same : tokens.map Token.word = others.map Token.word)
    (start : String) :
    (stoppedRepetition? grammar start tokens).map SyntaxError.eraseLines =
      (stoppedRepetition? grammar start others).map SyntaxError.eraseLines := by
  unfold stoppedRepetition?
  rw [← depthBound_butLines grammar same]
  split
  next =>
    split
    next rule times _ =>
      split
      · have rel := parseRule_butLines grammar same (depthBound grammar tokens) rule
        generalize parseRule grammar (depthBound grammar tokens) rule tokens = first at rel ⊢
        generalize parseRule grammar (depthBound grammar tokens) rule others = second at rel ⊢
        cases rel with
        | none => rfl
        | some like =>
          cases like with
          | ok _ _ => rfl
          | error sameFailure => exact congrArg some sameFailure
      · rfl
    · rfl
  · rfl

/-- Results that are the same but for lines. -/
inductive SameButLines : Except SyntaxError Node → Except SyntaxError Node → Prop
  | ok {node other : Node} : node.eraseLines = other.eraseLines →
    SameButLines (.ok node) (.ok other)
  | error {failure other : SyntaxError} : failure.eraseLines = other.eraseLines →
    SameButLines (.error failure) (.error other)

/-- The same words on other lines are parsed with the same result, but for lines. -/
theorem parse_butLines (same : tokens.map Token.word = others.map Token.word) (start : String) :
    SameButLines (parse grammar start tokens) (parse grammar start others) := by
  have rel := parseRule_butLines grammar same (depthBound grammar tokens) start
  rw [parse, parse, ← depthBound_butLines grammar same]
  generalize parseRule grammar (depthBound grammar tokens) start tokens = first at rel ⊢
  generalize parseRule grammar (depthBound grammar tokens) start others = second at rel ⊢
  cases rel with
  | none => exact .error rfl
  | some like =>
    cases like with
    | error sameFailure => exact .error sameFailure
    | @ok _ _ rest more sameNode sameRest =>
      cases rest with
      | nil =>
        rw [List.map_eq_nil_iff.1 (Eq.symm sameRest)]
        exact .ok sameNode
      | cons token rest =>
        obtain ⟨other, more, rfl, _⟩ := List.map_eq_cons_iff.1 (Eq.symm sameRest)
        -- both end at their first word left over, for causes that are the same
        have causes := stoppedRepetition?_butLines grammar sameRest start
        dsimp only
        generalize stoppedRepetition? grammar start (token :: rest) = cause at causes ⊢
        generalize stoppedRepetition? grammar start (other :: more) = otherCause at causes ⊢
        cases cause with
        | none =>
          rw [Option.map_eq_none_iff.1 causes.symm]
          exact .error rfl
        | some cause =>
          obtain ⟨found, rfl, sameCause⟩ := Option.map_eq_some_iff.1 causes.symm
          refine .error ?_
          rw [SyntaxError.eraseLines, SyntaxError.eraseLines, sameCause]

end Grammar

end AdapterWiring
