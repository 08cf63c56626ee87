import AdapterWiring.Proofs.Declaration.Parsing
import AdapterWiring.Proofs.Grammar.Reordering

/-!
# Alternatives of declarations

Each kind of declaration and each kind of source starts with a word of its own,
so at most one of them can be read anywhere, and their order makes no
difference.

* **exclusiveOn_grammar** — the alternatives of the language exclude one another.
* **parse_reordered** — where they do so in a grammar, their order makes no
  difference to what is parsed.
-/

namespace AdapterWiring

namespace Declaration

open Grammar

/-- The rules that a rule is any one of. -/
def alternatives : Rule → List String
  | .alternation others => others
  | _ => []

/-- The alternatives of the language exclude one another, whatever the words. -/
theorem exclusiveOn_grammar (tokens : List Token) : grammar.ExclusiveOn tokens := by
  have apart : ∀ entry ∈ rules, ∀ first ∈ alternatives entry.2,
      (grammar.firstWord? first).isSome = true ∧ ∀ second ∈ alternatives entry.2,
        grammar.firstWord? first = grammar.firstWord? second → first = second := by
    decide
  refine exclusiveOn_of_firstWord (fun name others found => ?_) tokens
  rw [rule?_eq] at found
  have member := SortedEntries.mem_of_find?_eq_some found
  exact apart (name, .alternation others) (List.mem_reverse.1 member)

end Declaration

namespace Grammar

/-- **Order of alternatives.** Let two grammars on whose rules every text is read to an end differ
only in the order of alternatives, and let at most one alternative be read on any rest of the words
in the first. Then the words are parsed as the same tree with both, or fail on the same line with
both. The language of declarations is such a grammar, whatever the words. -/
theorem parse_reordered :
    (∀ (grammar other : Grammar) (tokens : List Token) (start : String),
      grammar.Reordered other → (∀ start tokens, grammar.Returns start tokens) →
      (∀ start tokens, other.Returns start tokens) → grammar.ExclusiveOn tokens →
        Agrees (parse grammar start tokens) (parse other start tokens)) ∧
    (∀ start tokens, Declaration.grammar.Returns start tokens) ∧
    ∀ tokens, Declaration.grammar.ExclusiveOn tokens :=
  ⟨fun _ _ _ start reordered returns otherReturns exclusive =>
    agrees_of_reordered reordered returns otherReturns exclusive start,
    returns_of_ranked Declaration.ranked_level, Declaration.exclusiveOn_grammar⟩

/-- The words of two declarations. -/
def alternativesText : List Token :=
  [⟨"associate", 1⟩, ⟨"field", 1⟩, ⟨"a.B.c", 1⟩, ⟨"with", 2⟩, ⟨"single", 2⟩, ⟨"D", 2⟩,
    ⟨"declare", 3⟩, ⟨"precedence", 3⟩, ⟨"E", 3⟩, ⟨"over", 3⟩, ⟨"F", 4⟩]

/-- Words that no source starts with, on the second line. -/
def faultyText : List Token := [⟨"the", 2⟩, ⟨"D", 2⟩]

theorem parse_reordered_reversed :
    Declaration.grammar.Reordered Declaration.grammar.reversed ∧
    (∀ start tokens, Declaration.grammar.Returns start tokens) ∧
    (∀ start tokens, Declaration.grammar.reversed.Returns start tokens) ∧
    Declaration.grammar.ExclusiveOn alternativesText ∧
    Declaration.grammar.ExclusiveOn faultyText ∧
    Agrees (parse Declaration.grammar Declaration.start alternativesText)
      (parse Declaration.grammar.reversed Declaration.start alternativesText) ∧
    Agrees (parse Declaration.grammar "what-clause" faultyText)
      (parse Declaration.grammar.reversed "what-clause" faultyText) := by
  have reordered := reordered_reversed Declaration.grammar
  obtain ⟨orderDoesNotMatter, returns, exclusive⟩ := parse_reordered
  have otherReturns :=
    returns_of_ranked (Declaration.ranked_level.of_reordered reordered)
  exact ⟨reordered, returns, otherReturns, exclusive _, exclusive _,
    orderDoesNotMatter _ _ _ _ reordered returns otherReturns (exclusive _),
    orderDoesNotMatter _ _ _ _ reordered returns otherReturns (exclusive _)⟩

end Grammar

end AdapterWiring
