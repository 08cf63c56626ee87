import AdapterWiring.Proofs.Declaration.Lines
import AdapterWiring.Proofs.Grammar.Layout
import Mathlib

/-!
# The layout of declarations

Words may be broken into lines anywhere, and separated by any blanks: texts of
the same words are the same declarations, but for the lines in them.

* **Spells.exists_butLines** — the same words on other lines spell the same
  declaration, but for lines.
* **ofTokens_butLines** — so do those of several declarations.
* **layout_irrelevant** — for every grammar, and for texts of declarations.
-/

namespace AdapterWiring

open Text

/-- The same words without their lines. -/
theorem Token.map_eraseLine_congr {tokens others : List Token}
    (same : tokens.map Token.word = others.map Token.word) :
    tokens.map eraseLine = others.map eraseLine := by
  have unplaced := congrArg (List.map fun word => Token.mk word 0) same
  rwa [List.map_map, List.map_map] at unplaced

namespace Declaration

/-- A declaration without lines. -/
def eraseLines : Declaration → Declaration := mapLines fun _ => 0

variable {file : String} {piece other tokens others : List Token} {declaration : Declaration}

/-- The same words on other lines spell the same declaration, but for lines. -/
theorem Spells.exists_butLines (spells : Spells file piece declaration)
    (same : piece.map Token.word = other.map Token.word) :
    ∃ found, Spells file other found ∧ found.eraseLines = declaration.eraseLines := by
  have form : DeclarationForm (other.map Token.word) := same ▸ exists_spells_iff.1 ⟨_, spells⟩
  obtain ⟨found, spellsOther⟩ := exists_spells_iff.2 form
  have unplaced : Spells file (other.map Token.eraseLine) declaration.eraseLines := by
    rw [← Token.map_eraseLine_congr same]
    exact spells.mapLines _
  exact ⟨found, spellsOther, (spellsOther.mapLines _).unique unplaced⟩

/-- The same words on other lines fall into pieces that spell the same declarations, but for
lines. -/
theorem exists_pieces_butLines {pieces : List (List Token)} {declarations : List Declaration}
    (each : List.Forall₂ (Spells file) pieces declarations)
    (same : pieces.flatten.map Token.word = others.map Token.word) :
    ∃ otherPieces found, others = otherPieces.flatten ∧
      List.Forall₂ (Spells file) otherPieces found ∧
      found.map eraseLines = declarations.map eraseLines := by
  induction each generalizing others with
  | nil => exact ⟨[], [], List.map_eq_nil_iff.1 same.symm, .nil, rfl⟩
  | cons spells _ ih =>
    rw [List.flatten_cons, List.map_append] at same
    obtain ⟨front, back, rfl, sameFront, sameBack⟩ := List.map_eq_append_iff.1 same.symm
    obtain ⟨first, spellsFront, sameFirst⟩ := spells.exists_butLines sameFront.symm
    obtain ⟨otherPieces, found, rfl, eachOther, sameRest⟩ := ih sameBack.symm
    exact ⟨front :: otherPieces, first :: found, rfl, .cons spellsFront eachOther,
      by rw [List.map_cons, List.map_cons, sameFirst, sameRest]⟩

/-- The same words on other lines are accepted as the same declarations, but for lines. -/
theorem ofTokens_butLines {declarations : List Declaration}
    (accepts : ofTokens file tokens = .ok declarations)
    (same : tokens.map Token.word = others.map Token.word) :
    ∃ found, ofTokens file others = .ok found ∧
      found.map eraseLines = declarations.map eraseLines := by
  obtain ⟨pieces, rfl, each⟩ := (ofTokens_ok_iff file _).1 accepts
  obtain ⟨otherPieces, found, rfl, eachOther, sameLines⟩ := exists_pieces_butLines each same
  exact ⟨found, (ofTokens_ok_iff file _).2 ⟨otherPieces, rfl, eachOther⟩, sameLines⟩

/-- **Layout.** With any grammar, the same words on other lines are parsed as the same tree or fail
with the same error, but for lines. So two texts of the same words, whatever blanks and line ends
stand between them, are either both accepted, as declarations that differ in their lines only, or
both refused. -/
theorem layout_irrelevant :
    (∀ (grammar : Grammar) (start : String) (tokens others : List Token),
      tokens.map Token.word = others.map Token.word →
        Grammar.SameButLines (grammar.parse start tokens) (grammar.parse start others)) ∧
    ∀ file first second : String, words first = words second →
      (∃ declarations others, ofText file first = .ok declarations ∧
        ofText file second = .ok others ∧
        declarations.map eraseLines = others.map eraseLines) ∨
      ∃ failure other, ofText file first = .error failure ∧ ofText file second = .error other := by
  constructor
  · exact fun grammar start _ _ same => Grammar.parse_butLines grammar same start
  intro file first second same
  rw [← map_word_tokenize, ← map_word_tokenize] at same
  rw [ofText, ofText]
  cases accepts : ofTokens file (Token.tokenize first) with
  | ok declarations =>
    obtain ⟨others, acceptsOther, sameLines⟩ := ofTokens_butLines accepts same
    exact .inl ⟨declarations, others, rfl, acceptsOther, sameLines.symm⟩
  | error failure =>
    cases acceptsOther : ofTokens file (Token.tokenize second) with
    | ok others =>
      obtain ⟨_, acceptsFirst, _⟩ := ofTokens_butLines acceptsOther same.symm
      rw [accepts] at acceptsFirst
      cases acceptsFirst
    | error other => exact .inr ⟨failure, other, rfl, rfl⟩

/-- A declaration on one line. -/
def plainText : String := "declare precedence a.B over C"

/-- The same with other blanks: line ends of two kinds, an empty line, a tab and an em space. -/
def spreadText : String := "\r\ndeclare\tprecedence\n\na.B\u2003over \r\n C\n"

theorem layout_irrelevant_spread :
    words plainText = words spreadText ∧
    (Token.tokenize plainText).map Token.word = (Token.tokenize spreadText).map Token.word ∧
    Grammar.SameButLines (grammar.parse start (Token.tokenize plainText))
      (grammar.parse start (Token.tokenize spreadText)) ∧
    ((∃ declarations others, ofText "f" plainText = .ok declarations ∧
        ofText "f" spreadText = .ok others ∧
        declarations.map eraseLines = others.map eraseLines) ∨
      ∃ failure other, ofText "f" plainText = .error failure ∧
        ofText "f" spreadText = .error other) ∧
    ofText "f" spreadText = .ok [.ranking ⟨⟨"a.B", 4⟩, ⟨"C", 5⟩, ⟨"f", 4⟩⟩] := by
  have sameWords : words plainText = words spreadText := by cbv
  have same :
      (Token.tokenize plainText).map Token.word = (Token.tokenize spreadText).map Token.word := by
    rw [map_word_tokenize, map_word_tokenize, sameWords]
  obtain ⟨parses, accepts⟩ := layout_irrelevant
  exact ⟨sameWords, same, parses _ _ _ _ same, accepts _ _ _ sameWords, by cbv⟩

end Declaration

end AdapterWiring
