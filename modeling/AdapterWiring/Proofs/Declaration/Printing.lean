import AdapterWiring.Proofs.Declaration.Acceptance
import AdapterWiring.Proofs.Text.Words

/-!
# Printing declarations

The text of a declaration has the words that it is read from, and is read as the
declaration again.

* **Part, parts** — the words of a declaration: keywords, which may stand on any
  line, and operands, which stand on theirs.
* **WellNamed** — the declarations whose operands are names. All that are read
  are such.
* **words_render** — the text of such a declaration has the words of its parts.
* **ReadFrom** — the words that a declaration was read from.
* **unplaced** — a declaration without its file and lines.
* **ofText_render_inverse** — reading and printing undo each other.
-/

namespace AdapterWiring

open Declaration Text

/-! ## Parts -/

/-- A word of a declaration. -/
inductive Part where
  /-- A word of the language. -/
  | keyword (word : String)
  /-- A name, with its line. -/
  | operand (token : Token)

namespace Part

/-- The word of a part. -/
def word : Part → String
  | keyword word => word
  | operand token => token.word

/-- Whether a part was read from a word. A keyword has no line of its own. -/
def IsAt : Part → Token → Prop
  | keyword word, found => found.word = word
  | operand token, found => found = token

theorem IsAt.word {part : Part} {token : Token} (isAt : part.IsAt token) :
    part.word = token.word := by
  cases part with
  | keyword _ => exact isAt.symm
  | operand _ => exact congrArg Token.word isAt.symm

theorem map_word {parts : List Part} {tokens : List Token}
    (each : List.Forall₂ IsAt parts tokens) : parts.map word = tokens.map Token.word := by
  induction each with
  | nil => rfl
  | cons isAt _ ih => rw [List.map_cons, List.map_cons, isAt.word, ih]

/-- A keyword and what comes after it. -/
theorem isAt_cons {word : String} {token : Token} {parts : List Part} {tokens : List Token}
    (isKeyword : token.word = word) (each : List.Forall₂ IsAt parts tokens) :
    List.Forall₂ IsAt (keyword word :: parts) (token :: tokens) :=
  .cons isKeyword each

end Part

/-- The part that names a class. -/
def ClassOperand.part (operand : ClassOperand) : Part := .operand ⟨operand.name, operand.line⟩

/-- The part that names a member. -/
def MemberOperand.part (operand : MemberOperand) : Part := .operand ⟨operand.render, operand.line⟩

/-- The part that calls a method. -/
def MemberOperand.callPart (operand : MemberOperand) : Part :=
  .operand ⟨operand.render ++ "()", operand.line⟩

/-- The parts of a target. -/
def Target.parts : Target → List Part
  | .field operand => [.keyword "field", operand.part]

/-- The parts of a source. -/
def Source.parts : Source → List Part
  | .field operand => [.keyword "field", operand.part]
  | .fresh operand => [.keyword "new", operand.part]
  | .call operand => [.keyword "call", operand.callPart]
  | .single operand => [.keyword "single", operand.part]

/-- The parts that ask for an adapter. -/
def Declaration.adapterParts : Option ClassOperand → List Part
  | none => []
  | some adapter => [.keyword "using", adapter.part]

/-- The parts of a declaration. -/
def Declaration.parts : Declaration → List Part
  | .association ⟨target, source, using?, _⟩ =>
    .keyword "associate" :: target.parts ++ .keyword "with" :: source.parts ++ adapterParts using?
  | .ranking ⟨higher, lower, _⟩ =>
    [.keyword "declare", .keyword "precedence", higher.part, .keyword "over", lower.part]

/-- The line of the first operand of a declaration. -/
def Declaration.firstLine : Declaration → UInt32
  | .association declared => declared.target.line
  | .ranking declared => declared.higher.line

/-! ## Names -/

/-- The operand is the name of a class, and that of a member. -/
def MemberOperand.WellNamed (operand : MemberOperand) : Prop :=
  IsClassName operand.owner ∧ IsIdentifier operand.member.toList

/-- The operand of a target is a name. -/
def Target.WellNamed : Target → Prop
  | .field operand => operand.WellNamed

/-- The operand of a source is a name. -/
def Source.WellNamed : Source → Prop
  | .field operand => operand.WellNamed
  | .fresh operand => IsClassName operand.name
  | .call operand => operand.WellNamed
  | .single operand => IsClassName operand.name

/-- All operands of a declaration are names. -/
def Declaration.WellNamed : Declaration → Prop
  | .association ⟨target, source, using?, _⟩ =>
    target.WellNamed ∧ source.WellNamed ∧ ∀ adapter ∈ using?, IsClassName adapter.name
  | .ranking ⟨higher, lower, _⟩ => IsClassName higher.name ∧ IsClassName lower.name

theorem MemberOperand.WellNamed.names {operand : MemberOperand} (wellNamed : operand.WellNamed)
    {name : String} (spelled : name = operand.render) (line : UInt32) :
    NamesMember name line ⟨operand.owner, operand.member, line⟩ where
  isName := by
    rw [spelled, IsMemberName, toList_render]
    exact isQualified_dotted wellNamed.1 wellNamed.2
  render := spelled.symm
  undotted := dot_not_mem_of_isIdentifier wellNamed.2
  line := rfl

theorem Declaration.NamesMember.wellNamed {name : String} {line : UInt32} {operand : MemberOperand}
    (names : NamesMember name line operand) : operand.WellNamed := by
  obtain ⟨other, found, wellNamed⟩ := exists_split?_of_isQualified names.isName line
  cases names.split?.symm.trans found
  exact wellNamed

theorem Declaration.SpellsSource.wellNamed {piece : List Token} {source : Source}
    (spells : SpellsSource piece source) : source.WellNamed := by
  cases spells with
  | field _ names => exact names.wellNamed
  | fresh _ names => obtain ⟨isName, rfl⟩ := names; exact isName
  | call _ _ names => exact names.wellNamed
  | single _ names => obtain ⟨isName, rfl⟩ := names; exact isName

/-- Declarations that are read have names as operands. -/
theorem Declaration.Spells.wellNamed {file : String} {piece : List Token}
    {declaration : Declaration} (spells : Spells file piece declaration) :
    declaration.WellNamed := by
  have ofTarget {words : List Token} {target : Target} (spells : SpellsTarget words target) :
      target.WellNamed := by
    cases spells with
    | field _ names => exact names.wellNamed
  cases spells with
  | association _ target _ source =>
    exact ⟨ofTarget target, source.wellNamed, fun adapter member => nomatch member⟩
  | adapted _ target _ source adapter =>
    refine ⟨ofTarget target, source.wellNamed, fun other member => ?_⟩
    cases adapter with
    | asked _ names =>
      obtain ⟨isName, rfl⟩ := names
      cases member
      exact isName
  | ranking _ _ higher _ lower =>
    obtain ⟨isHigher, rfl⟩ := higher
    obtain ⟨isLower, rfl⟩ := lower
    exact ⟨isHigher, isLower⟩

/-! ## Texts -/

section Texts

theorem Declaration.isBlank_of_isNamePart {c : Char} (isPart : IsNamePart c) :
    isBlank c = false := by
  cases blank : isBlank c with
  | false => rfl
  | true => exact absurd isPart (not_of_isBlank IsNamePart (by decide +kernel) blank)

/-- A name is one word. -/
theorem Declaration.isWord_of_isQualified {least : Nat} {word : String}
    (isName : IsQualified least word.toList) : IsWord word := by
  obtain ⟨owners, last, -, each, isLast, spelled⟩ := isName
  constructor
  · rintro rfl
    have nothing : last = [] := (List.append_eq_nil_iff.1 spelled.symm).2
    exact ne_nil_of_isIdentifier isLast nothing
  · intro c member
    rw [spelled] at member
    rcases List.mem_append.1 member with inOwners | inLast
    · obtain ⟨owner, isOwner, inOwner⟩ := List.mem_flatMap.1 inOwners
      rcases List.mem_append.1 inOwner with inOwner | isDot
      · exact isBlank_of_isNamePart (isNamePart_of_isIdentifier (each owner isOwner) c inOwner)
      · rw [List.mem_singleton.1 isDot]
        decide
    · exact isBlank_of_isNamePart (isNamePart_of_isIdentifier isLast c inLast)

theorem Declaration.isWord_call {name : String} (isWord : IsWord name) : IsWord (name ++ "()") := by
  refine ⟨by simp, fun c member => ?_⟩
  rw [String.toList_append] at member
  rcases List.mem_append.1 member with inName | inBrackets
  · exact isWord.2 c inName
  · have listed : c = '(' ∨ c = ')' := by simpa using inBrackets
    rcases listed with rfl | rfl
    · decide
    · decide

theorem MemberOperand.WellNamed.isWord {operand : MemberOperand} (wellNamed : operand.WellNamed) :
    IsWord operand.render :=
  isWord_of_isQualified (wellNamed.names rfl 0).isName

/-- The words of a keyword and an operand. -/
theorem Declaration.words_clause {word start text : String} (isKeyword : IsWord word)
    (spelled : start = word ++ " ") (isWord : IsWord text) :
    words (start ++ text) = [word, text] := by
  rw [words_start isKeyword spelled, words_of_isWord isWord]

theorem Target.words_render {target : Target} (wellNamed : target.WellNamed) :
    words target.render = target.parts.map Part.word := by
  cases target with
  | field operand =>
    have isName : operand.WellNamed := wellNamed
    exact words_clause (by decide) (by decide) isName.isWord

theorem Source.words_render {source : Source} (wellNamed : source.WellNamed) :
    words source.render = source.parts.map Part.word := by
  cases source with
  | field operand =>
    have isName : operand.WellNamed := wellNamed
    exact words_clause (by decide) (by decide) isName.isWord
  | fresh operand => exact words_clause (by decide) (by decide) (isWord_of_isQualified wellNamed)
  | call operand =>
    have isName : operand.WellNamed := wellNamed
    rw [Source.render, String.append_assoc]
    exact words_clause (by decide) (by decide) (isWord_call isName.isWord)
  | single operand => exact words_clause (by decide) (by decide) (isWord_of_isQualified wellNamed)

theorem Association.words_render {association : Association}
    (wellNamed : (Declaration.association association).WellNamed) :
    words association.render = (Declaration.association association).parts.map Part.word := by
  obtain ⟨target, source, using?, origin⟩ := association
  obtain ⟨targetNamed, sourceNamed, adapterNamed⟩ := wellNamed
  have ofPair : words ("associate " ++ target.render ++ " with " ++ source.render) =
      "associate" :: target.parts.map Part.word ++ "with" :: source.parts.map Part.word := by
    rw [words_between (by decide : IsWord "with") (by decide),
      words_start (by decide : IsWord "associate") (by decide), Target.words_render targetNamed,
      Source.words_render sourceNamed]
  cases using? with
  | none =>
    show words ("associate " ++ target.render ++ " with " ++ source.render ++ "") = _
    rw [String.append_empty, ofPair]
    simp [Declaration.parts, adapterParts, Part.word]
  | some adapter =>
    have isAdapter := isWord_of_isQualified (adapterNamed adapter rfl)
    show words ("associate " ++ target.render ++ " with " ++ source.render ++
      (" using " ++ adapter.name)) = _
    rw [← String.append_assoc, words_between (by decide : IsWord "using") (by decide), ofPair,
      words_of_isWord isAdapter]
    simp [Declaration.parts, adapterParts, ClassOperand.part, Part.word]

/-- **The words of a text.** The text of a declaration has the words of its parts. -/
theorem Declaration.words_render {declaration : Declaration} (wellNamed : declaration.WellNamed) :
    words declaration.render = declaration.parts.map Part.word := by
  cases declaration with
  | association association => exact Association.words_render wellNamed
  | ranking ranking =>
    obtain ⟨higher, lower, origin⟩ := ranking
    obtain ⟨isHigher, isLower⟩ := wellNamed
    have spelled : "declare precedence " = "declare" ++ " " ++ "precedence " := by decide
    have ofHigher : words ("declare precedence " ++ higher.name) =
        ["declare", "precedence", higher.name] := by
      rw [spelled, String.append_assoc, words_start (by decide : IsWord "declare") rfl,
        words_clause (by decide : IsWord "precedence") (by decide) (isWord_of_isQualified isHigher)]
    show words ("declare precedence " ++ higher.name ++ " over " ++ lower.name) = _
    rw [words_between (by decide : IsWord "over") (by decide), ofHigher,
      words_of_isWord (isWord_of_isQualified isLower)]
    rfl

end Texts

/-! ## Words that are read -/

section Reading

variable {file : String} {piece : List Token} {declaration : Declaration}

theorem Declaration.NamesClass.isAt {token : Token} {operand : ClassOperand}
    (names : NamesClass token operand) : operand.part.IsAt token := by
  obtain ⟨_, rfl⟩ := names
  rfl

theorem Declaration.NamesMember.isAt {token : Token} {operand : MemberOperand}
    (names : NamesMember token.word token.line operand) : operand.part.IsAt token := by
  show token = ⟨operand.render, operand.line⟩
  rw [names.render, names.line]

theorem Declaration.SpellsTarget.isAt {target : Target} (spells : SpellsTarget piece target) :
    List.Forall₂ Part.IsAt target.parts piece := by
  cases spells with
  | field isKeyword names => exact .cons isKeyword (.cons names.isAt .nil)

theorem Declaration.SpellsSource.isAt {source : Source} (spells : SpellsSource piece source) :
    List.Forall₂ Part.IsAt source.parts piece := by
  cases spells with
  | field isKeyword names => exact .cons isKeyword (.cons names.isAt .nil)
  | fresh isKeyword names => exact .cons isKeyword (.cons names.isAt .nil)
  | @call keyword token name operand isKeyword isCall names =>
    have called : token = ⟨operand.render ++ "()", operand.line⟩ := by
      rw [names.render, names.line, ← isCall]
    exact .cons isKeyword (.cons called .nil)
  | single isKeyword names => exact .cons isKeyword (.cons names.isAt .nil)

/-- The words that a declaration was read from: they are those of its text, its operands carry
their lines, and it stands at the first of these. -/
structure Declaration.ReadFrom (file : String) (piece : List Token) (declaration : Declaration) :
    Prop where
  render : words declaration.render = piece.map Token.word
  isAt : List.Forall₂ Part.IsAt declaration.parts piece
  origin : declaration.origin = ⟨file, declaration.firstLine⟩

theorem Declaration.Spells.isAt (spells : Spells file piece declaration) :
    List.Forall₂ Part.IsAt declaration.parts piece := by
  cases spells with
  | association isFirst target isSecond source =>
    show List.Forall₂ Part.IsAt (_ ++ _ ++ []) _
    rw [List.append_nil]
    exact List.rel_append (Part.isAt_cons isFirst target.isAt)
      (Part.isAt_cons isSecond source.isAt)
  | adapted isFirst target isSecond source adapter =>
    cases adapter with
    | asked isKeyword names =>
      exact List.rel_append
        (List.rel_append (Part.isAt_cons isFirst target.isAt) (Part.isAt_cons isSecond source.isAt))
        (Part.isAt_cons isKeyword (.cons names.isAt .nil))
  | ranking isFirst isSecond higher isThird lower =>
    exact .cons isFirst (.cons isSecond (.cons higher.isAt (.cons isThird (.cons lower.isAt .nil))))

/-- A declaration was read from the words that spell it. -/
theorem Declaration.Spells.readFrom (spells : Spells file piece declaration) :
    ReadFrom file piece declaration where
  render := by
    rw [words_render spells.wellNamed, Part.map_word spells.isAt]
  isAt := spells.isAt
  origin := by
    cases spells with
    | association _ _ _ _ => rfl
    | adapted _ _ _ _ _ => rfl
    | ranking _ _ _ _ _ => rfl

end Reading

/-! ## Texts that are read again -/

/-- A member without its line. -/
def MemberOperand.unplaced (operand : MemberOperand) : MemberOperand := { operand with line := 0 }

/-- A class without its line. -/
def ClassOperand.unplaced (operand : ClassOperand) : ClassOperand := { operand with line := 0 }

/-- A target without its line. -/
def Target.unplaced : Target → Target
  | .field operand => .field operand.unplaced

/-- A source without its line. -/
def Source.unplaced : Source → Source
  | .field operand => .field operand.unplaced
  | .fresh operand => .fresh operand.unplaced
  | .call operand => .call operand.unplaced
  | .single operand => .single operand.unplaced

/-- A declaration without its file and lines. -/
def Declaration.unplaced : Declaration → Declaration
  | .association ⟨target, source, using?, _⟩ =>
    .association ⟨target.unplaced, source.unplaced, using?.map ClassOperand.unplaced, ⟨"", 0⟩⟩
  | .ranking ⟨higher, lower, _⟩ => .ranking ⟨higher.unplaced, lower.unplaced, ⟨"", 0⟩⟩

section Again

variable {piece : List Token}

theorem Declaration.namesClass {token : Token} {name : String} (isName : IsClassName name)
    (spelled : token.word = name) : NamesClass token ⟨name, token.line⟩ := by
  subst spelled
  exact ⟨isName, rfl⟩

theorem Declaration.exists_spellsTarget {target : Target} (wellNamed : target.WellNamed)
    (spelled : piece.map Token.word = target.parts.map Part.word) :
    ∃ other, SpellsTarget piece other ∧ other.unplaced = target.unplaced := by
  cases target with
  | field operand =>
    obtain ⟨keyword, token, rfl, isKeyword, isName⟩ := exists_pair spelled
    have named : operand.WellNamed := wellNamed
    -- the words give the name, the token gives the line
    exact ⟨_, .field isKeyword (named.names isName token.line), rfl⟩

theorem Declaration.exists_spellsSource {source : Source} (wellNamed : source.WellNamed)
    (spelled : piece.map Token.word = source.parts.map Part.word) :
    ∃ other, SpellsSource piece other ∧ other.unplaced = source.unplaced := by
  cases source with
  | field operand =>
    obtain ⟨keyword, token, rfl, isKeyword, isName⟩ := exists_pair spelled
    have named : operand.WellNamed := wellNamed
    exact ⟨_, .field isKeyword (named.names isName token.line), rfl⟩
  | fresh operand =>
    obtain ⟨keyword, token, rfl, isKeyword, isName⟩ := exists_pair spelled
    have names : NamesClass token ⟨operand.name, token.line⟩ := namesClass wellNamed isName
    exact ⟨_, .fresh isKeyword names, rfl⟩
  | call operand =>
    obtain ⟨keyword, token, rfl, isKeyword, isCall⟩ := exists_pair spelled
    have named : operand.WellNamed := wellNamed
    exact ⟨_, .call isKeyword isCall (named.names rfl token.line), rfl⟩
  | single operand =>
    obtain ⟨keyword, token, rfl, isKeyword, isName⟩ := exists_pair spelled
    have names : NamesClass token ⟨operand.name, token.line⟩ := namesClass wellNamed isName
    exact ⟨_, .single isKeyword names, rfl⟩

/-- Words that are those of a declaration spell it, up to its file and lines. -/
theorem Declaration.exists_spells (file : String) {declaration : Declaration}
    (wellNamed : declaration.WellNamed)
    (spelled : piece.map Token.word = declaration.parts.map Part.word) :
    ∃ other, Spells file piece other ∧ other.unplaced = declaration.unplaced := by
  cases declaration with
  | association association =>
    obtain ⟨target, source, using?, origin⟩ := association
    obtain ⟨targetNamed, sourceNamed, adapterNamed⟩ := wellNamed
    simp only [Declaration.parts, List.map_append, List.map_cons, List.cons_append,
      List.append_assoc, List.map_eq_cons_iff, List.map_eq_append_iff] at spelled
    obtain ⟨first, _, rfl, isFirst, inTarget, _, rfl, isTarget, second, _, rfl, isSecond,
      inSource, inAdapter, rfl, isSource, isAdapter⟩ := spelled
    obtain ⟨otherTarget, spellsTarget, sameTarget⟩ := exists_spellsTarget targetNamed isTarget
    obtain ⟨otherSource, spellsSource, sameSource⟩ := exists_spellsSource sourceNamed isSource
    cases using? with
    | none =>
      have nothing : inAdapter = [] := List.map_eq_nil_iff.1 isAdapter
      subst nothing
      rw [List.append_nil]
      refine ⟨_, .association isFirst spellsTarget isSecond spellsSource, ?_⟩
      simp only [Declaration.unplaced, sameTarget, sameSource, Option.map_none]
    | some adapter =>
      obtain ⟨keyword, token, rfl, isKeyword, isName⟩ := exists_pair isAdapter
      have names := namesClass (adapterNamed adapter rfl) isName
      have spells : Spells file _ _ :=
        .adapted isFirst spellsTarget isSecond spellsSource (.asked isKeyword names)
      rw [List.append_assoc] at spells
      refine ⟨_, spells, ?_⟩
      simp only [Declaration.unplaced, sameTarget, sameSource, Option.map_some]
      rfl
  | ranking ranking =>
    obtain ⟨higher, lower, origin⟩ := ranking
    obtain ⟨isHigher, isLower⟩ := wellNamed
    simp only [Declaration.parts, List.map_cons, List.map_nil, List.map_eq_cons_iff,
      List.map_eq_nil_iff] at spelled
    obtain ⟨first, _, rfl, isFirst, second, _, rfl, isSecond, inHigher, _, rfl, higherName, third,
      _, rfl, isThird, inLower, _, rfl, lowerName, rfl⟩ := spelled
    exact ⟨_, .ranking isFirst isSecond (namesClass isHigher higherName) isThird
      (namesClass isLower lowerName), rfl⟩

/-- The words of several declarations are cut into those of each. -/
theorem Declaration.exists_pieces (file : String) {declarations : List Declaration}
    (wellNamed : ∀ declaration ∈ declarations, declaration.WellNamed) {tokens : List Token}
    (spelled : tokens.map Token.word =
      declarations.flatMap fun declaration => declaration.parts.map Part.word) :
    ∃ pieces others, tokens = pieces.flatten ∧ List.Forall₂ (Spells file) pieces others ∧
      others.map unplaced = declarations.map unplaced := by
  induction declarations generalizing tokens with
  | nil => exact ⟨[], [], List.map_eq_nil_iff.1 spelled, .nil, rfl⟩
  | cons declaration declarations ih =>
    obtain ⟨firstNamed, restNamed⟩ := List.forall_mem_cons.1 wellNamed
    rw [List.flatMap_cons] at spelled
    obtain ⟨piece, rest, rfl, ofFirst, ofRest⟩ := List.map_eq_append_iff.1 spelled
    obtain ⟨other, spells, same⟩ := exists_spells file firstNamed ofFirst
    obtain ⟨pieces, others, rfl, each, sameRest⟩ := ih restNamed ofRest
    exact ⟨piece :: pieces, other :: others, rfl, .cons spells each, by
      rw [List.map_cons, List.map_cons, same, sameRest]⟩

end Again

/-- **Reading and printing undo each other.** The declarations of a text that is accepted were read
from pieces of it that make up the whole, and their texts have its words. The texts of declarations
whose operands are names, one a line, are accepted, and read as the same declarations up to file
and lines. -/
theorem Declaration.ofText_render_inverse (file : String) :
    (∀ text declarations, ofText file text = .ok declarations →
      (declarations.flatMap fun declaration => words declaration.render) =
          (Token.tokenize text).map Token.word ∧
        ∃ pieces, Token.tokenize text = pieces.flatten ∧
          List.Forall₂ (ReadFrom file) pieces declarations) ∧
    ∀ declarations : List Declaration,
      (∀ declaration ∈ declarations, declaration.WellNamed) →
        ∃ others, ofText file ("\n".intercalate (declarations.map render)) = .ok others ∧
          others.map unplaced = declarations.map unplaced := by
  constructor
  · intro text declarations accepted
    obtain ⟨pieces, split, each⟩ := (ofTokens_ok_iff file (Token.tokenize text)).1 accepted
    have readFrom := each.imp fun _ _ spells => spells.readFrom
    refine ⟨?_, pieces, split, readFrom⟩
    rw [split]
    clear each split accepted
    induction readFrom with
    | nil => rfl
    | cons first _ ih =>
      rw [List.flatMap_cons, first.render, ih, List.flatten_cons, List.map_append]
  · intro declarations wellNamed
    -- lines end at blanks, so the words are those of one declaration after the other
    have spelled : (Token.tokenize ("\n".intercalate (declarations.map render))).map Token.word =
        declarations.flatMap fun declaration => declaration.parts.map Part.word := by
      have lines : words ("\n".intercalate (declarations.map render)) =
          (declarations.map render).flatMap words := words_intercalate isBlank_newline _
      have each : ∀ declaration ∈ declarations, words declaration.render =
          declaration.parts.map Part.word := fun _ member => words_render (wellNamed _ member)
      rw [map_word_tokenize, lines, List.flatMap_map, List.flatMap_def, List.map_congr_left each,
        List.flatMap_def]
    obtain ⟨pieces, others, split, spells, same⟩ := exists_pieces file wellNamed spelled
    exact ⟨others, (ofTokens_ok_iff file _).2 ⟨pieces, split, spells⟩, same⟩

/-- Keywords are names too, and so are words with letters outside ASCII. -/
theorem Declaration.ofText_render_inverse_keywords :
    ∃ others : List Declaration,
      ofText "a" ("\n".intercalate
          ["associate field using.field with call call.né() using over",
            "declare precedence over over with"]) = .ok others ∧
        others.map unplaced =
          [.association ⟨.field ⟨"using", "field", 0⟩, .call ⟨"call", "né", 0⟩, some ⟨"over", 0⟩,
            ⟨"", 0⟩⟩, .ranking ⟨⟨"over", 0⟩, ⟨"with", 0⟩, ⟨"", 0⟩⟩] ∧
        (others.flatMap fun declaration => words declaration.render) =
          ["associate", "field", "using.field", "with", "call", "call.né()", "using", "over",
            "declare", "precedence", "over", "over", "with"] := by
  obtain ⟨others, accepted, same⟩ := (ofText_render_inverse "a").2
    [.association ⟨.field ⟨"using", "field", 0⟩, .call ⟨"call", "né", 0⟩, some ⟨"over", 0⟩,
      ⟨"", 0⟩⟩, .ranking ⟨⟨"over", 0⟩, ⟨"with", 0⟩, ⟨"", 0⟩⟩] (by
    intro declaration member
    rcases List.mem_cons.1 member with rfl | member
    · refine ⟨⟨isQualified_zero (by decide), by decide⟩, ⟨isQualified_zero (by decide), by decide⟩,
        ?_⟩
      intro adapter asked
      cases asked
      exact isQualified_zero (by decide)
    · rw [List.mem_singleton.1 member]
      exact ⟨isQualified_zero (by decide), isQualified_zero (by decide)⟩)
  have printed := ((ofText_render_inverse "a").1 _ others accepted).1
  exact ⟨others, accepted, same, printed.trans (by decide +kernel)⟩

end AdapterWiring
