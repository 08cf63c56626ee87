import AdapterWiring.Proofs.Declaration.Parsing
import Mathlib.Data.List.Forall2

/-!
# What the reader of declarations accepts

The words of any number of declarations are accepted, with the declarations they
spell. All other words are refused at the first word that no longest list of
declarations takes.

* **Starts.unique** — words start with at most one declaration, as the rule for
  declarations reads at most one.
* **pieces_unique** — words are cut into declarations in one way.
* **length_le_of_runs** — no list of declarations takes more words than the
  repetition of that rule.
* **ofTokens_cases, ofTokens_ok_iff** — words are accepted or refused; accepted
  are those that are cut into pieces that spell declarations.
* **ofTokens_spec** — exactly the language is accepted, everything else is
  refused at the right line.
-/

namespace AdapterWiring.Declaration

open Grammar

/-! ## Starts -/

section Starts

variable {file : String} {piece tokens rest : List Token} {declaration : Declaration}

/-- Words start with at most one declaration. -/
theorem Starts.unique {other : Declaration} {otherRest : List Token}
    (starts : Starts file tokens declaration rest)
    (otherStarts : Starts file tokens other otherRest) :
    declaration = other ∧ rest = otherRest := by
  have reads {found : Declaration} {after : List Token} (starts : Starts file tokens found after) :
      ∃ node, parseRule grammar 5 "declaration" tokens = some (.ok (node, after)) ∧
        ofNode file node = .ok found := parse_of_starts starts
  obtain ⟨node, ok, isDeclaration⟩ := reads starts
  obtain ⟨otherNode, otherOk, isOther⟩ := reads otherStarts
  cases ok.symm.trans otherOk
  cases isDeclaration.symm.trans isOther
  exact ⟨rfl, rfl⟩

theorem Starts.spells (starts : Starts file tokens declaration rest) :
    ∃ piece, tokens = piece ++ rest ∧ Spells file piece declaration := by
  cases starts with
  | association spells split _ => exact ⟨_, split, spells⟩
  | ranking spells split => exact ⟨_, split, spells⟩

/-- Words that spell a declaration start with it where no adapter is asked for next. -/
theorem starts_of_spells (spells : Spells file piece declaration)
    (notAsked : ∀ asked adapter more, SpellsAdapter asked adapter → rest ≠ asked ++ more) :
    Starts file (piece ++ rest) declaration rest := by
  cases declaration with
  | association association => exact .association spells rfl fun _ => notAsked
  | ranking ranking => exact .ranking spells rfl

/-- Words spell at most one declaration. -/
theorem Spells.unique {other : Declaration} (spells : Spells file piece declaration)
    (spellsOther : Spells file piece other) : declaration = other := by
  have nothing : ∀ asked adapter more, SpellsAdapter asked adapter → [] ≠ asked ++ more := by
    intro asked adapter more spellsAdapter
    cases spellsAdapter with
    | asked _ _ => exact (List.cons_ne_nil _ _).symm
  exact ((starts_of_spells spells nothing).unique (starts_of_spells spellsOther nothing)).1

/-- Words that start with the words of a declaration start with one that takes them all. -/
theorem exists_starts (spells : Spells file piece declaration) (more : List Token) :
    ∃ other rest, Starts file (piece ++ more) other rest ∧ rest.length ≤ more.length := by
  by_cases asked : ∃ asked adapter others, SpellsAdapter asked adapter ∧ more = asked ++ others
  · obtain ⟨asked, adapter, others, spellsAdapter, rfl⟩ := asked
    cases spells with
    | association isFirst spellsTarget isSecond spellsSource =>
      have adapted : Spells file _ _ :=
        .adapted isFirst spellsTarget isSecond spellsSource spellsAdapter
      exact ⟨_, others, .association adapted (by simp) (fun none => nomatch none), by simp⟩
    | adapted isFirst spellsTarget isSecond spellsSource spellsOther =>
      have adapted : Spells file _ _ :=
        .adapted isFirst spellsTarget isSecond spellsSource spellsOther
      exact ⟨_, asked ++ others, .association adapted rfl (fun none => nomatch none), Nat.le_refl _⟩
    | ranking isFirst isSecond isHigher isThird isLower =>
      exact ⟨_, asked ++ others,
        .ranking (.ranking isFirst isSecond isHigher isThird isLower) rfl, Nat.le_refl _⟩
  · refine ⟨declaration, more, starts_of_spells spells fun words adapter others spells same => ?_,
      Nat.le_refl _⟩
    exact asked ⟨words, adapter, others, spells, same⟩

/-- The words of a declaration start with a keyword. -/
theorem DeclarationForm.head {words : List String} (form : DeclarationForm words) :
    ∃ first rest, words = first :: rest ∧ (first = "associate" ∨ first = "declare") := by
  cases form with
  | association _ _ => exact ⟨_, _, rfl, .inl rfl⟩
  | adapted _ _ _ => exact ⟨_, _, rfl, .inl rfl⟩
  | ranking _ _ => exact ⟨_, _, rfl, .inr rfl⟩

theorem forms_of_spells {pieces : List (List Token)} {declarations : List Declaration}
    (each : List.Forall₂ (Spells file) pieces declarations) :
    ∀ piece ∈ pieces, DeclarationForm (piece.map Token.word) := by
  induction each with
  | nil => exact fun piece member => nomatch member
  | cons spells _ ih => exact List.forall_mem_cons.2 ⟨exists_spells_iff.1 ⟨_, spells⟩, ih⟩

theorem DeclarationForm.length_pos (form : DeclarationForm (piece.map Token.word)) :
    0 < piece.length := by
  obtain ⟨first, rest, split, _⟩ := form.head
  have length := congrArg List.length split
  rw [List.length_map, List.length_cons] at length
  omega

theorem Starts.length_lt (starts : Starts file tokens declaration rest) :
    rest.length < tokens.length := by
  obtain ⟨piece, rfl, spells⟩ := starts.spells
  have positive := (exists_spells_iff.1 ⟨_, spells⟩).length_pos
  rw [List.length_append]
  omega

/-- Where a declaration starts or the words end, no adapter is asked for. -/
theorem not_asked {pieces : List (List Token)}
    (each : ∀ piece ∈ pieces, DeclarationForm (piece.map Token.word))
    (more : List Token) (some : pieces = [] → more = []) :
    ∀ asked adapter others, SpellsAdapter asked adapter →
      pieces.flatten ++ more ≠ asked ++ others := by
  intro asked adapter others spells same
  cases spells with
  | @asked keyword token _ isKeyword _ =>
    cases pieces with
    | nil => simp [some rfl] at same
    | cons first later =>
      obtain ⟨word, rest, split, isHead⟩ := (each first (List.mem_cons_self ..)).head
      obtain ⟨token, tail, rfl, rfl, rfl⟩ := List.map_eq_cons_iff.1 split
      have isToken : token = keyword := (List.cons.inj same).1
      rw [isToken, isKeyword] at isHead
      exact absurd isHead (by decide)

/-- The first of several declarations in a row is the one that their words start with. -/
theorem starts_of_form (file : String) {pieces : List (List Token)}
    (form : DeclarationForm (piece.map Token.word))
    (each : ∀ piece ∈ pieces, DeclarationForm (piece.map Token.word))
    (more : List Token) (some : pieces = [] → more = []) :
    ∃ declaration, Starts file (piece ++ (pieces.flatten ++ more)) declaration
      (pieces.flatten ++ more) := by
  obtain ⟨declaration, spells⟩ := exists_spells_iff.2 form
  exact ⟨declaration, starts_of_spells spells (not_asked each more some)⟩

/-- Words that start with the words of several declarations start with the first of them, or with
one that takes an adapter that is asked for after the last. -/
theorem exists_starts_of_forms (file : String) {pieces : List (List Token)}
    (form : DeclarationForm (piece.map Token.word))
    (each : ∀ piece ∈ pieces, DeclarationForm (piece.map Token.word)) (more : List Token) :
    ∃ declaration rest, Starts file (piece ++ (pieces.flatten ++ more)) declaration rest ∧
      (rest = pieces.flatten ++ more ∨ pieces = [] ∧ rest.length ≤ more.length) := by
  cases pieces with
  | nil =>
    obtain ⟨_, spells⟩ := exists_spells_iff.2 form
    obtain ⟨declaration, rest, starts, most⟩ := exists_starts spells more
    exact ⟨declaration, rest, starts, .inr ⟨rfl, most⟩⟩
  | cons next later =>
    obtain ⟨declaration, starts⟩ := starts_of_form file form each more (fun none => nomatch none)
    exact ⟨declaration, _, starts, .inl rfl⟩

/-- **Words are cut into declarations in one way.** -/
theorem pieces_unique {pieces others : List (List Token)} (same : pieces.flatten = others.flatten)
    (each : ∀ piece ∈ pieces, DeclarationForm (piece.map Token.word))
    (eachOther : ∀ piece ∈ others, DeclarationForm (piece.map Token.word)) : pieces = others := by
  have nonempty {piece : List Token} {later : List (List Token)}
      (form : DeclarationForm (piece.map Token.word)) : (piece :: later).flatten ≠ [] := by
    intro none
    have positive := form.length_pos
    simp [(List.append_eq_nil_iff.1 none).1] at positive
  induction pieces generalizing others with
  | nil =>
    cases others with
    | nil => rfl
    | cons other others => exact absurd same.symm (nonempty (eachOther other (by simp)))
  | cons piece pieces ih =>
    cases others with
    | nil => exact absurd same (nonempty (each piece (by simp)))
    | cons other others =>
      obtain ⟨form, each⟩ := List.forall_mem_cons.1 each
      obtain ⟨otherForm, eachOther⟩ := List.forall_mem_cons.1 eachOther
      -- the first piece is what the words start with, in both lists
      obtain ⟨_, starts⟩ := starts_of_form "" form each [] fun _ => rfl
      obtain ⟨_, otherStarts⟩ := starts_of_form "" otherForm eachOther [] fun _ => rfl
      rw [List.append_nil] at starts otherStarts
      rw [← List.flatten_cons, same] at starts
      obtain ⟨_, sameRest⟩ := starts.unique otherStarts
      have samePiece : piece = other := by
        rw [List.flatten_cons, List.flatten_cons, sameRest] at same
        exact List.append_cancel_right same
      rw [samePiece, ih sameRest each eachOther]

end Starts

/-! ## Runs -/

section Runs

variable {depth : Nat} {tokens last : List Token} {nodes : List Node}

/-- The repetition of the rule for declarations reads declarations up to words that start with
none. -/
theorem pieces_of_runs (file : String)
    (runs : Runs (parseRule grammar (depth + 5) "declaration") tokens nodes last) :
    ∃ pieces declarations, tokens = pieces.flatten ++ last ∧
      List.Forall₂ (Spells file) pieces declarations ∧
      nodes.mapM (ofNode file) = .ok declarations ∧
      ∀ declaration rest, ¬ Starts file last declaration rest := by
  induction runs with
  | stop failed =>
    refine ⟨[], [], rfl, .nil, rfl, fun declaration rest starts => ?_⟩
    obtain ⟨node, ok, _⟩ := parse_of_starts starts
    cases failed.symm.trans ok
  | idle ok notShorter =>
    obtain ⟨_, starts, _⟩ := declaration_of_parse file ok
    exact absurd starts.length_lt (by omega)
  | more ok _ _ ih =>
    obtain ⟨declaration, starts, ofFirst⟩ := declaration_of_parse file ok
    obtain ⟨piece, rfl, spells⟩ := starts.spells
    obtain ⟨pieces, declarations, rfl, each, ofRest, stops⟩ := ih
    refine ⟨piece :: pieces, declaration :: declarations, by simp, .cons spells each, ?_, stops⟩
    rw [List.mapM_cons, ofFirst, ofRest]
    rfl

/-- No list of declarations that words start with takes more of them than the repetition of the rule
for declarations. -/
theorem length_le_of_runs
    (runs : Runs (parseRule grammar (depth + 5) "declaration") tokens nodes last)
    {accepted : List Token} (inside : accepted <+: tokens) (inLanguage : InLanguage accepted) :
    accepted.length + last.length ≤ tokens.length := by
  induction runs generalizing accepted with
  | stop failed =>
    obtain ⟨pieces, rfl, each⟩ := inLanguage
    obtain ⟨more, rfl⟩ := inside
    cases pieces with
    | nil => simp
    | cons piece pieces =>
      obtain ⟨form, each⟩ := List.forall_mem_cons.1 each
      obtain ⟨_, _, starts, _⟩ := exists_starts_of_forms "" form each more
      obtain ⟨node, ok, _⟩ := parse_of_starts starts
      rw [← List.append_assoc] at ok
      cases failed.symm.trans ok
  | idle ok notShorter =>
    obtain ⟨_, starts, _⟩ := declaration_of_parse "" ok
    exact absurd starts.length_lt (by omega)
  | @more _ rest last _ _ ok shorter _ ih =>
    have fromRest : last.length ≤ rest.length := by
      simpa using ih List.nil_prefix ⟨[], rfl, by simp⟩
    obtain ⟨pieces, rfl, each⟩ := inLanguage
    obtain ⟨more, rfl⟩ := inside
    cases pieces with
    | nil =>
      simp only [List.flatten_nil, List.nil_append, List.length_nil] at shorter ⊢
      omega
    | cons piece pieces =>
      obtain ⟨form, each⟩ := List.forall_mem_cons.1 each
      obtain ⟨_, found, starts, either⟩ := exists_starts_of_forms "" form each more
      obtain ⟨_, readStarts, _⟩ := declaration_of_parse "" ok
      rw [List.flatten_cons, List.append_assoc] at readStarts
      obtain ⟨_, rfl⟩ := starts.unique readStarts
      simp only [List.flatten_cons, List.length_append]
      -- either the run takes the first piece, or it takes more: an adapter after the last one
      rcases either with rfl | ⟨rfl, most⟩
      · have later := ih (List.prefix_append _ _) ⟨pieces, rfl, each⟩
        rw [List.length_append] at later
        omega
      · simp only [List.flatten_nil, List.length_nil]
        omega

end Runs

/-! ## Texts -/

section Texts

variable (file : String) (tokens : List Token)

theorem exists_depthBound (tokens : List Token) :
    ∃ depth, grammar.depthBound tokens = depth + 6 := by
  have size : grammar.rules.size = 18 := by decide
  refine ⟨18 * tokens.length + 13, ?_⟩
  rw [depthBound, size]
  omega

/-- The words that are left where declarations end: the error that the reader ends with names the
first of them, and why the rule for declarations fails there. -/
def StopsAt (file : String) (tokens rest : List Token) : Prop :=
  ∃ token more cause, rest = token :: more ∧
    parseRule grammar (grammar.depthBound rest) "declaration" rest = some (.error cause) ∧
    ofTokens file tokens = .error (.stopped token.line cause)

/-- Words are accepted, or refused after the longest list of declarations that they start with. -/
theorem ofTokens_cases : ∃ pieces declarations rest, tokens = pieces.flatten ++ rest ∧
    List.Forall₂ (Spells file) pieces declarations ∧
    (∀ accepted, accepted <+: tokens → InLanguage accepted →
      accepted.length ≤ pieces.flatten.length) ∧
    (rest = [] ∧ ofTokens file tokens = .ok declarations ∨ StopsAt file tokens rest) := by
  obtain ⟨depth, deep⟩ := exists_depthBound tokens
  have isStart : grammar.rule? start =
      some (.sequence [.ref "declaration" .zeroOrMore]) := rule?_of_find? rfl
  -- five levels reach from a declaration to its operands
  have total : ∀ words, (parseRule grammar (depth + 5) "declaration" words).isSome = true :=
    parseRule_isSome ranked_level (by simp [level])
  obtain ⟨⟨nodes, rest⟩, found⟩ := Option.isSome_iff_exists.1 (parseMany_isSome total tokens)
  have runs := parseMany_eq_some_iff.1 found
  obtain ⟨pieces, declarations, rfl, each, ofNodes, stops⟩ := pieces_of_runs file runs
  have parsed : parseRule grammar (grammar.depthBound (pieces.flatten ++ rest)) start
      (pieces.flatten ++ rest) = some (.ok (.fields [("declaration", .list nodes)], rest)) := by
    rw [deep, parseRule_sequence_ok_iff isStart]
    refine ⟨_, ?_, rfl⟩
    rw [parseElements_ref_ok_iff]
    exact ⟨_, rest, [], parseRepeat_zeroOrMore_ok_iff.2 ⟨nodes, found, rfl⟩, rfl, rfl⟩
  refine ⟨pieces, declarations, rest, rfl, each, fun accepted inside inLanguage => ?_, ?_⟩
  · have most := length_le_of_runs runs inside inLanguage
    rw [List.length_append] at most
    omega
  · cases rest with
    | nil =>
      refine .inl ⟨rfl, ?_⟩
      rw [ofTokens, Grammar.parse, parsed]
      exact ofNodes
    | cons token more =>
      obtain ⟨cause, failed⟩ : ∃ cause, parseRule grammar (grammar.depthBound (token :: more))
          "declaration" (token :: more) = some (.error cause) := by
        obtain ⟨depth, deep⟩ := exists_depthBound (token :: more)
        rw [deep]
        refine error_of_not_ok (parseRule_isSome ranked_level (by simp [level]) _) ?_
        intro node rest ok
        obtain ⟨declaration, starts, _⟩ := declaration_of_parse file ok
        exact stops declaration rest starts
      -- the failure that ended the repetition is asked for again
      have stopped : stoppedRepetition? grammar start (token :: more) = some cause := by
        rw [stoppedRepetition?, isStart]
        simp [failed]
      refine .inr ⟨token, more, cause, rfl, failed, ?_⟩
      rw [ofTokens, Grammar.parse, parsed]
      simp only [stopped]
      rfl

/-- Words are accepted exactly if they are cut into pieces that spell declarations. -/
theorem ofTokens_ok_iff {declarations : List Declaration} :
    ofTokens file tokens = .ok declarations ↔
      ∃ pieces, tokens = pieces.flatten ∧ List.Forall₂ (Spells file) pieces declarations := by
  obtain ⟨pieces, found, rest, split, each, longest, ⟨rfl, ok⟩ | stops⟩ :=
    ofTokens_cases file tokens
  · rw [List.append_nil] at split
    rw [ok]
    constructor
    · intro same
      cases same
      exact ⟨pieces, split, each⟩
    · rintro ⟨others, otherSplit, eachOther⟩
      have samePieces : pieces = others :=
        pieces_unique (split.symm.trans otherSplit) (forms_of_spells each)
          (forms_of_spells eachOther)
      subst samePieces
      have unique : Relator.RightUnique (Spells file) := fun _ _ _ => Spells.unique
      rw [unique.forall₂ each eachOther]
  · obtain ⟨token, more, cause, rfl, _, error⟩ := stops
    rw [error]
    constructor
    · intro same
      cases same
    · rintro ⟨others, rfl, eachOther⟩
      have most := longest _ List.prefix_rfl ⟨others, rfl, forms_of_spells eachOther⟩
      have length := congrArg List.length split
      simp only [List.length_append, List.length_cons] at length
      omega

/-- **Acceptance.** Words are cut into declarations in at most one way. Where there is one, the
reader returns the declarations that the pieces spell, in order. Otherwise it stops at the first
word after the longest list of declarations that the words start with: at the line of that word,
and with the failure of the rule for declarations there. -/
theorem ofTokens_spec :
    (∀ pieces others : List (List Token), tokens = pieces.flatten → tokens = others.flatten →
      (∀ piece ∈ pieces, DeclarationForm (piece.map Token.word)) →
      (∀ piece ∈ others, DeclarationForm (piece.map Token.word)) → pieces = others) ∧
    (InLanguage tokens ∧ (∃ pieces declarations, tokens = pieces.flatten ∧
        List.Forall₂ (Spells file) pieces declarations ∧
        ofTokens file tokens = .ok declarations) ∨
      ¬ InLanguage tokens ∧ ∃ accepted token rest cause failure,
        tokens = accepted ++ token :: rest ∧ InLanguage accepted ∧
        (∀ other, other <+: tokens → InLanguage other → other <+: accepted) ∧
        parseRule grammar (grammar.depthBound (token :: rest)) "declaration" (token :: rest) =
          some (.error cause) ∧
        ofTokens file tokens = .error failure ∧ failure.line? = some token.line ∧
        failure.message =
          "Trailing input from line " ++ toString token.line.toNat ++ ". " ++ cause.message) := by
  constructor
  · rintro pieces others rfl same each eachOther
    exact pieces_unique same each eachOther
  obtain ⟨pieces, declarations, rest, split, each, longest, ⟨rfl, ok⟩ | stops⟩ :=
    ofTokens_cases file tokens
  · rw [List.append_nil] at split
    exact .inl ⟨⟨pieces, split, forms_of_spells each⟩, pieces, declarations, split, each, ok⟩
  · obtain ⟨token, more, cause, rfl, failed, error⟩ := stops
    refine .inr ⟨fun inLanguage => ?_, pieces.flatten, token, more, cause, _, split,
      ⟨pieces, rfl, forms_of_spells each⟩, fun other inside inLanguage => ?_, failed, error, rfl,
      rfl⟩
    · have most := longest tokens List.prefix_rfl inLanguage
      have length := congrArg List.length split
      simp only [List.length_append, List.length_cons] at length
      omega
    · exact List.prefix_of_prefix_length_le inside (split ▸ List.prefix_append _ _)
        (longest other inside inLanguage)

end Texts

end AdapterWiring.Declaration
