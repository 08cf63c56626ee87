import AdapterWiring.Proofs.Declaration.Spelling
import AdapterWiring.Proofs.Grammar.Readers

/-!
# Parsing declarations

Rule by rule, what the grammar of declarations reads is what words spell.

* **ranked_level** — no rule refers to itself, so a bounded depth is enough.
* **IsClause, clause_ok_iff** — clauses are a keyword and an operand, and all
  are read alike.
* **target_of_parse, source_of_parse, adapter_of_parse** — what a rule reads
  spells a target, a source or an adapter; **parse_of_target** and so on are the
  converses.
* **Starts** — the declaration that words start with, an adapter that is asked
  for taken with it.
* **declaration_of_parse, parse_of_starts** — the rule for declarations reads
  exactly this one.
-/

namespace AdapterWiring.Declaration

open Grammar Pattern

/-! ## The table of rules -/

theorem rule?_eq (name : String) : grammar.rule? name = SortedEntries.find? name rules.reverse :=
  NameMap.get?_ofList rules name

theorem rule?_of_find? {name : String} {rule : Rule}
    (found : SortedEntries.find? name rules.reverse = some rule) :
    grammar.rule? name = some rule :=
  (rule?_eq name).trans found

/-- How many rules a rule refers to through one another. -/
def level : String → Nat
  | "declarations" => 5
  | "declaration" => 4
  | "association" => 3
  | "where-clause" => 2
  | "what-clause" => 2
  | "precedence" => 1
  | "using-clause" => 1
  | "where-clause-field" => 1
  | "what-clause-field" => 1
  | "what-clause-new" => 1
  | "what-clause-call" => 1
  | "what-clause-single" => 1
  | _ => 0

theorem ranked_level : grammar.Ranked level := by
  have each : ∀ entry ∈ rules, ∀ reference ∈ entry.2.references,
      level reference < level entry.1 := by
    decide
  intro name rule found
  rw [rule?_eq] at found
  have member := SortedEntries.mem_of_find?_eq_some found
  exact each (name, rule) (List.mem_reverse.1 member)

/-! ## Clauses -/

/-- A rule for a keyword and an operand. -/
structure IsClause (clause keyword operand : String) (pattern : Pattern) : Prop where
  clause : grammar.rule? clause = some (.sequence [.literal keyword, .ref operand .one])
  operand : grammar.rule? operand = some (.pattern pattern)

theorem isClause_targetField : IsClause "where-clause-field" "field" "field-name"
    ⟨anchored memberNameText, .whole memberName⟩ :=
  ⟨rule?_of_find? rfl, rule?_of_find? rfl⟩

theorem isClause_field : IsClause "what-clause-field" "field" "field-name"
    ⟨anchored memberNameText, .whole memberName⟩ :=
  ⟨rule?_of_find? rfl, rule?_of_find? rfl⟩

theorem isClause_fresh : IsClause "what-clause-new" "new" "class-name"
    ⟨anchored classNameText, .whole className⟩ :=
  ⟨rule?_of_find? rfl, rule?_of_find? rfl⟩

theorem isClause_call : IsClause "what-clause-call" "call" "method-call"
    ⟨anchored methodCallText, .whole methodCall⟩ :=
  ⟨rule?_of_find? rfl, rule?_of_find? rfl⟩

theorem isClause_single : IsClause "what-clause-single" "single" "class-name"
    ⟨anchored classNameText, .whole className⟩ :=
  ⟨rule?_of_find? rfl, rule?_of_find? rfl⟩

theorem isClause_adapter : IsClause "using-clause" "using" "adapter-name"
    ⟨anchored classNameText, .whole className⟩ :=
  ⟨rule?_of_find? rfl, rule?_of_find? rfl⟩

section Clauses

variable {depth : Nat} {tokens rest : List Token} {node : Node} {clause keyword operand : String}
  {pattern : Pattern}

/-- A clause is read from its keyword and a word that the pattern of its operand accepts. -/
theorem clause_ok_iff (isClause : IsClause clause keyword operand pattern) :
    parseRule grammar (depth + 2) clause tokens = some (.ok (node, rest)) ↔
      ∃ first token, tokens = first :: token :: rest ∧ first.word = keyword ∧
        pattern.accepts token.word = true ∧ node = .fields [(operand, .token token)] := by
  rw [parseRule_sequence_ok_iff isClause.clause]
  simp only [parseElements_literal_ok_iff, parseElements_ref_ok_iff, parseRepeat_one,
    parseElements_nil_ok_iff, parseRule_pattern_ok_iff isClause.operand]
  constructor
  · rintro ⟨_, ⟨first, _, rfl, isFirst, _, more, _, ⟨token, rfl, accepted, rfl⟩, ⟨rfl, rfl⟩, rfl⟩,
      rfl⟩
    exact ⟨first, token, rfl, isFirst, accepted, rfl⟩
  · rintro ⟨first, token, rfl, isFirst, accepted, rfl⟩
    exact ⟨_, ⟨first, _, rfl, isFirst, _, rest, _, ⟨token, rfl, accepted, rfl⟩, ⟨rfl, rfl⟩, rfl⟩,
      rfl⟩

/-- A clause fails at words that start with another keyword. -/
theorem clause_error (isClause : IsClause clause keyword operand pattern)
    (isLow : level clause = 1) {first : Token} {more : List Token} (other : first.word ≠ keyword) :
    ∃ failure, parseRule grammar (depth + 2) clause (first :: more) = some (.error failure) := by
  refine error_of_not_ok (parseRule_isSome ranked_level (by omega) _) fun node rest ok => ?_
  obtain ⟨_, _, same, isFirst, _⟩ := (clause_ok_iff isClause).1 ok
  exact other ((List.cons.inj same).1 ▸ isFirst)

end Clauses

/-! ## Operands -/

theorem classOperand_token (name : String) (token : Token) :
    classOperand (.fields [(name, .token token)]) name = .ok ⟨token.word, token.line⟩ := by
  simp [classOperand, leaf, child, Node.field?, Node.token?, pure, Except.pure, bind, Except.bind]

theorem memberOperand_token {name : String} {token : Token} {operand : MemberOperand}
    (names : NamesMember token.word token.line operand) :
    memberOperand (.fields [(name, .token token)]) name = .ok operand := by
  simp [memberOperand, leaf, child, Node.field?, Node.token?, names.split?, pure, Except.pure, bind,
    Except.bind]

theorem calledMethod_token {token : Token} {name : String} {operand : MemberOperand}
    (isCall : token.word = name ++ "()") (names : NamesMember name token.line operand) :
    calledMethod (.fields [("method-call", .token token)]) = .ok operand := by
  have plain : String.ofList (withoutArguments token.word.toList.reverse).reverse = name := by
    have word : token.word.toList = name.toList ++ ['(', ')'] := by
      rw [isCall, String.toList_append]
      rfl
    rw [word, withoutArguments_of_isQualified names.isName, List.reverse_reverse,
      String.ofList_toList]
  simp [calledMethod, leaf, child, Node.field?, Node.token?, plain, names.split?, pure, Except.pure,
    bind, Except.bind]

/-! ## Targets, sources and adapters -/

section Parts

variable {depth : Nat} {tokens rest : List Token} {node : Node}

theorem target_of_parse
    (ok : parseRule grammar (depth + 3) "where-clause" tokens = some (.ok (node, rest))) :
    ∃ piece target, tokens = piece ++ rest ∧ SpellsTarget piece target ∧
      targetOfNode node = .ok target := by
  rw [parseRule_alternation (rule?_of_find? rfl), parseAlternatives_ok_iff] at ok
  obtain ⟨before, chosen, after, value, split, -, ok, rfl⟩ := ok
  have member : chosen ∈ ["where-clause-field"] := by
    rw [split]
    simp
  rw [List.mem_singleton] at member
  subst member
  obtain ⟨keyword, token, rfl, isKeyword, accepted, rfl⟩ :=
    (clause_ok_iff isClause_targetField).1 ok
  obtain ⟨operand, names⟩ :=
    exists_namesMember ((accepts_memberName _ _).1 accepted) token.line
  refine ⟨[keyword, token], .field operand, rfl, .field isKeyword names, ?_⟩
  simp [targetOfNode, Node.choice?, memberOperand_token names, Except.map]

theorem parse_of_target {piece : List Token} {target : Target}
    (spells : SpellsTarget piece target) (rest : List Token) :
    ∃ node, parseRule grammar (depth + 3) "where-clause" (piece ++ rest) =
      some (.ok (node, rest)) ∧ targetOfNode node = .ok target := by
  cases spells with
  | @field keyword token operand isKeyword names =>
    have ok : parseRule grammar (depth + 2) "where-clause-field" (keyword :: token :: rest) =
        some (.ok (.fields [("field-name", .token token)], rest)) :=
      (clause_ok_iff isClause_targetField).2
        ⟨keyword, token, rfl, isKeyword, (accepts_memberName _ _).2 names.isName, rfl⟩
    refine ⟨.choice "where-clause-field" (.fields [("field-name", .token token)]), ?_, ?_⟩
    · rw [parseRule_alternation (rule?_of_find? rfl)]
      exact parseAlternatives_of_exclusive (List.mem_singleton_self _) ok
        fun other isOther different => absurd (List.mem_singleton.1 isOther) different
    · simp [targetOfNode, Node.choice?, memberOperand_token names, Except.map]

/-- The rules for sources. -/
def sourceClauses : List String :=
  ["what-clause-field", "what-clause-new", "what-clause-call", "what-clause-single"]

/-- The keyword of a rule for sources. -/
def sourceKeyword : String → String
  | "what-clause-field" => "field"
  | "what-clause-new" => "new"
  | "what-clause-call" => "call"
  | _ => "single"

/-- The keyword of a source tells its rule. -/
theorem sourceClauses_fail {chosen : String} (isChosen : chosen ∈ sourceClauses) {first : Token}
    (isKeyword : first.word = sourceKeyword chosen) (more : List Token) :
    ∀ other ∈ sourceClauses, other ≠ chosen →
      ∃ failure, parseRule grammar (depth + 2) other (first :: more) = some (.error failure) := by
  have distinct : ∀ one ∈ sourceClauses, ∀ other ∈ sourceClauses, other ≠ one →
      sourceKeyword one ≠ sourceKeyword other := by
    decide
  intro other isOther different
  -- no two of these rules share a keyword
  have otherKeyword := distinct chosen isChosen other isOther different
  rw [← isKeyword] at otherKeyword
  simp only [sourceClauses, List.mem_cons, List.not_mem_nil, or_false] at isOther
  rcases isOther with rfl | rfl | rfl | rfl
  · exact clause_error isClause_field rfl otherKeyword
  · exact clause_error isClause_fresh rfl otherKeyword
  · exact clause_error isClause_call rfl otherKeyword
  · exact clause_error isClause_single rfl otherKeyword

theorem source_of_parse
    (ok : parseRule grammar (depth + 3) "what-clause" tokens = some (.ok (node, rest))) :
    ∃ piece source, tokens = piece ++ rest ∧ SpellsSource piece source ∧
      sourceOfNode node = .ok source := by
  rw [parseRule_alternation (rule?_of_find? rfl), parseAlternatives_ok_iff] at ok
  obtain ⟨before, chosen, after, value, split, -, ok, rfl⟩ := ok
  have member : chosen ∈ sourceClauses := by
    rw [sourceClauses, split]
    simp
  simp only [sourceClauses, List.mem_cons, List.not_mem_nil, or_false] at member
  rcases member with rfl | rfl | rfl | rfl
  · obtain ⟨keyword, token, rfl, isKeyword, accepted, rfl⟩ :=
      (clause_ok_iff isClause_field).1 ok
    obtain ⟨operand, names⟩ :=
      exists_namesMember ((accepts_memberName _ _).1 accepted) token.line
    refine ⟨[keyword, token], .field operand, rfl, .field isKeyword names, ?_⟩
    simp [sourceOfNode, Node.choice?, memberOperand_token names, Except.map]
  · obtain ⟨keyword, token, rfl, isKeyword, accepted, rfl⟩ :=
      (clause_ok_iff isClause_fresh).1 ok
    refine ⟨[keyword, token], .fresh ⟨token.word, token.line⟩, rfl,
      .fresh isKeyword ⟨(accepts_className _ _).1 accepted, rfl⟩, ?_⟩
    simp [sourceOfNode, Node.choice?, classOperand_token, Except.map]
  · obtain ⟨keyword, token, rfl, isKeyword, accepted, rfl⟩ :=
      (clause_ok_iff isClause_call).1 ok
    obtain ⟨letters, isName, word⟩ := (accepts_methodCall _ _).1 accepted
    have isCall : token.word = String.ofList letters ++ "()" := by
      apply String.toList_injective
      rw [word, String.toList_append, String.toList_ofList]
      rfl
    have isMember : IsMemberName (String.ofList letters) := by
      rwa [IsMemberName, String.toList_ofList]
    obtain ⟨operand, names⟩ := exists_namesMember isMember token.line
    refine ⟨[keyword, token], .call operand, rfl, .call isKeyword isCall names, ?_⟩
    simp [sourceOfNode, Node.choice?, calledMethod_token isCall names, Except.map]
  · obtain ⟨keyword, token, rfl, isKeyword, accepted, rfl⟩ :=
      (clause_ok_iff isClause_single).1 ok
    refine ⟨[keyword, token], .single ⟨token.word, token.line⟩, rfl,
      .single isKeyword ⟨(accepts_className _ _).1 accepted, rfl⟩, ?_⟩
    simp [sourceOfNode, Node.choice?, classOperand_token, Except.map]

/-- A source is read by the rule that its keyword tells. -/
theorem parse_of_sourceClause (chosen : String) {operand : String} {pattern : Pattern}
    {first token : Token} (isChosen : chosen ∈ sourceClauses)
    (isClause : IsClause chosen (sourceKeyword chosen) operand pattern)
    (isKeyword : first.word = sourceKeyword chosen) (accepted : pattern.accepts token.word = true)
    (rest : List Token) :
    parseRule grammar (depth + 3) "what-clause" (first :: token :: rest) =
      some (.ok (.choice chosen (.fields [(operand, .token token)]), rest)) := by
  rw [parseRule_alternation (rule?_of_find? rfl)]
  refine parseAlternatives_of_exclusive isChosen ?_ (sourceClauses_fail isChosen isKeyword _)
  exact (clause_ok_iff isClause).2 ⟨first, token, rfl, isKeyword, accepted, rfl⟩

theorem parse_of_source {piece : List Token} {source : Source}
    (spells : SpellsSource piece source) (rest : List Token) :
    ∃ node, parseRule grammar (depth + 3) "what-clause" (piece ++ rest) =
      some (.ok (node, rest)) ∧ sourceOfNode node = .ok source := by
  cases spells with
  | field isKeyword names =>
    refine ⟨_, parse_of_sourceClause "what-clause-field" (by decide) isClause_field isKeyword
      ((accepts_memberName _ _).2 names.isName) rest, ?_⟩
    simp [sourceOfNode, Node.choice?, memberOperand_token names, Except.map]
  | fresh isKeyword names =>
    refine ⟨_, parse_of_sourceClause "what-clause-new" (by decide) isClause_fresh isKeyword
      ((accepts_className _ _).2 names.1) rest, ?_⟩
    simp [sourceOfNode, Node.choice?, classOperand_token, Except.map, names.2]
  | @call _ token name _ isKeyword isCall names =>
    have accepted : ∃ letters, IsQualified 1 letters ∧
        token.word.toList = letters ++ ['(', ')'] := by
      refine ⟨name.toList, names.isName, ?_⟩
      rw [isCall, String.toList_append]
      rfl
    refine ⟨_, parse_of_sourceClause "what-clause-call" (by decide) isClause_call isKeyword
      ((accepts_methodCall _ _).2 accepted) rest, ?_⟩
    simp [sourceOfNode, Node.choice?, calledMethod_token isCall names, Except.map]
  | single isKeyword names =>
    refine ⟨_, parse_of_sourceClause "what-clause-single" (by decide) isClause_single isKeyword
      ((accepts_className _ _).2 names.1) rest, ?_⟩
    simp [sourceOfNode, Node.choice?, classOperand_token, Except.map, names.2]

theorem adapter_of_parse
    (ok : parseRule grammar (depth + 2) "using-clause" tokens = some (.ok (node, rest))) :
    ∃ piece adapter, tokens = piece ++ rest ∧ SpellsAdapter piece adapter ∧
      node.isAbsent = false ∧ classOperand node "adapter-name" = .ok adapter := by
  obtain ⟨keyword, token, rfl, isKeyword, accepted, rfl⟩ :=
    (clause_ok_iff isClause_adapter).1 ok
  exact ⟨[keyword, token], ⟨token.word, token.line⟩, rfl,
    .asked isKeyword ⟨(accepts_className _ _).1 accepted, rfl⟩, rfl, classOperand_token _ _⟩

theorem parse_of_adapter {piece : List Token} {adapter : ClassOperand}
    (spells : SpellsAdapter piece adapter) (rest : List Token) :
    ∃ node, parseRule grammar (depth + 2) "using-clause" (piece ++ rest) =
      some (.ok (node, rest)) ∧ node.isAbsent = false ∧
        classOperand node "adapter-name" = .ok adapter := by
  cases spells with
  | @asked keyword token _ isKeyword names =>
    have ok : parseRule grammar (depth + 2) "using-clause" (keyword :: token :: rest) =
        some (.ok (.fields [("adapter-name", .token token)], rest)) :=
      (clause_ok_iff isClause_adapter).2
        ⟨keyword, token, rfl, isKeyword, (accepts_className _ _).2 names.1, rfl⟩
    exact ⟨_, ok, rfl, by rw [classOperand_token, names.2]⟩

end Parts

/-! ## Declarations -/

/-- The declaration that words start with; an adapter that is asked for belongs to it. -/
inductive Starts (file : String) : List Token → Declaration → List Token → Prop
  | association {tokens piece rest : List Token} {association : Association} :
    Spells file piece (.association association) → tokens = piece ++ rest →
    (association.using? = none →
      ∀ asked adapter more, SpellsAdapter asked adapter → rest ≠ asked ++ more) →
      Starts file tokens (.association association) rest
  | ranking {tokens piece rest : List Token} {ranking : Ranking} :
    Spells file piece (.ranking ranking) → tokens = piece ++ rest →
      Starts file tokens (.ranking ranking) rest

section Declarations

variable {depth : Nat} {file : String} {tokens rest : List Token} {node : Node}

/-- The words of an association, as its rule takes them. -/
theorem association_ok_iff :
    parseRule grammar (depth + 4) "association" tokens = some (.ok (node, rest)) ↔
      ∃ first second target source clause inTarget inSource afterSource,
        tokens = first :: inTarget ∧ first.word = "associate" ∧
        parseRule grammar (depth + 3) "where-clause" inTarget =
          some (.ok (target, second :: inSource)) ∧ second.word = "with" ∧
        parseRule grammar (depth + 3) "what-clause" inSource = some (.ok (source, afterSource)) ∧
        (parseRule grammar (depth + 3) "using-clause" afterSource = some (.ok (clause, rest)) ∨
          (∃ failure, parseRule grammar (depth + 3) "using-clause" afterSource =
            some (.error failure)) ∧ clause = .absent ∧ rest = afterSource) ∧
        node = .fields [("where-clause", target), ("what-clause", source),
          ("using-clause", clause)] := by
  rw [parseRule_sequence_ok_iff (rule?_of_find? rfl)]
  simp only [parseElements_literal_ok_iff, parseElements_ref_ok_iff, parseRepeat_one,
    parseRepeat_optional_ok_iff, parseElements_nil_ok_iff]
  constructor
  · rintro ⟨_, ⟨first, inTarget, rfl, isFirst, target, _, _, isTarget, ⟨second, inSource, rfl,
      isSecond, source, afterSource, _, isSource, ⟨clause, _, _, isClause, ⟨rfl, rfl⟩, rfl⟩, rfl⟩,
      rfl⟩, rfl⟩
    exact ⟨first, second, target, source, clause, inTarget, inSource, afterSource, rfl, isFirst,
      isTarget, isSecond, isSource, isClause, rfl⟩
  · rintro ⟨first, second, target, source, clause, inTarget, inSource, afterSource, rfl, isFirst,
      isTarget, isSecond, isSource, isClause, rfl⟩
    exact ⟨_, ⟨first, inTarget, rfl, isFirst, target, _, _, isTarget, ⟨second, inSource, rfl,
      isSecond, source, afterSource, _, isSource, ⟨clause, _, _, isClause, ⟨rfl, rfl⟩, rfl⟩, rfl⟩,
      rfl⟩, rfl⟩

/-- The words of a ranking, as its rule takes them. -/
theorem ranking_ok_iff :
    parseRule grammar (depth + 4) "precedence" tokens = some (.ok (node, rest)) ↔
      ∃ first second higher third lower,
        tokens = first :: second :: higher :: third :: lower :: rest ∧
        first.word = "declare" ∧ second.word = "precedence" ∧ IsClassName higher.word ∧
        third.word = "over" ∧ IsClassName lower.word ∧
        node = .fields [("higher", .token higher), ("lower", .token lower)] := by
  have isHigher : grammar.rule? "higher" =
      some (.pattern ⟨anchored classNameText, .whole className⟩) := rule?_of_find? rfl
  have isLower : grammar.rule? "lower" =
      some (.pattern ⟨anchored classNameText, .whole className⟩) := rule?_of_find? rfl
  rw [parseRule_sequence_ok_iff (rule?_of_find? rfl)]
  simp only [parseElements_literal_ok_iff, parseElements_ref_ok_iff, parseRepeat_one,
    parseElements_nil_ok_iff, parseRule_pattern_ok_iff isHigher, parseRule_pattern_ok_iff isLower,
    accepts_className]
  constructor
  · rintro ⟨_, ⟨first, _, rfl, isFirst, second, _, rfl, isSecond, _, _, _, ⟨higher, rfl, names,
      rfl⟩, ⟨third, _, rfl, isThird, _, _, _, ⟨lower, rfl, names', rfl⟩, ⟨rfl, rfl⟩, rfl⟩, rfl⟩,
      rfl⟩
    exact ⟨first, second, higher, third, lower, rfl, isFirst, isSecond, names, isThird, names',
      rfl⟩
  · rintro ⟨first, second, higher, third, lower, rfl, isFirst, isSecond, names, isThird, names',
      rfl⟩
    exact ⟨_, ⟨first, _, rfl, isFirst, second, _, rfl, isSecond, _, _, _, ⟨higher, rfl, names,
      rfl⟩, ⟨third, _, rfl, isThird, _, _, _, ⟨lower, rfl, names', rfl⟩, ⟨rfl, rfl⟩, rfl⟩, rfl⟩,
      rfl⟩

theorem associationOfNode_fields {target source clause : Node} {found : Target}
    {produced : Source} {adapter? : Option ClassOperand}
    (isTarget : targetOfNode target = .ok found) (isSource : sourceOfNode source = .ok produced)
    (isClause : clause = .absent ∧ adapter? = none ∨ clause.isAbsent = false ∧
      ∃ adapter, classOperand clause "adapter-name" = .ok adapter ∧ adapter? = some adapter) :
    associationOfNode file (.fields [("where-clause", target), ("what-clause", source),
      ("using-clause", clause)]) = .ok ⟨found, produced, adapter?, ⟨file, found.line⟩⟩ := by
  have isFirst : child (.fields [("where-clause", target), ("what-clause", source),
      ("using-clause", clause)]) "where-clause" = .ok target := rfl
  have isSecond : child (.fields [("where-clause", target), ("what-clause", source),
      ("using-clause", clause)]) "what-clause" = .ok source := rfl
  have isThird : child (.fields [("where-clause", target), ("what-clause", source),
      ("using-clause", clause)]) "using-clause" = .ok clause := rfl
  unfold associationOfNode
  rw [isFirst, isSecond, isThird]
  simp only [bind, Except.bind, isTarget, isSource]
  rcases isClause with ⟨rfl, rfl⟩ | ⟨present, adapter, isAdapter, rfl⟩
  · rfl
  · simp [present, isAdapter, Functor.map, Except.map, pure, Except.pure]

/-- What the rule for declarations reads is a declaration that the words start with. -/
theorem declaration_of_parse (file : String)
    (ok : parseRule grammar (depth + 5) "declaration" tokens = some (.ok (node, rest))) :
    ∃ declaration, Starts file tokens declaration rest ∧ ofNode file node = .ok declaration := by
  rw [parseRule_alternation (rule?_of_find? rfl), parseAlternatives_ok_iff] at ok
  obtain ⟨before, chosen, after, value, split, -, ok, rfl⟩ := ok
  have member : chosen ∈ ["association", "precedence"] := by
    rw [split]
    simp
  simp only [List.mem_cons, List.not_mem_nil, or_false] at member
  rcases member with rfl | rfl
  · obtain ⟨first, second, target, source, clause, inTarget, inSource, afterSource, rfl, isFirst,
      isTarget, isSecond, isSource, isClause, rfl⟩ := association_ok_iff.1 ok
    obtain ⟨targetWords, found, rfl, spellsTarget, ofTarget⟩ := target_of_parse isTarget
    obtain ⟨sourceWords, produced, rfl, spellsSource, ofSource⟩ := source_of_parse isSource
    rcases isClause with isClause | ⟨⟨failure, failed⟩, rfl, rfl⟩
    · obtain ⟨adapterWords, adapter, rfl, spellsAdapter, present, ofAdapter⟩ :=
        adapter_of_parse isClause
      refine ⟨_, .association (.adapted isFirst spellsTarget isSecond spellsSource spellsAdapter)
        (by simp) (fun none => nomatch none), ?_⟩
      simp [ofNode, Node.choice?, associationOfNode_fields ofTarget ofSource
        (.inr ⟨present, adapter, ofAdapter, rfl⟩), Except.map]
    · refine ⟨_, .association (.association isFirst spellsTarget isSecond spellsSource)
        (by simp) fun _ asked adapter more spells same => ?_, ?_⟩
      -- the rule for adapters failed here, so none is asked for
      · have read : ∃ clause, parseRule grammar (depth + 3) "using-clause" (asked ++ more) =
            some (.ok (clause, more)) ∧ _ := parse_of_adapter spells more
        obtain ⟨_, ok, _⟩ := read
        rw [← same] at ok
        cases failed.symm.trans ok
      · simp [ofNode, Node.choice?, associationOfNode_fields ofTarget ofSource (.inl ⟨rfl, rfl⟩),
          Except.map]
  · obtain ⟨first, second, higher, third, lower, rfl, isFirst, isSecond, isHigher, isThird,
      isLower, rfl⟩ := ranking_ok_iff.1 ok
    exact ⟨_, .ranking (.ranking isFirst isSecond ⟨isHigher, rfl⟩ isThird ⟨isLower, rfl⟩) rfl, rfl⟩

/-- The words of an association are read by its rule, where an adapter asked for next is its own. -/
theorem parse_of_association {piece : List Token} {association : Association}
    (spells : Spells file piece (.association association))
    (greedy : association.using? = none →
      ∀ asked adapter more, SpellsAdapter asked adapter → rest ≠ asked ++ more) :
    ∃ node, parseRule grammar (depth + 4) "association" (piece ++ rest) =
      some (.ok (node, rest)) ∧ associationOfNode file node = .ok association := by
  cases spells with
  | association isFirst spellsTarget isSecond spellsSource =>
    obtain ⟨target, isTarget, ofTarget⟩ := parse_of_target spellsTarget (_ :: _ ++ rest)
    obtain ⟨source, isSource, ofSource⟩ := parse_of_source spellsSource rest
    have failed : ∃ failure, parseRule grammar (depth + 3) "using-clause" rest =
        some (.error failure) := by
      refine error_of_not_ok (parseRule_isSome ranked_level (by simp [level]) _) ?_
      intro clause more ok
      obtain ⟨asked, adapter, same, spells, _⟩ := adapter_of_parse ok
      exact greedy rfl asked adapter more spells same
    refine ⟨_, association_ok_iff.2 ⟨_, _, target, source, .absent, _, _, rest, by simp, isFirst,
      isTarget, isSecond, isSource, .inr ⟨failed, rfl, rfl⟩, rfl⟩, ?_⟩
    exact associationOfNode_fields ofTarget ofSource (.inl ⟨rfl, rfl⟩)
  | @adapted _ second inTarget inSource inAdapter _ _ _ isFirst spellsTarget isSecond spellsSource
      spellsAdapter =>
    obtain ⟨target, isTarget, ofTarget⟩ :=
      parse_of_target spellsTarget (second :: inSource ++ inAdapter ++ rest)
    obtain ⟨source, isSource, ofSource⟩ := parse_of_source spellsSource (inAdapter ++ rest)
    have read : ∃ clause, parseRule grammar (depth + 3) "using-clause" (inAdapter ++ rest) =
        some (.ok (clause, rest)) ∧ _ := parse_of_adapter spellsAdapter rest
    obtain ⟨clause, isClause, present, ofAdapter⟩ := read
    refine ⟨_, association_ok_iff.2 ⟨_, _, target, source, clause, _, _, inAdapter ++ rest,
      by simp, isFirst, isTarget, isSecond, by simpa using isSource, .inl isClause, rfl⟩, ?_⟩
    exact associationOfNode_fields ofTarget ofSource (.inr ⟨present, _, ofAdapter, rfl⟩)

/-- The words of a ranking are read by its rule, and not by that for associations. -/
theorem parse_of_ranking {piece : List Token} {ranking : Ranking}
    (spells : Spells file piece (.ranking ranking)) (rest : List Token) :
    ∃ node, parseRule grammar (depth + 4) "precedence" (piece ++ rest) = some (.ok (node, rest)) ∧
      rankingOfNode file node = .ok ranking ∧
      ∃ failure, parseRule grammar (depth + 4) "association" (piece ++ rest) =
        some (.error failure) := by
  cases spells with
  | @ranking first second third higher lower _ _ isFirst isSecond isHigher isThird isLower =>
    refine ⟨_, ranking_ok_iff.2 ⟨first, second, higher, third, lower, rfl, isFirst, isSecond,
      isHigher.1, isThird, isLower.1, rfl⟩, ?_, ?_⟩
    · rw [isHigher.2, isLower.2]
      rfl
    -- the first keyword alone rules an association out
    · refine error_of_not_ok (parseRule_isSome ranked_level (by simp [level]) _) ?_
      intro node more ok
      obtain ⟨_, _, _, _, _, _, _, _, same, other, _⟩ := association_ok_iff.1 ok
      rw [← (List.cons.inj same).1, isFirst] at other
      exact absurd other (by decide)

/-- A declaration that words start with is read by the rule for declarations. -/
theorem parse_of_starts {declaration : Declaration}
    (starts : Starts file tokens declaration rest) :
    ∃ node, parseRule grammar (depth + 5) "declaration" tokens = some (.ok (node, rest)) ∧
      ofNode file node = .ok declaration := by
  have isDeclaration : grammar.rule? "declaration" =
      some (.alternation ["association", "precedence"]) := rule?_of_find? rfl
  cases starts with
  | association spells split greedy =>
    subst split
    obtain ⟨value, ok, ofValue⟩ := parse_of_association spells greedy
    refine ⟨.choice "association" value, ?_, ?_⟩
    · rw [parseRule_alternation isDeclaration]
      exact parseAlternatives_ok_iff.2 ⟨[], _, _, value, rfl, by simp, ok, rfl⟩
    · simp [ofNode, Node.choice?, ofValue, Except.map]
  | ranking spells split =>
    subst split
    obtain ⟨value, ok, ofValue, failed⟩ := parse_of_ranking spells rest
    refine ⟨.choice "precedence" value, ?_, ?_⟩
    · rw [parseRule_alternation isDeclaration]
      exact parseAlternatives_ok_iff.2 ⟨["association"], "precedence", [], value, rfl,
        by simpa using failed, ok, rfl⟩
    · simp [ofNode, Node.choice?, ofValue, Except.map]

end Declarations

end AdapterWiring.Declaration
