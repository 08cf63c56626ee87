import AdapterWiring.Proofs.Grammar.Soundness

/-!
# The shapes of trees

What a tree looks like follows from the rule that it was read as: a sequence has
a tree for each of its references, and a reference a list, a tree or nothing as
its repetition says. So whoever reads a tree can ask for exactly its parts.

* **Shaped, ShapedRef** — the trees of a rule and of a reference to it.
* **Derives.shaped** — the tree of a derivation has the shape of its rule.
* **Part** — the trees that a tree is made of.
* **AbsentWhereOptional** — nothing is absent in a tree but what is directly
  under an optional reference.
* **parse_shaped** — what is read has the shape of its rule.
-/

namespace AdapterWiring

/-- The trees that a tree is made of, itself among them. -/
inductive Node.Part : Node → Node → Prop
  | refl (node : Node) : Part node node
  | member {part child : Node} {name : String} {members : List (String × Node)} :
    (name, child) ∈ members → Part part child → Part part (.fields members)
  | choice {part value : Node} {rule : String} : Part part value → Part part (.choice rule value)
  | item {part child : Node} {items : List Node} : child ∈ items → Part part child →
    Part part (.list items)

namespace Grammar

/-! ## Shapes -/

section

variable (grammar : Grammar)

mutual

/-- The trees of a rule. -/
inductive Shaped : String → Node → Prop
  | literal {name word : String} : grammar.rule? name = some (.literal word) → Shaped name .literal
  | pattern {name : String} {pattern : Pattern} {token : Token} :
    grammar.rule? name = some (.pattern pattern) → pattern.expr.Occurs token.word.toList →
      Shaped name (.token token)
  | sequence {name : String} {elements : List Element} {members : List (String × Node)} :
    grammar.rule? name = some (.sequence elements) →
    members.map Prod.fst = elements.filterMap Element.reference? →
    (members.map Prod.fst).Nodup →
    (∀ rule times node, .ref rule times ∈ elements → (rule, node) ∈ members →
      ShapedRef rule times node) → Shaped name (.fields members)
  | alternation {name chosen : String} {alternatives : List String} {node : Node} :
    grammar.rule? name = some (.alternation alternatives) → chosen ∈ alternatives →
      Shaped chosen node → Shaped name (.choice chosen node)

/-- The trees of a reference to a rule. -/
inductive ShapedRef : String → Repeat → Node → Prop
  | one {rule : String} {node : Node} : Shaped rule node → ShapedRef rule .one node
  | present {rule : String} {node : Node} : Shaped rule node → ShapedRef rule .optional node
  | absent {rule : String} : ShapedRef rule .optional .absent
  | zeroOrMore {rule : String} {items : List Node} : (∀ item ∈ items, Shaped rule item) →
    ShapedRef rule .zeroOrMore (.list items)
  | oneOrMore {rule : String} {items : List Node} : items ≠ [] →
    (∀ item ∈ items, Shaped rule item) → ShapedRef rule .oneOrMore (.list items)

end

/-- Nothing is absent in a tree but what is directly under an optional reference of a sequence. -/
structure AbsentWhereOptional (whole : Node) : Prop where
  present : whole ≠ .absent
  choice : ∀ rule, ¬ Node.Part (.choice rule .absent) whole
  list : ∀ items, Node.Part (.list items) whole → .absent ∉ items
  fields : ∀ members name, Node.Part (.fields members) whole → (name, .absent) ∈ members →
    ∃ owner elements, grammar.rule? owner = some (.sequence elements) ∧
      .ref name .optional ∈ elements ∧ grammar.Shaped owner (.fields members)

end

variable {grammar : Grammar} {name rule : String} {times : Repeat} {node : Node}
  {members : List (String × Node)}

/-! ## Shapes of derivations -/

theorem DerivesElements.map_fst {elements : List Element} {matched : List Match}
    (derives : grammar.DerivesElements elements matched members) :
    members.map Prod.fst = elements.filterMap Element.reference? := by
  induction elements generalizing matched members with
  | nil =>
    cases derives
    rfl
  | cons element elements ih =>
    cases derives with
    | literal _ rest => exact ih rest
    | ref _ rest => exact congrArg (_ :: ·) (ih rest)

mutual

/-- The tree of a derivation has the shape of its rule. -/
theorem Derives.shaped (once : grammar.RefersOnce) {name : String} {matched : List Match}
    {node : Node} : grammar.Derives name matched node → grammar.Shaped name node
  | .literal found _ => .literal found
  | .pattern found occurs => .pattern found occurs
  | .sequence found elements =>
    .sequence found elements.map_fst (elements.map_fst ▸ once _ _ found)
      (elements.shaped once (once _ _ found))
  | .alternation found member chosen => .alternation found member (chosen.shaped once)

/-- The references have different names, so each of them has the tree under its name. -/
theorem DerivesElements.shaped (once : grammar.RefersOnce) {elements : List Element}
    {matched : List Match} {members : List (String × Node)} :
    grammar.DerivesElements elements matched members →
      (elements.filterMap Element.reference?).Nodup → ∀ rule times node,
        .ref rule times ∈ elements → (rule, node) ∈ members → grammar.ShapedRef rule times node
  | .nil, _, _, _, _, isElement, _ => nomatch isElement
  | .literal _ rest, distinct, rule, times, node, isElement, isMember =>
    rest.shaped once distinct rule times node
      ((List.mem_cons.1 isElement).resolve_left nofun) isMember
  | .ref first rest, distinct, rule, times, node, isElement, isMember => by
    obtain ⟨notLater, distinctRest⟩ := List.nodup_cons.1 distinct
    rcases List.mem_cons.1 isElement with same | laterElement
    · cases same
      rcases List.mem_cons.1 isMember with same | laterMember
      · cases same
        exact first.shaped once
      · have later := List.mem_map_of_mem (f := Prod.fst) laterMember
        rw [rest.map_fst] at later
        exact absurd later notLater
    · rcases List.mem_cons.1 isMember with same | laterMember
      · have later := List.mem_filterMap (f := Element.reference?).2 ⟨_, laterElement, rfl⟩
        rw [(Prod.mk.inj same).1] at later
        exact absurd later notLater
      · exact rest.shaped once distinctRest rule times node laterElement laterMember

theorem DerivesRepeat.shaped (once : grammar.RefersOnce) {rule : String} {times : Repeat}
    {matched : List Match} {node : Node} :
    grammar.DerivesRepeat rule times matched node → grammar.ShapedRef rule times node
  | .one only => .one (only.shaped once)
  | .present only => .present (only.shaped once)
  | .absent => .absent
  | .zeroOrMore many => .zeroOrMore (many.shaped once)
  | .oneOrMore first many =>
    .oneOrMore (List.cons_ne_nil _ _)
      (List.forall_mem_cons.2 ⟨first.shaped once, many.shaped once⟩)

theorem DerivesMany.shaped (once : grammar.RefersOnce) {rule : String} {matched : List Match}
    {nodes : List Node} :
    grammar.DerivesMany rule matched nodes → ∀ item ∈ nodes, grammar.Shaped rule item
  | .nil => fun _ member => nomatch member
  | .cons first many => List.forall_mem_cons.2 ⟨first.shaped once, many.shaped once⟩

end

/-! ## Parts of trees -/

theorem Shaped.ne_absent (shaped : grammar.Shaped name node) : node ≠ .absent := by
  rintro rfl
  cases shaped

/-- A reference with a tree that is neither a list nor absent has the tree of its rule. -/
theorem ShapedRef.shaped (shaped : grammar.ShapedRef rule times node)
    (notList : ∀ items, node ≠ .list items) (present : node ≠ .absent) :
    grammar.Shaped rule node := by
  cases shaped with
  | one shaped => exact shaped
  | present shaped => exact shaped
  | absent => exact absurd rfl present
  | zeroOrMore _ => exact absurd rfl (notList _)
  | oneOrMore _ _ => exact absurd rfl (notList _)

theorem ShapedRef.items {items : List Node} (shaped : grammar.ShapedRef rule times (.list items)) :
    ∀ item ∈ items, grammar.Shaped rule item := by
  cases shaped with
  | one shaped => cases shaped
  | present shaped => cases shaped
  | zeroOrMore each => exact each
  | oneOrMore _ each => exact each

theorem Shaped.choice (shaped : grammar.Shaped name (.choice rule node)) :
    grammar.Shaped rule node := by
  cases shaped with
  | alternation _ _ chosen => exact chosen

/-- Each tree of a sequence is that of a reference. -/
theorem Shaped.member {child : Node} {reference : String}
    (shaped : grammar.Shaped name (.fields members)) (member : (reference, child) ∈ members) :
    ∃ elements times, grammar.rule? name = some (.sequence elements) ∧
      .ref reference times ∈ elements ∧ grammar.ShapedRef reference times child := by
  cases shaped with
  | sequence found keys _ each =>
    have isKey := List.mem_map_of_mem (f := Prod.fst) member
    rw [keys] at isKey
    obtain ⟨element, isElement, refers⟩ := List.mem_filterMap.1 isKey
    cases element with
    | literal word => cases refers
    | ref rule times =>
      cases refers
      exact ⟨_, times, found, isElement, each _ times child isElement member⟩

/-- The parts of the tree of a reference are those of references. -/
theorem ShapedRef.exists_part {part : Node} (isPart : Node.Part part node)
    (shaped : grammar.ShapedRef rule times node) :
    ∃ rule times, grammar.ShapedRef rule times part := by
  induction isPart generalizing rule times with
  | refl => exact ⟨rule, times, shaped⟩
  | member member _ ih =>
    obtain ⟨_, _, _, _, child⟩ := (shaped.shaped nofun nofun).member member
    exact ih child
  | choice _ ih => exact ih (.one (shaped.shaped nofun nofun).choice)
  | item member _ ih => exact ih (.one (shaped.items _ member))

theorem Shaped.absentWhereOptional (shaped : grammar.Shaped name node) :
    grammar.AbsentWhereOptional node where
  present := shaped.ne_absent
  choice rule isPart := by
    obtain ⟨_, _, part⟩ := ShapedRef.exists_part isPart (.one shaped)
    exact (part.shaped nofun nofun).choice.ne_absent rfl
  list items isPart member := by
    obtain ⟨_, _, part⟩ := ShapedRef.exists_part isPart (.one shaped)
    exact (part.items _ member).ne_absent rfl
  fields members reference isPart member := by
    obtain ⟨owner, _, part⟩ := ShapedRef.exists_part isPart (.one shaped)
    have whole := part.shaped nofun nofun
    obtain ⟨elements, times, found, isElement, absent⟩ := whole.member member
    refine ⟨owner, elements, found, ?_, whole⟩
    -- only a reference that may be left out has nothing for its tree
    cases absent with
    | one shaped => exact absurd rfl shaped.ne_absent
    | present shaped => exact absurd rfl shaped.ne_absent
    | absent => exact isElement

/-! ## Trees that are read -/

/-- **Shapes.** Let a grammar be built from definitions. The tree of a rule that is read has the
shape of the rule, nothing is absent in it but what is directly under an optional reference, and the
tree of a pattern is the first word, which the pattern matches. So it is with whole texts. -/
theorem parse_shaped (definitions : List (String × Definition)) (grammar : Grammar)
    (built : build definitions = .ok grammar) :
    (∀ depth name tokens node rest,
      parseRule grammar depth name tokens = some (.ok (node, rest)) →
        grammar.Shaped name node ∧ grammar.AbsentWhereOptional node ∧
        ∀ pattern, grammar.rule? name = some (.pattern pattern) → ∃ token,
          tokens = token :: rest ∧ node = .token token ∧
          pattern.expr.Occurs token.word.toList) ∧
    ∀ start tokens node, parse grammar start tokens = .ok node →
      grammar.Shaped start node ∧ grammar.AbsentWhereOptional node := by
  have wellFormed := wellFormed_of_build built
  have shapes {depth : Nat} {name : String} {tokens rest : List Token} {node : Node}
      (ok : parseRule grammar depth name tokens = some (.ok (node, rest))) :
      grammar.Shaped name node := by
    obtain ⟨_, _, derives⟩ := sound_parseRule wellFormed depth _ _ _ _ ok
    exact derives.shaped wellFormed.once
  constructor
  · intro depth name tokens node rest ok
    refine ⟨shapes ok, (shapes ok).absentWhereOptional, fun pattern found => ?_⟩
    cases depth with
    | zero => cases ok
    | succ depth =>
      obtain ⟨token, split, accepted, isToken⟩ := (parseRule_pattern_ok_iff found).1 ok
      exact ⟨token, split, isToken, (wellFormed.patterns name pattern found _).1 accepted⟩
  · intro start tokens node parsed
    have shaped := shapes (parseRule_of_parse parsed)
    exact ⟨shaped, shaped.absentWhereOptional⟩

/-- Marked words in brackets, each with at most one other in front, as definitions. -/
def groups : List (String × Definition) :=
  [("group", .sequence [.literal "(", .ref "group" .optional, .ref "mark" .oneOrMore,
      .ref "word" .one, .literal ")"]),
    ("mark", .alternation ["plus", "minus"]), ("plus", .literal "+"), ("minus", .literal "-"),
    ("word", .pattern "[a-z]+")]

/-- Their grammar. -/
def groupGrammar : Grammar :=
  ⟨.ofList [("group", .sequence [.literal "(", .ref "group" .optional, .ref "mark" .oneOrMore,
      .ref "word" .one, .literal ")"]),
    ("mark", .alternation ["plus", "minus"]), ("plus", .literal "+"), ("minus", .literal "-"),
    ("word", .pattern ⟨"^(?:[a-z]+)$", .whole (.plus (.one (.union .none (.range 'a' 'z'))))⟩)]⟩

/-- The words of a marked word with another in front. -/
def groupText : List Token :=
  [⟨"(", 1⟩, ⟨"(", 1⟩, ⟨"+", 1⟩, ⟨"a", 1⟩, ⟨")", 1⟩, ⟨"-", 2⟩, ⟨"+", 2⟩, ⟨"b", 2⟩, ⟨")", 2⟩]

/-- Its tree. -/
def groupTree : Node :=
  .fields [
    ("group", .fields [("group", .absent), ("mark", .list [.choice "plus" .literal]),
      ("word", .token ⟨"a", 1⟩)]),
    ("mark", .list [.choice "minus" .literal, .choice "plus" .literal]),
    ("word", .token ⟨"b", 2⟩)]

theorem parse_shaped_groups :
    build groups = .ok groupGrammar ∧
    (parseRule groupGrammar 1 "word" [⟨"a", 1⟩, ⟨")", 1⟩] =
        some (.ok (.token ⟨"a", 1⟩, [⟨")", 1⟩])) ∧
      groupGrammar.Shaped "word" (.token ⟨"a", 1⟩) ∧
      groupGrammar.AbsentWhereOptional (.token ⟨"a", 1⟩) ∧
      ∀ pattern, groupGrammar.rule? "word" = some (.pattern pattern) → ∃ token,
        [(⟨"a", 1⟩ : Token), ⟨")", 1⟩] = token :: [⟨")", 1⟩] ∧ .token ⟨"a", 1⟩ = Node.token token ∧
          pattern.expr.Occurs token.word.toList) ∧
    parse groupGrammar "group" groupText = .ok groupTree ∧
    groupGrammar.Shaped "group" groupTree ∧ groupGrammar.AbsentWhereOptional groupTree := by
  have built : build groups = .ok groupGrammar := by cbv
  have one : parseRule groupGrammar 1 "word" [⟨"a", 1⟩, ⟨")", 1⟩] =
      some (.ok (.token ⟨"a", 1⟩, [⟨")", 1⟩])) := by cbv
  have whole : parse groupGrammar "group" groupText = .ok groupTree := by cbv
  obtain ⟨rules, texts⟩ := parse_shaped groups groupGrammar built
  exact ⟨built, ⟨one, rules _ _ _ _ _ one⟩, whole, texts _ _ _ whole⟩

end Grammar

end AdapterWiring
