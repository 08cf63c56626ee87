import AdapterWiring.Grammar.Build
import AdapterWiring.Proofs.Grammar.Derivation
import AdapterWiring.Proofs.Grammar.Readers
import AdapterWiring.Proofs.Pattern.Compiled
import Mathlib

/-!
# Parsing finds derivations

What is parsed is derived: the words that are taken are those of a derivation
whose tree is the one returned. The parser does not lose any of them, since
building a grammar leaves no sequence that would have two trees for one name.

* **WellFormed, wellFormed_of_build** — what building a grammar promises.
* **Takes** — a list of words starts with those of a derivation.
* **Sound** — a reader of rules that takes what rules derive; the parts of a
  rule are read soundly with such a reader.
* **parse_sound** — every parse of a rule or of a whole text is a derivation.
-/

namespace AdapterWiring.Grammar

/-! ## Grammars that are built -/

section Results

variable {ε α β : Type}

theorem bind_eq_ok_iff {first : Except ε α} {next : α → Except ε β} {result : β} :
    first >>= next = .ok result ↔ ∃ value, first = .ok value ∧ next value = .ok result := by
  cases first with
  | error failure => exact iff_of_false (fun ok => nomatch ok) (fun ⟨_, ok, _⟩ => nomatch ok)
  | ok value => exact ⟨fun ok => ⟨value, rfl, ok⟩, fun ⟨_, same, ok⟩ => by cases same; exact ok⟩

theorem exists_of_mem_mapM {change : α → Except ε β} {items : List α} {results : List β}
    (changed : items.mapM change = .ok results) :
    ∀ result ∈ results, ∃ item ∈ items, change item = .ok result := by
  induction items generalizing results with
  | nil =>
    cases changed
    simp
  | cons item items ih =>
    rw [List.mapM_cons] at changed
    obtain ⟨first, isFirst, changed⟩ := bind_eq_ok_iff.1 changed
    obtain ⟨others, later, same⟩ := bind_eq_ok_iff.1 changed
    cases same
    refine List.forall_mem_cons.2 ⟨⟨item, List.mem_cons_self .., isFirst⟩, fun result member => ?_⟩
    obtain ⟨source, isItem, ok⟩ := ih later result member
    exact ⟨source, List.mem_cons_of_mem _ isItem, ok⟩

end Results

/-- The names of a list are all different, and none is in a set. -/
def Fresh (seen : NameSet) (list : List String) : Prop :=
  list.Nodup ∧ ∀ name ∈ list, name ∉ seen

theorem Fresh.nil (seen : NameSet) : Fresh seen [] := ⟨.nil, by simp⟩

theorem Fresh.cons {seen : NameSet} {name : String} {rest : List String} (notSeen : name ∉ seen)
    (fresh : Fresh (seen.insert name) rest) : Fresh seen (name :: rest) := by
  obtain ⟨distinct, others⟩ := fresh
  have apart := fun other member => not_or.1 (mt NameSet.mem_insert.2 (others other member))
  exact ⟨List.nodup_cons.2 ⟨fun again => (apart _ again).1 rfl, distinct⟩,
    List.forall_mem_cons.2 ⟨notSeen, fun other member => (apart other member).2⟩⟩

/-- A sequence that is accepted refers to no rule twice. -/
theorem fresh_of_checkSequence {names : NameSet} {rule : String} {seen : NameSet}
    {references : List String} (checked : checkSequence names rule seen references = .ok ()) :
    Fresh seen references := by
  induction references generalizing seen with
  | nil => exact .nil seen
  | cons reference rest ih =>
    obtain ⟨_, _, checked⟩ := bind_eq_ok_iff.1 checked
    dsimp only at checked
    split at checked
    · cases checked
    next notSeen => exact .cons notSeen (ih checked)

variable {names : NameSet} {name : String} {definition : Definition}

theorem nodup_of_compileRule {elements : List Element}
    (compiled : compileRule names name definition = .ok (.sequence elements)) :
    (elements.filterMap Element.reference?).Nodup := by
  cases definition with
  | literal word => cases compiled
  | pattern source =>
    rw [compileRule] at compiled
    split at compiled <;> cases compiled
  | sequence written =>
    obtain ⟨_, checked, same⟩ := bind_eq_ok_iff.1 compiled
    cases same
    exact (fresh_of_checkSequence checked).1
  | alternation alternatives =>
    obtain ⟨_, _, same⟩ := bind_eq_ok_iff.1 compiled
    cases same

theorem compile?_of_compileRule {pattern : Pattern}
    (compiled : compileRule names name definition = .ok (.pattern pattern)) :
    ∃ source, Pattern.compile? source = some pattern := by
  cases definition with
  | literal word => cases compiled
  | pattern source =>
    rw [compileRule] at compiled
    split at compiled <;> cases compiled
    next found => exact ⟨source, found⟩
  | sequence written =>
    obtain ⟨_, _, same⟩ := bind_eq_ok_iff.1 compiled
    cases same
  | alternation alternatives =>
    obtain ⟨_, _, same⟩ := bind_eq_ok_iff.1 compiled
    cases same

variable {definitions : List (String × Definition)} {grammar : Grammar}

/-- Every rule of a grammar comes from the definition of its name. -/
theorem definition_of_build (built : build definitions = .ok grammar) {rule : Rule}
    (found : grammar.rule? name = some rule) :
    ∃ definition, (name, definition) ∈ definitions ∧
      compileRule (.ofList (definitions.map Prod.fst)) name definition = .ok rule := by
  unfold build at built
  split at built
  · cases built
  obtain ⟨rules, compiled, same⟩ := bind_eq_ok_iff.1 built
  cases same
  have listed : (name, rule) ∈ rules := by
    rw [rule?, NameMap.get?_ofList] at found
    exact List.mem_reverse.1 (SortedEntries.mem_of_find?_eq_some found)
  obtain ⟨⟨other, definition⟩, member, ok⟩ := exists_of_mem_mapM compiled _ listed
  dsimp only at ok
  cases accepted : compileRule (.ofList (definitions.map Prod.fst)) other definition with
  | error failure => rw [accepted] at ok; cases ok
  | ok compiledRule =>
    rw [accepted] at ok
    cases ok
    exact ⟨definition, member, accepted⟩

/-- Every rule of a grammar comes from a definition that was accepted. -/
theorem compileRule_of_build (built : build definitions = .ok grammar) {rule : Rule}
    (found : grammar.rule? name = some rule) :
    ∃ names definition, compileRule names name definition = .ok rule := by
  obtain ⟨definition, _, compiled⟩ := definition_of_build built found
  exact ⟨_, definition, compiled⟩

/-- What a grammar has to be for parsing to be sound: no sequence refers to a rule twice, and
patterns are searched for exactly. -/
structure WellFormed (grammar : Grammar) : Prop where
  once : grammar.RefersOnce
  patterns : ∀ name pattern, grammar.rule? name = some (.pattern pattern) → ∀ word,
    pattern.accepts word = true ↔ pattern.expr.Occurs word.toList

theorem wellFormed_of_build (built : build definitions = .ok grammar) : grammar.WellFormed where
  once name elements found := by
    obtain ⟨_, _, compiled⟩ := compileRule_of_build built found
    exact nodup_of_compileRule compiled
  patterns name pattern found word := by
    obtain ⟨_, _, compiled⟩ := compileRule_of_build built found
    obtain ⟨_, isPattern⟩ := compile?_of_compileRule compiled
    exact Pattern.accepts_iff_occurs isPattern word

/-! ## Reading parts of a rule -/

/-- A list of words consists of those of a derivation and the rest. -/
def Takes (tokens : List Token) (matched : List Match) (rest : List Token) : Prop :=
  tokens = matched.map Match.token ++ rest

theorem Takes.nil (tokens : List Token) : Takes tokens [] tokens := rfl

theorem Takes.append {tokens more rest : List Token} {first matched : List Match}
    (front : Takes tokens first more) (back : Takes more matched rest) :
    Takes tokens (first ++ matched) rest := by
  rw [Takes, List.map_append, List.append_assoc, ← back]
  exact front

/-- A reader of rules takes what rules derive, and returns the tree. -/
def Sound (grammar : Grammar) (parse : RuleReader) : Prop :=
  ∀ name tokens node rest, parse name tokens = some (.ok (node, rest)) →
    ∃ matched, Takes tokens matched rest ∧ grammar.Derives name matched node

section Parts

variable {parse : RuleReader} {tokens rest : List Token} {rule : String}

theorem Sound.many (sound : grammar.Sound parse) {nodes : List Node}
    (runs : Runs (parse rule) tokens nodes rest) :
    ∃ matched, Takes tokens matched rest ∧ grammar.DerivesMany rule matched nodes := by
  induction runs with
  | stop => exact ⟨[], .nil _, .nil⟩
  | idle ok =>
    obtain ⟨first, takes, derives⟩ := sound _ _ _ _ ok
    exact ⟨first ++ [], takes.append (.nil _), .cons derives .nil⟩
  | more ok _ _ ih =>
    obtain ⟨first, takes, derives⟩ := sound _ _ _ _ ok
    obtain ⟨matched, takesRest, many⟩ := ih
    exact ⟨first ++ matched, takes.append takesRest, .cons derives many⟩

theorem Sound.repeat (sound : grammar.Sound parse) {times : Repeat} {node : Node}
    (ok : parseRepeat (parse rule) times tokens = some (.ok (node, rest))) :
    ∃ matched, Takes tokens matched rest ∧ grammar.DerivesRepeat rule times matched node := by
  cases times with
  | one =>
    obtain ⟨matched, takes, derives⟩ := sound _ _ _ _ ok
    exact ⟨matched, takes, .one derives⟩
  | optional =>
    rcases parseRepeat_optional_ok_iff.1 ok with ok | ⟨_, rfl, rfl⟩
    · obtain ⟨matched, takes, derives⟩ := sound _ _ _ _ ok
      exact ⟨matched, takes, .present derives⟩
    · exact ⟨[], .nil _, .absent⟩
  | zeroOrMore =>
    obtain ⟨nodes, found, rfl⟩ := parseRepeat_zeroOrMore_ok_iff.1 ok
    obtain ⟨matched, takes, many⟩ := sound.many (parseMany_eq_some_iff.1 found)
    exact ⟨matched, takes, .zeroOrMore many⟩
  | oneOrMore =>
    obtain ⟨_, _, nodes, once, found, rfl⟩ := parseRepeat_oneOrMore_ok_iff.1 ok
    obtain ⟨first, takes, derives⟩ := sound _ _ _ _ once
    obtain ⟨matched, takesRest, many⟩ := sound.many (parseMany_eq_some_iff.1 found)
    exact ⟨first ++ matched, takes.append takesRest, .oneOrMore derives many⟩

theorem Sound.elements (sound : grammar.Sound parse) {elements : List Element}
    {members : List (String × Node)}
    (ok : parseElements parse elements tokens = some (.ok (members, rest))) :
    ∃ matched, Takes tokens matched rest ∧
      grammar.DerivesElements elements matched members := by
  induction elements generalizing tokens members with
  | nil =>
    obtain ⟨rfl, rfl⟩ := parseElements_nil_ok_iff.1 ok
    exact ⟨[], .nil _, .nil⟩
  | cons element elements ih =>
    cases element with
    | literal word =>
      obtain ⟨token, more, rfl, same, ok⟩ := parseElements_literal_ok_iff.1 ok
      obtain ⟨matched, takes, derives⟩ := ih ok
      exact ⟨.word token :: matched, congrArg (token :: ·) takes, .literal same derives⟩
    | ref rule times =>
      obtain ⟨node, more, others, repeated, later, rfl⟩ := parseElements_ref_ok_iff.1 ok
      obtain ⟨first, takes, derives⟩ := sound.repeat repeated
      obtain ⟨matched, takesRest, others⟩ := ih later
      exact ⟨first ++ matched, takes.append takesRest, .ref derives others⟩

end Parts

/-! ## Reading rules -/

/-- A rule that is read, however deep, is derived. -/
theorem sound_parseRule (wellFormed : grammar.WellFormed) (depth : Nat) :
    grammar.Sound (parseRule grammar depth) := by
  induction depth with
  | zero => exact fun _ _ _ _ ok => nomatch ok
  | succ depth sound =>
    -- the rules that a rule refers to are read one level less deep, so soundly
    intro name tokens node rest ok
    obtain ⟨rule, found⟩ := rule?_of_parseRule_ok ok
    cases rule with
    | literal word =>
      obtain ⟨token, rfl, same, rfl⟩ := (parseRule_literal_ok_iff found).1 ok
      exact ⟨[.word token], rfl, .literal found same⟩
    | pattern pattern =>
      obtain ⟨token, rfl, accepted, rfl⟩ := (parseRule_pattern_ok_iff found).1 ok
      exact ⟨[.leaf token], rfl,
        .pattern found ((wellFormed.patterns name pattern found token.word).1 accepted)⟩
    | sequence elements =>
      obtain ⟨members, inRow, rfl⟩ := (parseRule_sequence_ok_iff found).1 ok
      obtain ⟨matched, takes, derives⟩ := sound.elements inRow
      exact ⟨matched, takes, .sequence found derives⟩
    | alternation alternatives =>
      rw [parseRule_alternation found] at ok
      obtain ⟨before, chosen, after, value, rfl, _, one, rfl⟩ := parseAlternatives_ok_iff.1 ok
      obtain ⟨matched, takes, derives⟩ := sound _ _ _ _ one
      exact ⟨matched, takes, .alternation found (by simp) derives⟩

theorem parseRule_of_parse {start : String} {tokens : List Token} {node : Node}
    (parsed : parse grammar start tokens = .ok node) :
    parseRule grammar (depthBound grammar tokens) start tokens = some (.ok (node, [])) := by
  unfold parse at parsed
  split at parsed
  · cases parsed
  · cases parsed
  next found =>
    cases parsed
    exact found
  · split at parsed <;> cases parsed

/-- **Soundness.** Let a grammar be built from definitions. Where a rule can be read, the list of
words is that of a derivation from the rule, followed by the rest; the tree is that of the
derivation, and its leaves are the words that patterns stand for, each once and in order, every
other word being that of a literal. A text that is parsed as a whole is derived as a whole. -/
theorem parse_sound (definitions : List (String × Definition)) (grammar : Grammar)
    (built : build definitions = .ok grammar) :
    (∀ depth name tokens node rest,
      parseRule grammar depth name tokens = some (.ok (node, rest)) →
        ∃ matched, tokens = matched.map Match.token ++ rest ∧ grammar.Derives name matched node ∧
          node.leaves = matched.filterMap Match.leaf?) ∧
    ∀ start tokens node, parse grammar start tokens = .ok node →
      ∃ matched, tokens = matched.map Match.token ∧ grammar.Derives start matched node ∧
        node.leaves = matched.filterMap Match.leaf? := by
  have wellFormed := wellFormed_of_build built
  have rules : ∀ depth name tokens node rest,
      parseRule grammar depth name tokens = some (.ok (node, rest)) →
        ∃ matched, tokens = matched.map Match.token ++ rest ∧ grammar.Derives name matched node ∧
          node.leaves = matched.filterMap Match.leaf? := by
    intro depth name tokens node rest ok
    obtain ⟨matched, takes, derives⟩ := sound_parseRule wellFormed depth _ _ _ _ ok
    exact ⟨matched, takes, derives, derives.leaves_eq wellFormed.once⟩
  refine ⟨rules, fun start tokens node parsed => ?_⟩
  obtain ⟨matched, takes, found⟩ := rules _ _ _ _ _ (parseRule_of_parse parsed)
  exact ⟨matched, by rwa [List.append_nil] at takes, found⟩

/-- Sums of numbers and a variable, as definitions. -/
def sums : List (String × Definition) :=
  [("sum", .sequence [.ref "term" .one, .ref "more" .zeroOrMore]),
    ("more", .sequence [.literal "+", .ref "term" .one]),
    ("term", .alternation ["number", "variable"]), ("number", .pattern "[0-9]+"),
    ("variable", .literal "x")]

/-- Their grammar. -/
def sumGrammar : Grammar :=
  ⟨.ofList [("sum", .sequence [.ref "term" .one, .ref "more" .zeroOrMore]),
    ("more", .sequence [.literal "+", .ref "term" .one]),
    ("term", .alternation ["number", "variable"]),
    ("number", .pattern ⟨"^(?:[0-9]+)$",
      .whole (.plus (.one (.union .none (.range '0' '9'))))⟩),
    ("variable", .literal "x")]⟩

/-- The words of a sum. -/
def sumText : List Token := [⟨"x", 1⟩, ⟨"+", 1⟩, ⟨"12", 2⟩]

/-- Its tree. -/
def sumTree : Node :=
  .fields [("term", .choice "variable" .literal),
    ("more", .list [.fields [("term", .choice "number" (.token ⟨"12", 2⟩))]])]

theorem parse_sound_sums :
    build sums = .ok sumGrammar ∧
    (parseRule sumGrammar 1 "variable" sumText = some (.ok (.literal, sumText.drop 1)) ∧
      ∃ matched, sumText = matched.map Match.token ++ sumText.drop 1 ∧
        sumGrammar.Derives "variable" matched .literal ∧
        Node.literal.leaves = matched.filterMap Match.leaf?) ∧
    parse sumGrammar "sum" sumText = .ok sumTree ∧
      ∃ matched, sumText = matched.map Match.token ∧ sumGrammar.Derives "sum" matched sumTree ∧
        sumTree.leaves = matched.filterMap Match.leaf? := by
  have built : build sums = .ok sumGrammar := by cbv
  have one : parseRule sumGrammar 1 "variable" sumText =
      some (.ok (.literal, sumText.drop 1)) := by cbv
  have whole : parse sumGrammar "sum" sumText = .ok sumTree := by cbv
  obtain ⟨rules, texts⟩ := parse_sound sums sumGrammar built
  exact ⟨built, ⟨one, rules _ _ _ _ _ one⟩, whole, texts _ _ _ whole⟩

end AdapterWiring.Grammar
