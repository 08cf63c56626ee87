import AdapterWiring.Grammar.Node
import AdapterWiring.Grammar.Rule
import AdapterWiring.Proofs.Pattern.Search
import Mathlib.Computability.Language

/-!
# What a grammar derives

A grammar has a meaning apart from how it is parsed: a sequence stands for
texts in a row, an alternation for any one of several texts, and a repetition
for texts repeated. A derivation has a tree, in which the words that patterns
stand for are the leaves; the words of literals are left out of it.

* **Match** — a word of a derivation, and whether it is a leaf.
* **Derives** — the words that a rule derives, with the tree.
* **language, language_least** — the texts that rules derive are the least
  languages that the rules are true of.
* **Node.leaves, Derives.leaves_eq** — where no sequence refers to a rule twice,
  the leaves of the tree are those of the derivation, each once and in order.
-/

namespace AdapterWiring

/-- A word of a derivation. -/
inductive Match where
  /-- A word that a literal asks for. -/
  | word (token : Token)
  /-- A word that a pattern stands for. -/
  | leaf (token : Token)

namespace Match

/-- The word. -/
def token : Match → Token
  | word token => token
  | leaf token => token

/-- The word, if it is a leaf. -/
def leaf? : Match → Option Token
  | word _ => none
  | leaf token => some token

end Match

/-! ## Leaves -/

namespace Node

mutual

/-- The words in a tree. Of several trees with one name only the first can be asked for, so the
others do not count. -/
def leaves : Node → List Token
  | literal => []
  | token word => [word]
  | fields members => leavesOfMembers ∅ members
  | choice _ value => leaves value
  | list items => leavesOfItems items
  | absent => []

/-- The words in the trees of a sequence that have none of some names. -/
def leavesOfMembers (seen : NameSet) : List (String × Node) → List Token
  | [] => []
  | (name, node) :: rest =>
    if name ∈ seen then leavesOfMembers seen rest
    else leaves node ++ leavesOfMembers (seen.insert name) rest

/-- The words in the trees of a repetition. -/
def leavesOfItems : List Node → List Token
  | [] => []
  | node :: rest => leaves node ++ leavesOfItems rest

end

end Node

namespace Grammar

open scoped Computability

/-! ## Derivations -/

section

variable (grammar : Grammar)

mutual

/-- The words that a rule derives, with the tree. -/
inductive Derives : String → List Match → Node → Prop
  | literal {name word : String} {token : Token} : grammar.rule? name = some (.literal word) →
    token.word = word → Derives name [.word token] .literal
  | pattern {name : String} {pattern : Pattern} {token : Token} :
    grammar.rule? name = some (.pattern pattern) → pattern.expr.Occurs token.word.toList →
      Derives name [.leaf token] (.token token)
  | sequence {name : String} {elements : List Element} {matched : List Match}
      {members : List (String × Node)} : grammar.rule? name = some (.sequence elements) →
    DerivesElements elements matched members → Derives name matched (.fields members)
  | alternation {name chosen : String} {alternatives : List String} {matched : List Match}
      {node : Node} : grammar.rule? name = some (.alternation alternatives) →
    chosen ∈ alternatives → Derives chosen matched node → Derives name matched (.choice chosen node)

/-- The words that elements in a row derive, with the trees of the references. -/
inductive DerivesElements : List Element → List Match → List (String × Node) → Prop
  | nil : DerivesElements [] [] []
  | literal {word : String} {token : Token} {elements : List Element} {matched : List Match}
      {members : List (String × Node)} : token.word = word →
    DerivesElements elements matched members →
      DerivesElements (.literal word :: elements) (.word token :: matched) members
  | ref {rule : String} {times : Repeat} {elements : List Element} {first matched : List Match}
      {node : Node} {members : List (String × Node)} : DerivesRepeat rule times first node →
    DerivesElements elements matched members →
      DerivesElements (.ref rule times :: elements) (first ++ matched) ((rule, node) :: members)

/-- The words that a rule derives when it is repeated as asked, with the tree. -/
inductive DerivesRepeat : String → Repeat → List Match → Node → Prop
  | one {rule : String} {matched : List Match} {node : Node} : Derives rule matched node →
    DerivesRepeat rule .one matched node
  | present {rule : String} {matched : List Match} {node : Node} : Derives rule matched node →
    DerivesRepeat rule .optional matched node
  | absent {rule : String} : DerivesRepeat rule .optional [] .absent
  | zeroOrMore {rule : String} {matched : List Match} {nodes : List Node} :
    DerivesMany rule matched nodes → DerivesRepeat rule .zeroOrMore matched (.list nodes)
  | oneOrMore {rule : String} {first matched : List Match} {node : Node} {nodes : List Node} :
    Derives rule first node → DerivesMany rule matched nodes →
      DerivesRepeat rule .oneOrMore (first ++ matched) (.list (node :: nodes))

/-- The words that a rule derives any number of times, with the trees. -/
inductive DerivesMany : String → List Match → List Node → Prop
  | nil {rule : String} : DerivesMany rule [] []
  | cons {rule : String} {first matched : List Match} {node : Node} {nodes : List Node} :
    Derives rule first node → DerivesMany rule matched nodes →
      DerivesMany rule (first ++ matched) (node :: nodes)

end

end

variable {grammar : Grammar}

/-! ## Leaves of derivations -/

/-- No sequence refers to a rule twice. -/
def RefersOnce (grammar : Grammar) : Prop :=
  ∀ name elements, grammar.rule? name = some (.sequence elements) →
    (elements.filterMap Element.reference?).Nodup

mutual

/-- The leaves of the tree are those of the derivation. -/
theorem Derives.leaves_eq (once : grammar.RefersOnce) {name : String} {matched : List Match}
    {node : Node} : grammar.Derives name matched node →
      node.leaves = matched.filterMap Match.leaf?
  | .literal _ _ => rfl
  | .pattern _ _ => rfl
  | .sequence found elements => elements.leaves_eq once ∅ (once _ _ found) (by simp)
  | .alternation _ _ chosen => chosen.leaves_eq once

/-- The names of the references are all different, so the tree of each is there to be asked for. -/
theorem DerivesElements.leaves_eq (once : grammar.RefersOnce) {elements : List Element}
    {matched : List Match} {members : List (String × Node)} (seen : NameSet) :
    grammar.DerivesElements elements matched members →
      (elements.filterMap Element.reference?).Nodup →
        (∀ reference ∈ elements.filterMap Element.reference?, reference ∉ seen) →
          Node.leavesOfMembers seen members = matched.filterMap Match.leaf?
  | .nil, _, _ => rfl
  | .literal _ rest, distinct, fresh => rest.leaves_eq once seen distinct fresh
  | .ref first rest, distinct, fresh => by
    obtain ⟨notLater, distinctRest⟩ := List.nodup_cons.1 distinct
    obtain ⟨isFresh, freshRest⟩ := List.forall_mem_cons.1 fresh
    -- no tree of this name comes before this one, so its leaves count
    rw [Node.leavesOfMembers, if_neg isFresh, List.filterMap_append, first.leaves_eq once]
    refine congrArg _ (rest.leaves_eq once _ distinctRest fun reference member => ?_)
    rw [NameSet.mem_insert]
    rintro (rfl | isSeen)
    · exact notLater member
    · exact freshRest reference member isSeen

theorem DerivesRepeat.leaves_eq (once : grammar.RefersOnce) {rule : String} {times : Repeat}
    {matched : List Match} {node : Node} : grammar.DerivesRepeat rule times matched node →
      node.leaves = matched.filterMap Match.leaf?
  | .one only => only.leaves_eq once
  | .present only => only.leaves_eq once
  | .absent => rfl
  | .zeroOrMore many => many.leaves_eq once
  | .oneOrMore first many => by
    rw [Node.leaves, Node.leavesOfItems, List.filterMap_append, first.leaves_eq once,
      many.leaves_eq once]

theorem DerivesMany.leaves_eq (once : grammar.RefersOnce) {rule : String} {matched : List Match}
    {nodes : List Node} : grammar.DerivesMany rule matched nodes →
      Node.leavesOfItems nodes = matched.filterMap Match.leaf?
  | .nil => rfl
  | .cons first many => by
    rw [Node.leavesOfItems, List.filterMap_append, first.leaves_eq once, many.leaves_eq once]

end

/-! ## Languages -/

/-- The texts that a repetition stands for. -/
def Repeat.reading (language : Language Token) : Repeat → Language Token
  | .one => language
  | .optional => language + 1
  | .zeroOrMore => language∗
  | .oneOrMore => language * language∗

/-- The texts that a part of a sequence stands for, given those of rules. -/
def Element.reading (languages : String → Language Token) : Element → Language Token
  | .literal word => {tokens | ∃ token, tokens = [token] ∧ token.word = word}
  | .ref rule times => Repeat.reading (languages rule) times

/-- The texts that a rule stands for, given those of the rules it refers to. -/
def reading (grammar : Grammar) (languages : String → Language Token) (name : String) :
    Language Token :=
  match grammar.rule? name with
  | none => 0
  | some (.literal word) => {tokens | ∃ token, tokens = [token] ∧ token.word = word}
  | some (.pattern pattern) =>
    {tokens | ∃ token, tokens = [token] ∧ pattern.expr.Occurs token.word.toList}
  | some (.sequence elements) => (elements.map (Element.reading languages)).prod
  | some (.alternation alternatives) =>
    {tokens | ∃ alternative ∈ alternatives, tokens ∈ languages alternative}

/-- What the rules stand for belongs to some languages. -/
def TrueOf (grammar : Grammar) (languages : String → Language Token) : Prop :=
  ∀ name, ∀ tokens ∈ grammar.reading languages name, tokens ∈ languages name

/-- The texts that a rule derives. -/
def language (grammar : Grammar) (name : String) : Language Token :=
  {tokens | ∃ matched node, grammar.Derives name matched node ∧ matched.map Match.token = tokens}

section

variable {languages : String → Language Token}

mutual

/-- A derived text is in every language that the rules are true of. -/
theorem Derives.mem (closed : grammar.TrueOf languages) {name : String}
    {matched : List Match} {node : Node} : grammar.Derives name matched node →
      matched.map Match.token ∈ languages name
  | .literal found same => closed name _ (by rw [reading, found]; exact ⟨_, rfl, same⟩)
  | .pattern found occurs => closed name _ (by rw [reading, found]; exact ⟨_, rfl, occurs⟩)
  | .sequence found elements => closed name _ (by rw [reading, found]; exact elements.mem closed)
  | .alternation found isAlternative chosen => closed name _ (by
    rw [reading, found]
    exact ⟨_, isAlternative, chosen.mem closed⟩)

theorem DerivesElements.mem (closed : grammar.TrueOf languages)
    {elements : List Element} {matched : List Match} {members : List (String × Node)} :
    grammar.DerivesElements elements matched members →
      matched.map Match.token ∈ (elements.map (Element.reading languages)).prod
  | .nil => Language.nil_mem_one
  | .literal same rest => by
    rw [List.map_cons, List.prod_cons]
    exact Language.append_mem_mul (a := [_]) ⟨_, rfl, same⟩ (rest.mem closed)
  | .ref first rest => by
    rw [List.map_cons, List.prod_cons, List.map_append]
    exact Language.append_mem_mul (first.mem closed) (rest.mem closed)

theorem DerivesRepeat.mem (closed : grammar.TrueOf languages) {rule : String}
    {times : Repeat} {matched : List Match} {node : Node} :
    grammar.DerivesRepeat rule times matched node →
      matched.map Match.token ∈ Repeat.reading (languages rule) times
  | .one only => only.mem closed
  | .present only => .inl (only.mem closed)
  | .absent => .inr rfl
  | .zeroOrMore many => many.mem closed
  | .oneOrMore first many => by
    rw [List.map_append]
    exact Language.append_mem_mul (first.mem closed) (many.mem closed)

theorem DerivesMany.mem (closed : grammar.TrueOf languages) {rule : String}
    {matched : List Match} {nodes : List Node} : grammar.DerivesMany rule matched nodes →
      matched.map Match.token ∈ (languages rule)∗
  | .nil => Language.nil_mem_kstar _
  | .cons first many => by
    rw [List.map_append]
    have repeated := Language.append_mem_mul (first.mem closed) (many.mem closed)
    rw [← Language.one_add_self_mul_kstar_eq_kstar]
    exact .inr repeated

end

end

theorem exists_derivesMany {rule : String} {tokens : List Token}
    (repeated : tokens ∈ (grammar.language rule)∗) :
    ∃ matched nodes, grammar.DerivesMany rule matched nodes ∧
      matched.map Match.token = tokens := by
  obtain ⟨parts, rfl, each⟩ := Language.mem_kstar.1 repeated
  induction parts with
  | nil => exact ⟨[], [], .nil, rfl⟩
  | cons part parts ih =>
    obtain ⟨⟨first, node, derived, rfl⟩, others⟩ := List.forall_mem_cons.1 each
    obtain ⟨matched, nodes, many, same⟩ := ih others (Language.join_mem_kstar others)
    exact ⟨first ++ matched, node :: nodes, .cons derived many, by simp [same]⟩

theorem exists_derivesRepeat {rule : String} {times : Repeat} {tokens : List Token}
    (member : tokens ∈ Repeat.reading (grammar.language rule) times) :
    ∃ matched node, grammar.DerivesRepeat rule times matched node ∧
      matched.map Match.token = tokens := by
  cases times with
  | one =>
    obtain ⟨matched, node, derived, same⟩ := member
    exact ⟨matched, node, .one derived, same⟩
  | optional =>
    rcases member with ⟨matched, node, derived, same⟩ | none
    · exact ⟨matched, node, .present derived, same⟩
    · exact ⟨[], .absent, .absent, none.symm⟩
  | zeroOrMore =>
    obtain ⟨matched, nodes, many, same⟩ := exists_derivesMany member
    exact ⟨matched, .list nodes, .zeroOrMore many, same⟩
  | oneOrMore =>
    obtain ⟨_, ⟨first, node, derived, rfl⟩, others, repeated, rfl⟩ := Language.mem_mul.1 member
    obtain ⟨matched, nodes, many, rfl⟩ := exists_derivesMany repeated
    exact ⟨first ++ matched, .list (node :: nodes), .oneOrMore derived many, List.map_append⟩

theorem exists_derivesElements {elements : List Element} {tokens : List Token}
    (member : tokens ∈ (elements.map (Element.reading grammar.language)).prod) :
    ∃ matched members, grammar.DerivesElements elements matched members ∧
      matched.map Match.token = tokens := by
  induction elements generalizing tokens with
  | nil => exact ⟨[], [], .nil, member.symm⟩
  | cons element elements ih =>
    rw [List.map_cons, List.prod_cons] at member
    obtain ⟨first, isFirst, rest, isRest, rfl⟩ := Language.mem_mul.1 member
    obtain ⟨matched, members, derived, rfl⟩ := ih isRest
    cases element with
    | literal word =>
      obtain ⟨token, rfl, same⟩ := isFirst
      exact ⟨.word token :: matched, members, .literal same derived, rfl⟩
    | ref rule times =>
      obtain ⟨front, node, repeated, rfl⟩ := exists_derivesRepeat isFirst
      exact ⟨front ++ matched, (rule, node) :: members, .ref repeated derived, List.map_append⟩

/-- The rules are true of the texts that they derive. -/
theorem trueOf_language : grammar.TrueOf grammar.language := by
  intro name tokens member
  unfold reading at member
  split at member
  · exact absurd member (Language.notMem_zero _)
  next word found =>
    obtain ⟨token, rfl, same⟩ := member
    exact ⟨_, _, .literal found same, rfl⟩
  next pattern found =>
    obtain ⟨token, rfl, occurs⟩ := member
    exact ⟨_, _, .pattern found occurs, rfl⟩
  next elements found =>
    obtain ⟨matched, members, derived, same⟩ := exists_derivesElements member
    exact ⟨matched, _, .sequence found derived, same⟩
  next alternatives found =>
    obtain ⟨chosen, isAlternative, matched, node, derived, same⟩ := member
    exact ⟨matched, _, .alternation found isAlternative derived, same⟩

/-- **Languages.** The texts that rules derive are the least languages that the rules are true of, a
sequence being read as a product, an alternation as a union, and a repetition in the usual way. -/
theorem language_least (grammar : Grammar) :
    grammar.TrueOf grammar.language ∧
      ∀ languages, grammar.TrueOf languages →
        ∀ name, ∀ tokens ∈ grammar.language name, tokens ∈ languages name := by
  refine ⟨trueOf_language, fun languages closed name tokens => ?_⟩
  rintro ⟨matched, node, derived, rfl⟩
  exact derived.mem closed

end Grammar

end AdapterWiring
