import AdapterWiring.Proofs.Grammar.Notation
import AdapterWiring.Proofs.Grammar.Reordering

/-!
# What building a grammar checks

A list of calls becomes a grammar exactly if no name is defined twice and each call
is well formed among the names. Otherwise the error tells the first name that is
defined again or, where there is none, what is wrong with the first call that is not
well formed. In a grammar that is built, all rules that are read are there: there is
no way from a rule to a missing one.

* **Call.WellFormed, Call.Fault** — what a call has to be, and what is wrong with it
  where it is not, by the texts that it is given.
* **Blames, blames_of_ofCalls** — the error of a list of calls.
* **ofCalls_ok_iff** — when there is none.
* **Closed, closed_of_build** — rules refer to rules only.
* **SyntaxError.Contains** — the errors that an error is made of.
* **parseRuleOr** — reading rules where a missing one may come to anything.
* **NeverMisses** — a missing rule is no part of how a text is read.
* **build_screens** — what building accepts, what it reports, and that nothing is
  missing afterwards.
-/

namespace AdapterWiring

/-! ## Calls -/

namespace Grammar.Call

/-- A call is well formed among given names: its pattern can be read, it refers to these names only,
and as a sequence to none of them twice. -/
def WellFormed (names : List String) : Call → Prop
  | literal _ _ => True
  | pattern _ source => (Pattern.compile? source).isSome = true
  | sequence _ specs =>
    (∀ spec ∈ specs, ∀ reference, Element.Refers spec reference → reference ∈ names) ∧
      specs.Pairwise fun first second =>
        ∀ reference, Element.Refers first reference → ¬ Element.Refers second reference
  | alternation _ alternatives => ∀ reference ∈ alternatives, reference ∈ names

/-- What is wrong with a call, and the error that tells it. Of several references that are wrong it
is the first: up to there the call is well formed. -/
inductive Fault (names : List String) : Call → GrammarError → Prop
  | pattern {name source : String} : Pattern.compile? source = none →
    Fault names (.pattern name source) (.invalidPattern name)
  | missing {name : String} {front back : List String} {spec reference : String} :
    WellFormed names (.sequence name front) → Element.Refers spec reference → reference ∉ names →
      Fault names (.sequence name (front ++ spec :: back)) (.unknownRule name reference)
  | repeated {name : String} {front back : List String} {before spec reference : String} :
    WellFormed names (.sequence name front) → before ∈ front → Element.Refers before reference →
      Element.Refers spec reference →
        Fault names (.sequence name (front ++ spec :: back)) (.repeatedReference name reference)
  | alternative {name : String} {front back : List String} {reference : String} :
    WellFormed names (.alternation name front) → reference ∉ names →
      Fault names (.alternation name (front ++ reference :: back)) (.unknownRule name reference)

/-- A call with a fault is not well formed. -/
theorem Fault.not_wellFormed {names : List String} {call : Call} {failure : GrammarError}
    (fault : call.Fault names failure) : ¬ call.WellFormed names := by
  intro wellFormed
  cases fault with
  | pattern unread =>
    rw [WellFormed, unread] at wellFormed
    cases wellFormed
  | missing _ refers notThere => exact notThere (wellFormed.1 _ (by simp) _ refers)
  | repeated _ member earlier refers =>
    exact (List.pairwise_append.1 wellFormed.2).2.2 _ member _ (by simp) _ earlier refers
  | alternative _ notThere => exact notThere (wellFormed _ (by simp))

/-- A sequence is well formed just if the rules that it refers to are, in a row, defined and
different. -/
theorem wellFormed_sequence_iff {names : List String} {name : String} {specs : List String} :
    (sequence name specs).WellFormed names ↔
      (∀ reference ∈ (specs.map Element.parse).filterMap Element.reference?, reference ∈ names) ∧
        ((specs.map Element.parse).filterMap Element.reference?).Nodup := by
  simp only [WellFormed, ← Element.reference?_parse_eq_some_iff, List.filterMap_map, List.Nodup,
    List.pairwise_filterMap, List.mem_filterMap, Function.comp_apply]
  refine and_congr ?_ (List.Pairwise.iff fun first second => ?_)
  · exact ⟨fun known reference ⟨spec, member, refers⟩ => known spec member reference refers,
      fun known spec member reference refers => known reference ⟨spec, member, refers⟩⟩
  · exact ⟨fun apart reference refers other again same => apart other (same ▸ refers) again,
      fun apart reference refers again => apart reference refers reference again rfl⟩

end Grammar.Call

/-! ## Errors inside errors -/

namespace SyntaxError

/-- An error is another, or one of those that the other is made of. -/
inductive Contains : SyntaxError → SyntaxError → Prop
  | self {failure : SyntaxError} : Contains failure failure
  | alternative {failures : List SyntaxError} {failure part : SyntaxError} :
    failure ∈ failures → Contains failure part → Contains (.noAlternative failures) part
  | cause {line : UInt32} {failure part : SyntaxError} :
    Contains failure part → Contains (.stopped line failure) part

/-- No part of an error is that a rule is missing. -/
def NoneMissing (failure : SyntaxError) : Prop :=
  ∀ name, ¬ failure.Contains (.unknownRule name)

/-- Whether an error is not made of others and does not tell of a missing rule. -/
def isPlain : SyntaxError → Bool
  | unknownRule _ | noAlternative _ | stopped _ _ => false
  | _ => true

theorem NoneMissing.of_isPlain {failure : SyntaxError} (plain : failure.isPlain = true) :
    failure.NoneMissing := by
  intro name contains
  cases contains <;> cases plain

theorem NoneMissing.noAlternative {failures : List SyntaxError}
    (each : ∀ failure ∈ failures, failure.NoneMissing) : NoneMissing (.noAlternative failures) := by
  intro name contains
  cases contains with
  | alternative member contains => exact each _ member name contains

theorem NoneMissing.stopped {line : UInt32} {cause : SyntaxError} (fine : cause.NoneMissing) :
    NoneMissing (.stopped line cause) := by
  intro name contains
  cases contains with
  | cause contains => exact fine name contains

end SyntaxError

namespace Grammar

/-! ## Checks -/

section Results

variable {ε α β : Type}

theorem bind_eq_error_iff {first : Except ε α} {next : α → Except ε β} {failure : ε} :
    first >>= next = .error failure ↔
      first = .error failure ∨ ∃ value, first = .ok value ∧ next value = .error failure := by
  cases first with
  | error other => simp [bind, Except.bind]
  | ok value => simp [bind, Except.bind]

theorem map_eq_error_iff {first : Except ε α} {change : α → β} {failure : ε} :
    first.map change = .error failure ↔ first = .error failure := by
  cases first <;> simp [Except.map]

theorem map_eq_ok_iff {first : Except ε α} {change : α → β} {result : β} :
    first.map change = .ok result ↔ ∃ value, first = .ok value ∧ change value = result := by
  cases first <;> simp [Except.map]

/-- A change of all items fails at the first of them for which it does. -/
theorem exists_of_mapM_eq_error {change : α → Except ε β} {items : List α} {failure : ε}
    (failed : items.mapM change = .error failure) :
    ∃ front item back, items = front ++ item :: back ∧
      (∀ before ∈ front, ∃ result, change before = .ok result) ∧ change item = .error failure := by
  induction items with
  | nil => cases failed
  | cons item items ih =>
    rw [List.mapM_cons] at failed
    rcases bind_eq_error_iff.1 failed with here | ⟨first, isFirst, failed⟩
    · exact ⟨[], item, items, rfl, by simp, here⟩
    · rcases bind_eq_error_iff.1 failed with later | ⟨_, _, failed⟩
      · obtain ⟨front, other, back, rfl, before, there⟩ := ih later
        exact ⟨item :: front, other, back, rfl, List.forall_mem_cons.2 ⟨⟨first, isFirst⟩, before⟩,
          there⟩
      · cases failed

/-- A change of all items that succeeds does so for each. -/
theorem exists_of_mapM_eq_ok {change : α → Except ε β} {items : List α} {results : List β}
    (changed : items.mapM change = .ok results) :
    ∀ item ∈ items, ∃ result ∈ results, change item = .ok result := by
  induction items generalizing results with
  | nil => simp
  | cons item items ih =>
    rw [List.mapM_cons] at changed
    obtain ⟨first, isFirst, changed⟩ := bind_eq_ok_iff.1 changed
    obtain ⟨others, later, same⟩ := bind_eq_ok_iff.1 changed
    cases same
    refine List.forall_mem_cons.2 ⟨⟨first, List.mem_cons_self .., isFirst⟩, fun other member => ?_⟩
    obtain ⟨result, isResult, ok⟩ := ih later other member
    exact ⟨result, List.mem_cons_of_mem _ isResult, ok⟩

end Results

/-- Names without a first repeated one are all different. -/
theorem fresh_of_firstRepeated? {seen : NameSet} {list : List String}
    (found : firstRepeated? seen list = none) : Fresh seen list := by
  induction list generalizing seen with
  | nil => exact .nil seen
  | cons name rest ih =>
    rw [firstRepeated?] at found
    split at found
    · cases found
    next notSeen => exact .cons notSeen (ih found)

/-- A name that was seen or stands in a list is so also after the head of the list has been seen. -/
theorem seen_or_mem_cons {seen : NameSet} {head name : String} {front : List String}
    (again : name ∈ seen.insert head ∨ name ∈ front) : name ∈ seen ∨ name ∈ head :: front := by
  rw [NameSet.mem_insert] at again
  rw [List.mem_cons]
  tauto

/-- The first repeated name stands after different ones, and is one of them or seen before. -/
theorem exists_of_firstRepeated? {seen : NameSet} {list : List String} {name : String}
    (found : firstRepeated? seen list = some name) :
    ∃ front back, list = front ++ name :: back ∧ Fresh seen front ∧
      (name ∈ seen ∨ name ∈ front) := by
  induction list generalizing seen with
  | nil => cases found
  | cons head rest ih =>
    rw [firstRepeated?] at found
    split at found
    next again =>
      cases found
      exact ⟨[], rest, rfl, .nil seen, .inl again⟩
    next notSeen =>
      obtain ⟨front, back, rfl, fresh, again⟩ := ih found
      exact ⟨head :: front, back, rfl, .cons notSeen fresh, seen_or_mem_cons again⟩

section Checks

variable {names : NameSet} {rule reference : String} {failure : GrammarError}

theorem checkReference_ok_iff : checkReference names rule reference = .ok () ↔
    reference ∈ names := by
  rw [checkReference]
  split <;> simp [*]

theorem checkReference_error_iff : checkReference names rule reference = .error failure ↔
    reference ∉ names ∧ failure = .unknownRule rule reference := by
  rw [checkReference]
  split <;> simp [*, eq_comm]

theorem mem_of_checkSequence {seen : NameSet} {references : List String}
    (checked : checkSequence names rule seen references = .ok ()) :
    ∀ reference ∈ references, reference ∈ names := by
  induction references generalizing seen with
  | nil => simp
  | cons reference rest ih =>
    obtain ⟨_, isThere, checked⟩ := bind_eq_ok_iff.1 checked
    dsimp only at checked
    split at checked
    · cases checked
    · exact List.forall_mem_cons.2 ⟨checkReference_ok_iff.1 isThere, ih checked⟩

/-- The references of a sequence before the one that is reported are fine. -/
theorem exists_of_checkSequence_error {seen : NameSet} {references : List String}
    (failed : checkSequence names rule seen references = .error failure) :
    ∃ front reference back, references = front ++ reference :: back ∧
      (∀ before ∈ front, before ∈ names) ∧ Fresh seen front ∧
      (reference ∉ names ∧ failure = .unknownRule rule reference ∨
        (reference ∈ seen ∨ reference ∈ front) ∧ failure = .repeatedReference rule reference) := by
  induction references generalizing seen with
  | nil => cases failed
  | cons head rest ih =>
    rw [checkSequence] at failed
    rcases bind_eq_error_iff.1 failed with notThere | ⟨_, isThere, failed⟩
    · exact ⟨[], head, rest, rfl, by simp, .nil seen, .inl (checkReference_error_iff.1 notThere)⟩
    dsimp only at failed
    split at failed
    next again =>
      cases failed
      exact ⟨[], head, rest, rfl, by simp, .nil seen, .inr ⟨.inl again, rfl⟩⟩
    next notSeen =>
      obtain ⟨front, reference, back, rfl, known, fresh, wrong⟩ := ih failed
      exact ⟨head :: front, reference, back, rfl,
        List.forall_mem_cons.2 ⟨checkReference_ok_iff.1 isThere, known⟩, .cons notSeen fresh,
        wrong.imp_right (And.imp_left seen_or_mem_cons)⟩

theorem mem_of_forM_checkReference {alternatives : List String}
    (checked : alternatives.forM (checkReference names rule) = .ok ()) :
    ∀ reference ∈ alternatives, reference ∈ names := by
  induction alternatives with
  | nil => simp
  | cons head rest ih =>
    obtain ⟨_, isThere, checked⟩ := bind_eq_ok_iff.1 checked
    exact List.forall_mem_cons.2 ⟨checkReference_ok_iff.1 isThere, ih checked⟩

/-- The alternatives before the one that is reported are there. -/
theorem exists_of_forM_checkReference_error {alternatives : List String}
    (failed : alternatives.forM (checkReference names rule) = .error failure) :
    ∃ front reference back, alternatives = front ++ reference :: back ∧
      (∀ before ∈ front, before ∈ names) ∧ reference ∉ names ∧
        failure = .unknownRule rule reference := by
  induction alternatives with
  | nil => cases failed
  | cons head rest ih =>
    rcases bind_eq_error_iff.1 failed with notThere | ⟨_, isThere, failed⟩
    · exact ⟨[], head, rest, rfl, by simp, checkReference_error_iff.1 notThere⟩
    · obtain ⟨front, reference, back, rfl, known, wrong⟩ := ih failed
      exact ⟨head :: front, reference, back, rfl,
        List.forall_mem_cons.2 ⟨checkReference_ok_iff.1 isThere, known⟩, wrong⟩

end Checks

/-! ## Calls that are accepted -/

section Rules

variable {names : NameSet} {list : List String} {name : String} {definition : Definition}
  {rule : Rule} {failure : GrammarError}

/-- A rule refers to what its definition refers to. -/
theorem references_of_compileRule (compiled : compileRule names name definition = .ok rule) :
    rule.references = definition.references := by
  cases definition with
  | literal word => cases compiled; rfl
  | pattern source =>
    rw [compileRule] at compiled
    split at compiled <;> cases compiled
    rfl
  | sequence elements =>
    obtain ⟨_, _, same⟩ := bind_eq_ok_iff.1 compiled
    cases same
    rfl
  | alternation alternatives =>
    obtain ⟨_, _, same⟩ := bind_eq_ok_iff.1 compiled
    cases same
    rfl

/-- A definition that is accepted refers to the given names only. -/
theorem mem_of_compileRule (compiled : compileRule names name definition = .ok rule) :
    ∀ reference ∈ definition.references, reference ∈ names := by
  cases definition with
  | literal word => exact fun _ member => nomatch member
  | pattern source => exact fun _ member => nomatch member
  | sequence elements =>
    obtain ⟨_, checked, _⟩ := bind_eq_ok_iff.1 compiled
    exact mem_of_checkSequence checked
  | alternation alternatives =>
    obtain ⟨_, checked, _⟩ := bind_eq_ok_iff.1 compiled
    exact mem_of_forM_checkReference checked

variable {call : Call}

theorem Call.wellFormed_of_compileRule
    (compiled : compileRule (.ofList list) call.name call.definition = .ok rule) :
    call.WellFormed list := by
  have known := mem_of_compileRule compiled
  simp only [NameSet.mem_ofList] at known
  cases call with
  | literal name word => trivial
  | pattern name source =>
    rw [Call.definition, compileRule] at compiled
    split at compiled
    next found => exact Option.isSome_iff_exists.2 ⟨_, found⟩
    next => cases compiled
  | sequence name specs =>
    obtain ⟨_, checked, _⟩ := bind_eq_ok_iff.1 compiled
    exact wellFormed_sequence_iff.2 ⟨known, (fresh_of_checkSequence checked).1⟩
  | alternation name alternatives => exact known

theorem Call.fault_of_compileRule
    (failed : compileRule (.ofList list) call.name call.definition = .error failure) :
    call.Fault list failure := by
  cases call with
  | literal name word => cases failed
  | pattern name source =>
    rw [Call.definition, compileRule] at failed
    split at failed
    next => cases failed
    next unread =>
      cases failed
      exact .pattern unread
  | sequence name specs =>
    rcases bind_eq_error_iff.1 failed with failed | ⟨_, _, failed⟩
    · obtain ⟨front, reference, back, split, known, fresh, wrong⟩ :=
        exists_of_checkSequence_error failed
      simp only [NameSet.mem_ofList] at known wrong
      -- the references before the one that is reported are those of the forms before its form
      obtain ⟨before, later, rfl, rfl, isBack⟩ :=
        List.filterMap_eq_append_iff.1 (List.filterMap_map .. ▸ split)
      obtain ⟨words, spec, after, rfl, noReference, refers, -⟩ :=
        List.filterMap_eq_cons_iff.1 isBack
      rw [← List.append_assoc]
      have earlier : (sequence name (before ++ words)).WellFormed list := by
        rw [wellFormed_sequence_iff, List.filterMap_map, List.filterMap_append,
          List.filterMap_eq_nil_iff.2 noReference, List.append_nil]
        exact ⟨known, fresh.1⟩
      rcases wrong with ⟨notThere, rfl⟩ | ⟨again, rfl⟩
      · exact .missing earlier (Element.reference?_parse_eq_some_iff.1 refers) notThere
      · have again := again.resolve_left (NameSet.not_mem_empty _)
        obtain ⟨other, member, refersBefore⟩ := List.mem_filterMap.1 again
        exact .repeated earlier (List.mem_append_left _ member)
          (Element.reference?_parse_eq_some_iff.1 refersBefore)
          (Element.reference?_parse_eq_some_iff.1 refers)
    · cases failed
  | alternation name alternatives =>
    rcases bind_eq_error_iff.1 failed with failed | ⟨_, _, failed⟩
    · obtain ⟨front, reference, back, rfl, known, notThere, rfl⟩ :=
        exists_of_forM_checkReference_error failed
      simp only [NameSet.mem_ofList] at known notThere
      exact .alternative known notThere
    · cases failed

end Rules

section Tables

variable {definitions : List (String × Definition)} {calls : List Call} {grammar : Grammar}
  {failure : GrammarError}

theorem nodup_of_build (built : build definitions = .ok grammar) :
    (definitions.map Prod.fst).Nodup := by
  unfold build at built
  split at built
  · cases built
  next distinct => exact (fresh_of_firstRepeated? distinct).1

/-- Every definition of a grammar is accepted, and is that of a rule. -/
theorem exists_rule_of_build (built : build definitions = .ok grammar)
    {entry : String × Definition} (member : entry ∈ definitions) :
    ∃ rule, compileRule (.ofList (definitions.map Prod.fst)) entry.1 entry.2 = .ok rule ∧
      ∃ found, grammar.rule? entry.1 = some found := by
  unfold build at built
  split at built
  · cases built
  obtain ⟨rules, compiled, same⟩ := bind_eq_ok_iff.1 built
  cases same
  obtain ⟨result, listed, ok⟩ := exists_of_mapM_eq_ok compiled entry member
  obtain ⟨rule, accepted, rfl⟩ := map_eq_ok_iff.1 ok
  refine ⟨rule, accepted, ?_⟩
  rw [rule?, NameMap.get?_ofList, ← Option.isSome_iff_exists, SortedEntries.find?_isSome,
    List.map_reverse, List.mem_reverse]
  exact List.mem_map_of_mem listed

/-- A grammar has rules for the names that are defined. -/
theorem mem_names_of_build (built : build definitions = .ok grammar) {name : String} :
    name ∈ grammar.names ↔ name ∈ definitions.map Prod.fst := by
  rw [mem_names, List.mem_map]
  constructor
  · rintro ⟨rule, found⟩
    obtain ⟨definition, member, _⟩ := definition_of_build built found
    exact ⟨_, member, rfl⟩
  · rintro ⟨entry, member, rfl⟩
    obtain ⟨_, _, found⟩ := exists_rule_of_build built member
    exact found

/-- The names of calls are those that they define. -/
theorem map_fst_entries :
    (calls.map fun call => (call.name, call.definition)).map Prod.fst = calls.map Call.name := by
  rw [List.map_map]
  rfl

/-- The error of a list of calls. A name that is defined again comes before all else; where there is
none, the first call with a fault decides. -/
inductive Blames (calls : List Call) : GrammarError → Prop
  | duplicate {front back : List Call} {call : Call} :
    calls = front ++ call :: back → (front.map Call.name).Nodup →
      call.name ∈ front.map Call.name → Blames calls (.duplicateRule call.name)
  | fault {front back : List Call} {call : Call} {failure : GrammarError} :
    (calls.map Call.name).Nodup → calls = front ++ call :: back →
      (∀ before ∈ front, before.WellFormed (calls.map Call.name)) →
        call.Fault (calls.map Call.name) failure → Blames calls failure

theorem blames_of_ofCalls (failed : ofCalls calls = .error failure) : Blames calls failure := by
  unfold ofCalls build at failed
  rw [map_fst_entries] at failed
  split at failed
  next name repeats =>
    cases failed
    obtain ⟨front, back, split, fresh, again⟩ := exists_of_firstRepeated? repeats
    obtain ⟨before, later, rfl, rfl, isBack⟩ := List.map_eq_append_iff.1 split
    obtain ⟨call, after, rfl, rfl, _⟩ := List.map_eq_cons_iff.1 isBack
    exact .duplicate rfl fresh.1 (again.resolve_left (NameSet.not_mem_empty _))
  next distinct =>
    rcases bind_eq_error_iff.1 failed with failed | ⟨_, _, failed⟩
    · obtain ⟨front, entry, back, split, accepted, failed⟩ := exists_of_mapM_eq_error failed
      obtain ⟨before, later, isCalls, rfl, isBack⟩ := List.map_eq_append_iff.1 split
      obtain ⟨call, after, rfl, rfl, _⟩ := List.map_eq_cons_iff.1 isBack
      refine .fault (fresh_of_firstRepeated? distinct).1 isCalls (fun earlier member => ?_)
        (Call.fault_of_compileRule (map_eq_error_iff.1 failed))
      obtain ⟨_, compiled⟩ := accepted _ (List.mem_map_of_mem member)
      obtain ⟨_, compiled, _⟩ := map_eq_ok_iff.1 compiled
      exact Call.wellFormed_of_compileRule compiled
    · cases failed

/-- Calls without a fault and without a name that is defined again become a grammar, and no others
do. -/
theorem ofCalls_ok_iff : (∃ grammar, ofCalls calls = .ok grammar) ↔
    (calls.map Call.name).Nodup ∧ ∀ call ∈ calls, call.WellFormed (calls.map Call.name) := by
  constructor
  · rintro ⟨grammar, built⟩
    refine ⟨map_fst_entries ▸ nodup_of_build built, fun call member => ?_⟩
    obtain ⟨_, compiled, _⟩ := exists_rule_of_build built (List.mem_map_of_mem member)
    rw [map_fst_entries] at compiled
    exact Call.wellFormed_of_compileRule compiled
  · rintro ⟨distinct, wellFormed⟩
    cases built : ofCalls calls with
    | ok grammar => exact ⟨grammar, rfl⟩
    | error failure =>
      -- whatever is reported is not the case
      cases blames_of_ofCalls built with
      | duplicate split _ again =>
        rw [split, List.map_append] at distinct
        exact absurd rfl ((List.nodup_append.1 distinct).2.2 _ again _ (List.mem_cons_self ..))
      | fault _ split _ fault =>
        exact absurd (wellFormed _ (split ▸ List.mem_append_cons_self)) fault.not_wellFormed

/-! ## Rules that are there -/

/-- Rules refer to rules that are there. -/
def Closed (grammar : Grammar) : Prop :=
  ∀ name rule, grammar.rule? name = some rule → ∀ reference ∈ rule.references,
    reference ∈ grammar.names

theorem closed_of_build (built : build definitions = .ok grammar) : grammar.Closed := by
  intro name rule found reference member
  obtain ⟨definition, listed, compiled⟩ := definition_of_build built found
  rw [references_of_compileRule compiled] at member
  rw [mem_names_of_build built, ← NameSet.mem_ofList]
  exact mem_of_compileRule compiled reference member

end Tables

section Readers

variable {parse other : RuleReader} {elements : List Element} {alternatives : List String}
  {tokens : List Token} {failure : SyntaxError}

theorem noneMissing_expectWord {word : String} (failed : expectWord word tokens = .error failure) :
    failure.NoneMissing := by
  cases tokens with
  | nil =>
    cases failed
    exact .of_isPlain rfl
  | cons token rest =>
    rw [expectWord] at failed
    split at failed <;> cases failed
    exact .of_isPlain rfl

theorem noneMissing_parsePattern {name : String} {pattern : Pattern}
    (failed : parsePattern name pattern tokens = .error failure) : failure.NoneMissing := by
  cases tokens with
  | nil =>
    cases failed
    exact .of_isPlain rfl
  | cons token rest =>
    rw [parsePattern] at failed
    split at failed <;> cases failed
    exact .of_isPlain rfl

/-- A repetition fails only where a rule does, on its first words. -/
theorem error_of_parseRepeat {reader : List Token → Option (Outcome Node)} {times : Repeat}
    (failed : parseRepeat reader times tokens = some (.error failure)) :
    reader tokens = some (.error failure) := by
  cases times with
  | one => exact failed
  | optional =>
    obtain ⟨outcome, _, same⟩ := Option.map_eq_some_iff.1 failed
    cases outcome <;> cases same
  | zeroOrMore =>
    obtain ⟨_, _, same⟩ := Option.map_eq_some_iff.1 failed
    cases same
  | oneOrMore =>
    rw [parseRepeat] at failed
    split at failed
    · cases failed
    next here =>
      cases failed
      exact here
    next =>
      obtain ⟨_, _, same⟩ := Option.map_eq_some_iff.1 failed
      cases same

theorem noneMissing_parseElements
    (each : ∀ rule ∈ elements.filterMap Element.reference?, ∀ rest failure,
      parse rule rest = some (.error failure) → failure.NoneMissing)
    (failed : parseElements parse elements tokens = some (.error failure)) :
    failure.NoneMissing := by
  induction elements generalizing tokens with
  | nil => cases failed
  | cons head elements ih =>
    cases head with
    | literal word =>
      rw [parseElements] at failed
      split at failed
      next here =>
        cases failed
        exact noneMissing_expectWord here
      · exact ih each failed
    | ref rule times =>
      obtain ⟨atRule, others⟩ := List.forall_mem_cons.1 each
      rw [parseElements] at failed
      split at failed
      · cases failed
      next here =>
        cases failed
        exact atRule _ _ (error_of_parseRepeat here)
      next =>
        obtain ⟨outcome, later, same⟩ := Option.map_eq_some_iff.1 failed
        cases outcome with
        | error other =>
          cases same
          exact ih others later
        | ok parsed => cases same

theorem noneMissing_parseAlternatives
    (each : ∀ rule ∈ alternatives, ∀ failure,
      parse rule tokens = some (.error failure) → failure.NoneMissing)
    (failed : parseAlternatives parse [] alternatives tokens = some (.error failure)) :
    failure.NoneMissing := by
  obtain ⟨fails, rfl⟩ := parseAlternatives_error_iff.1 failed
  refine .noAlternative fun failure member => ?_
  obtain ⟨alternative, isAlternative, rfl⟩ := List.mem_map.1 member
  obtain ⟨failure, failed⟩ := fails alternative isAlternative
  rw [errorOf_eq failed]
  exact each alternative isAlternative failure failed

theorem parseElements_congr
    (same : ∀ rule ∈ elements.filterMap Element.reference?, parse rule = other rule) :
    parseElements parse elements tokens = parseElements other elements tokens := by
  induction elements generalizing tokens with
  | nil => rfl
  | cons head elements ih =>
    cases head with
    | literal word => simp only [parseElements, ih same]
    | ref rule times =>
      obtain ⟨here, others⟩ := List.forall_mem_cons.1 same
      simp only [parseElements, here, ih others]

theorem parseAlternatives_congr (same : ∀ rule ∈ alternatives, parse rule = other rule)
    {failures : List SyntaxError} :
    parseAlternatives parse failures alternatives tokens =
      parseAlternatives other failures alternatives tokens := by
  induction alternatives generalizing failures with
  | nil => rfl
  | cons head alternatives ih =>
    obtain ⟨here, others⟩ := List.forall_mem_cons.1 same
    simp only [parseAlternatives, here, ih others]

/-- A rule is read alike with readers that are the same on what it refers to. -/
theorem parseRuleWith_congr {grammar : Grammar} {name : String}
    (same : ∀ rule, grammar.rule? name = some rule → ∀ reference ∈ rule.references,
      parse reference = other reference) :
    parseRuleWith grammar parse name tokens = parseRuleWith grammar other name tokens := by
  rw [parseRuleWith, parseRuleWith]
  cases found : grammar.rule? name with
  | none => rfl
  | some rule =>
    cases rule with
    | literal word => rfl
    | pattern pattern => rfl
    | sequence elements =>
      dsimp only
      rw [parseElements_congr (same _ found)]
    | alternation alternatives => exact parseAlternatives_congr (same _ found)

end Readers

section Grammars

variable {grammar : Grammar} {depth : Nat} {name : String} {tokens : List Token}
  {failure : SyntaxError}

/-- Where rules refer to rules that are there, no error of one that is there tells of a missing
one. -/
theorem Closed.noneMissing_parseRule (closed : grammar.Closed) (isThere : name ∈ grammar.names)
    (failed : parseRule grammar depth name tokens = some (.error failure)) :
    failure.NoneMissing := by
  induction depth generalizing name tokens failure with
  | zero => cases failed
  | succ depth ih =>
    obtain ⟨rule, found⟩ := mem_names.1 isThere
    have each : ∀ reference ∈ rule.references, ∀ rest failure,
        parseRule grammar depth reference rest = some (.error failure) → failure.NoneMissing :=
      fun reference member rest failure => ih (closed name rule found reference member)
    rw [parseRule, parseRuleWith, found] at failed
    cases rule with
    | literal word => exact noneMissing_expectWord (map_eq_error_iff.1 (Option.some.inj failed))
    | pattern pattern => exact noneMissing_parsePattern (Option.some.inj failed)
    | sequence elements =>
      obtain ⟨outcome, inRow, same⟩ := Option.map_eq_some_iff.1 failed
      cases outcome with
      | error other =>
        cases same
        exact noneMissing_parseElements each inRow
      | ok parsed => cases same
    | alternation alternatives =>
      exact noneMissing_parseAlternatives (fun rule member => each rule member tokens) failed

/-- The rule that a sequence goes on with at its end is one that it refers to. -/
theorem Closed.noneMissing_stoppedRepetition? (closed : grammar.Closed)
    (stopped : stoppedRepetition? grammar name tokens = some failure) : failure.NoneMissing := by
  unfold stoppedRepetition? at stopped
  split at stopped
  next elements found =>
    split at stopped
    next rule times last =>
      split at stopped
      · have isThere : rule ∈ grammar.names :=
          closed name _ found rule (List.mem_filterMap.2 ⟨_, List.mem_of_getLast? last, rfl⟩)
        split at stopped
        · cases stopped
          exact .of_isPlain rfl
        next failed =>
          cases stopped
          exact closed.noneMissing_parseRule isThere failed
        · cases stopped
      · cases stopped
    · cases stopped
  · cases stopped

theorem Closed.noneMissing_parse (closed : grammar.Closed) (isThere : name ∈ grammar.names)
    (failed : parse grammar name tokens = .error failure) : failure.NoneMissing := by
  rcases parse_error_cases failed with ⟨_, rfl⟩ | failed | ⟨_, _, _, _, rfl | ⟨cause, rfl, stopped⟩⟩
  · exact .of_isPlain rfl
  · exact closed.noneMissing_parseRule isThere failed
  · exact .of_isPlain rfl
  · exact .stopped (closed.noneMissing_stoppedRepetition? stopped)

variable (grammar) in
/-- Read a rule through at most `depth` rules that refer to one another, where a missing rule comes
to a given outcome. -/
def parseRuleOr (missing : RuleReader) : Nat → RuleReader
  | 0 => fun _ _ => none
  | depth + 1 => fun name tokens =>
    match grammar.rule? name with
    | none => missing name tokens
    | some _ => parseRuleWith grammar (parseRuleOr missing depth) name tokens

/-- What missing rules come to is only seen where one is read. -/
theorem Closed.parseRuleOr_eq (closed : grammar.Closed) (isThere : name ∈ grammar.names)
    (missing : RuleReader) :
    parseRuleOr grammar missing depth name = parseRule grammar depth name := by
  induction depth generalizing name with
  | zero => rfl
  | succ depth ih =>
    obtain ⟨rule, found⟩ := mem_names.1 isThere
    funext tokens
    rw [parseRuleOr]
    dsimp only
    rw [found]
    exact parseRuleWith_congr fun rule found reference member =>
      ih (closed name rule found reference member)

/-- A rule refers to another. -/
def RefersTo (grammar : Grammar) (name reference : String) : Prop :=
  ∃ rule, grammar.rule? name = some rule ∧ reference ∈ rule.references

/-- From rules that are there one gets to rules that are there. -/
theorem Closed.mem_names (closed : grammar.Closed) (isThere : name ∈ grammar.names)
    {called : String} (reaches : Relation.ReflTransGen grammar.RefersTo name called) :
    called ∈ grammar.names := by
  induction reaches with
  | refl => exact isThere
  | tail _ refers _ =>
    obtain ⟨rule, found, member⟩ := refers
    exact closed _ rule found _ member

/-- A missing rule is no part of how a text is read: none is reached from the start, by whichever
way; no error tells of one, neither that of the text nor those of the rules that are reached, on
whatever words, be they passed over or not; and nothing would change if missing rules came to
something else. -/
structure NeverMisses (grammar : Grammar) (start : String) (tokens : List Token) : Prop where
  reached : ∀ called, Relation.ReflTransGen grammar.RefersTo start called →
    called ∈ grammar.names ∧ ∀ depth rest failure,
      parseRule grammar depth called rest = some (.error failure) → failure.NoneMissing
  unseen : ∀ missing depth,
    parseRuleOr grammar missing depth start tokens = parseRule grammar depth start tokens
  errors : ∀ failure, parse grammar start tokens = .error failure → failure.NoneMissing

theorem Closed.neverMisses (closed : grammar.Closed) {start : String}
    (isThere : start ∈ grammar.names) (tokens : List Token) :
    grammar.NeverMisses start tokens where
  reached called reaches := by
    have calledThere := closed.mem_names isThere reaches
    exact ⟨calledThere, fun _ _ _ => closed.noneMissing_parseRule calledThere⟩
  unseen missing depth := congrFun (closed.parseRuleOr_eq isThere missing) tokens
  errors _ := closed.noneMissing_parse isThere

end Grammars

/-- **Building.** Calls become a grammar exactly if the names that they define are all different and
each call is well formed among these: its pattern compiles, it refers to defined names only, and as
a sequence to none twice. Otherwise a name that is defined again is reported, whatever else is wrong;
and where there is none, what is wrong with the first call that is not well formed. In a grammar that
is built, no text is read as a rule that is defined such that a missing rule is met: neither on the
way nor in an error. -/
theorem build_screens (calls : List Call) :
    ((∃ grammar, ofCalls calls = .ok grammar) ↔
      (calls.map Call.name).Nodup ∧ ∀ call ∈ calls, call.WellFormed (calls.map Call.name)) ∧
    (∀ failure, ofCalls calls = .error failure → Blames calls failure) ∧
    ∀ grammar, ofCalls calls = .ok grammar →
      ∀ start ∈ calls.map Call.name, ∀ tokens, grammar.NeverMisses start tokens := by
  refine ⟨ofCalls_ok_iff, fun failure => blames_of_ofCalls, ?_⟩
  intro grammar built start isStart tokens
  have isThere : start ∈ grammar.names := by
    rw [mem_names_of_build built, map_fst_entries]
    exact isStart
  exact (closed_of_build built).neverMisses isThere tokens

/-- Lists in brackets, as they are written. -/
def bracketCalls : List Call :=
  [.sequence "list" ["<gap>*", "(", "<entries>", ")"], .sequence "entries" ["<entry>*"],
    .alternation "entry" ["list", "word"], .sequence "gap" ["<comma>?"], .literal "comma" ",",
    .literal "word" "x"]

/-- Of two faults the one of the first call is reported, unless a name is defined again. -/
theorem build_screens_brackets :
    ofCalls bracketCalls = .ok bracketGrammar ∧ "list" ∈ bracketCalls.map Call.name ∧
    bracketGrammar.NeverMisses "list" bracketText ∧
    ofCalls (.sequence "a" ["<list>", "<list>?"] :: bracketCalls.eraseIdx 4) =
      .error (.repeatedReference "a" "list") ∧
    Blames (.sequence "a" ["<list>", "<list>?"] :: bracketCalls.eraseIdx 4)
      (.repeatedReference "a" "list") := by
  have built : ofCalls bracketCalls = .ok bracketGrammar := by cbv
  have isStart : "list" ∈ bracketCalls.map Call.name := by decide
  have failed : ofCalls (.sequence "a" ["<list>", "<list>?"] :: bracketCalls.eraseIdx 4) =
      .error (.repeatedReference "a" "list") := by cbv
  exact ⟨built, isStart, (build_screens bracketCalls).2.2 _ built _ isStart _, failed,
    (build_screens _).2.1 _ failed⟩

end Grammar

end AdapterWiring
