import AdapterWiring.Proofs.Grammar.Lockstep
import Mathlib

/-!
# How deep rules are read

Reading a rule to a greater depth gives no other result, and the depth that
whole texts are read to is enough for every rule that any depth is enough for.
For where a rule needs a depth, one of the rules read on the way needs one less,
of the same words or of a rest of them; the rules and rests on the way are all
different, and there are only so many.

* **Stays, parseRule_mono** — a result stays the same at a greater depth.
* **suffix_of_parseRule** — what is left over is a rest of the words.
* **Needs** — the depth that a rule needs.
* **parseRule_depthBound** — a result at any depth is the result at the depth
  that whole texts are read to.
-/

namespace AdapterWiring.Grammar

/-- The rests of given words, each like itself only, and so are errors. -/
def Likeness.exactly (tokens : List Token) : Likeness :=
  .within tokens (fun failure other => failure = other ∧ failure.OfRule)
    (fun _ ofRule => ⟨rfl, ofRule⟩) fun _ _ each => by
      have same := each.imp fun _ _ => And.left
      rw [List.forall₂_eq_eq_eq] at same
      exact ⟨congrArg _ same, trivial⟩

theorem Likeness.eq_of_outcomes {tokens : List Token} {outcome other : Outcome Node}
    (like : (Likeness.exactly tokens).Outcomes Eq outcome other) : outcome = other := by
  cases like with
  | ok sameNode likeRest => rw [sameNode, likeRest.1]
  | error same => exact congrArg _ same.1

variable {grammar : Grammar} {depth : Nat} {name : String} {tokens rest : List Token} {node : Node}
  {outcome : Outcome Node}

/-! ## Greater depths -/

section Stays

variable {α : Type} {result : Nat → Option α} {value : α}

/-- One level more makes no difference to what is found. -/
def Stays (result : Nat → Option α) : Prop :=
  ∀ depth value, result depth = some value → result (depth + 1) = some value

theorem Stays.mono (stays : Stays result) {depth deeper : Nat} (found : result depth = some value)
    (le : depth ≤ deeper) : result deeper = some value := by
  induction le with
  | refl => exact found
  | step _ ih => exact stays _ _ ih

/-- What is found does not depend on the depth at which it is. -/
theorem Stays.unique (stays : Stays result) {depth deeper : Nat} {other : α}
    (found : result depth = some value) (foundOther : result deeper = some other) :
    value = other := by
  rcases Nat.le_total depth deeper with le | le
  · exact Option.some.inj ((stays.mono found le).symm.trans foundOther)
  · exact Option.some.inj (found.symm.trans (stays.mono foundOther le))

end Stays

/-- One level more gives the same results. -/
theorem readers_succ (grammar : Grammar) (tokens : List Token) (depth : Nat) (name : String) :
    (Likeness.exactly tokens).Readers (parseRule grammar depth name)
      (parseRule grammar (depth + 1) name) :=
  (Likeness.exactly tokens).readers_parseRule grammar depth 1 name

theorem stays_parseRule (grammar : Grammar) (name : String) (tokens : List Token) :
    Stays fun depth => parseRule grammar depth name tokens := by
  intro depth outcome found
  obtain ⟨other, foundOther, like⟩ :=
    readers_succ grammar tokens depth name _ _ ⟨rfl, List.suffix_rfl⟩ outcome found
  exact foundOther.trans (congrArg some (Likeness.eq_of_outcomes like).symm)

theorem parseRule_succ (found : parseRule grammar depth name tokens = some outcome) :
    parseRule grammar (depth + 1) name tokens = some outcome :=
  stays_parseRule grammar name tokens depth outcome found

theorem parseRule_mono (found : parseRule grammar depth name tokens = some outcome) {deeper : Nat}
    (le : depth ≤ deeper) : parseRule grammar deeper name tokens = some outcome :=
  (stays_parseRule grammar name tokens).mono found le

theorem parseRule_unique {deeper : Nat} {other : Outcome Node}
    (found : parseRule grammar depth name tokens = some outcome)
    (foundOther : parseRule grammar deeper name tokens = some other) : outcome = other :=
  (stays_parseRule grammar name tokens).unique found foundOther

theorem suffix_of_parseRule (ok : parseRule grammar depth name tokens = some (.ok (node, rest))) :
    rest <:+ tokens := by
  obtain ⟨_, _, _, _, _, inside⟩ :=
    (readers_succ grammar tokens depth name _ _ ⟨rfl, List.suffix_rfl⟩).ok ok
  exact inside

theorem stays_parseRepeat (grammar : Grammar) (name : String) (times : Repeat)
    (tokens : List Token) :
    Stays fun depth => parseRepeat (parseRule grammar depth name) times tokens := by
  intro depth outcome found
  obtain ⟨other, foundOther, like⟩ :=
    Likeness.follows_repeat (readers_succ grammar tokens depth name) ⟨rfl, List.suffix_rfl⟩ times
      outcome found
  exact foundOther.trans (congrArg some (Likeness.eq_of_outcomes like).symm)

theorem parseRepeat_unique {times : Repeat} {deeper : Nat} {other : Outcome Node}
    (found : parseRepeat (parseRule grammar depth name) times tokens = some outcome)
    (foundOther : parseRepeat (parseRule grammar deeper name) times tokens = some other) :
    outcome = other :=
  (stays_parseRepeat grammar name times tokens).unique found foundOther

theorem suffix_of_parseRepeat {times : Repeat}
    (ok : parseRepeat (parseRule grammar depth name) times tokens = some (.ok (node, rest))) :
    rest <:+ tokens := by
  obtain ⟨_, _, _, _, _, inside⟩ :=
    (Likeness.follows_repeat (readers_succ grammar tokens depth name) ⟨rfl, List.suffix_rfl⟩
      times).ok ok
  exact inside

/-- The error of a rule is none of a text as a whole, and never that the depth is not enough. -/
theorem ofRule_of_parseRule {failure : SyntaxError}
    (failed : parseRule grammar depth name tokens = some (.error failure)) : failure.OfRule := by
  obtain ⟨_, _, _, ofRule⟩ :=
    (readers_succ grammar tokens depth name _ _ ⟨rfl, List.suffix_rfl⟩).error failed
  exact ofRule

/-! ## The depth that is needed -/

/-- A depth is not enough to read a rule, and one level more is. -/
def Needs (grammar : Grammar) (depth : Nat) (name : String) (tokens : List Token) : Prop :=
  parseRule grammar depth name tokens = none ∧
    (parseRule grammar (depth + 1) name tokens).isSome = true

theorem Needs.unique {other : Nat} (needs : grammar.Needs depth name tokens)
    (needsOther : grammar.Needs other name tokens) : depth = other := by
  have notLess {less more : Nat} (first : grammar.Needs less name tokens)
      (second : grammar.Needs more name tokens) : more ≤ less := by
    by_contra greater
    obtain ⟨outcome, found⟩ := Option.isSome_iff_exists.1 first.2
    have enough := parseRule_mono found (Nat.lt_of_not_le greater)
    rw [second.1] at enough
    cases enough
  exact Nat.le_antisymm (notLess needsOther needs) (notLess needs needsOther)

theorem exists_needs (found : parseRule grammar depth name tokens = some outcome) :
    ∃ less, grammar.Needs less name tokens ∧ less < depth := by
  induction depth with
  | zero => cases found
  | succ depth ih =>
    cases atDepth : parseRule grammar depth name tokens with
    | none => exact ⟨depth, ⟨atDepth, Option.isSome_iff_exists.2 ⟨_, found⟩⟩, Nat.lt_succ_self _⟩
    | some other =>
      obtain ⟨less, needs, lt⟩ := ih (atDepth.trans (parseRule_unique atDepth found ▸ rfl))
      exact ⟨less, needs, Nat.lt_succ_of_lt lt⟩

/-- A rule that needs more than one level is there. -/
theorem Needs.exists_rule (needs : grammar.Needs (depth + 1) name tokens) :
    ∃ rule, grammar.rule? name = some rule := by
  cases found : grammar.rule? name with
  | some rule => exact ⟨rule, rfl⟩
  | none =>
    have enough := needs.1
    rw [parseRule, parseRuleWith, found] at enough
    cases enough

/-- Where a rule needs a depth, a rule that is read on the way needs one less. -/
theorem Needs.exists_called (needs : grammar.Needs (depth + 1) name tokens) :
    ∃ called rest, rest <:+ tokens ∧ grammar.Needs depth called rest := by
  by_contra noneNeeds
  -- then everything on the way is read with one level less, and so is the rule itself
  have readers : ∀ called, (Likeness.exactly tokens).Readers (parseRule grammar (depth + 1) called)
      (parseRule grammar depth called) := by
    rintro called rest _ ⟨rfl, inside⟩ outcome found
    obtain ⟨other, foundOther, like⟩ :=
      readers_succ grammar tokens (depth + 1) called _ _ ⟨rfl, inside⟩ outcome found
    cases atDepth : parseRule grammar depth called rest with
    | none =>
      exact absurd ⟨called, rest, inside, atDepth, Option.isSome_iff_exists.2 ⟨_, found⟩⟩ noneNeeds
    | some less =>
      have same := parseRule_unique atDepth foundOther
      exact ⟨less, rfl, same ▸ like⟩
  obtain ⟨outcome, found⟩ := Option.isSome_iff_exists.1 needs.2
  obtain ⟨_, enough, _⟩ := Likeness.follows_rule readers rfl ⟨rfl, List.suffix_rfl⟩ outcome found
  exact absurd (needs.1.symm.trans enough) (by simp)

theorem Needs.exists_of_le (needs : grammar.Needs depth name tokens) {less : Nat}
    (le : less ≤ depth) : ∃ called rest, rest <:+ tokens ∧ grammar.Needs less called rest := by
  induction depth generalizing name tokens with
  | zero =>
    obtain rfl := Nat.le_zero.1 le
    exact ⟨name, tokens, List.suffix_rfl, needs⟩
  | succ depth ih =>
    rcases Nat.eq_or_lt_of_le le with rfl | lt
    · exact ⟨name, tokens, List.suffix_rfl, needs⟩
    · obtain ⟨called, rest, inside, needsLess⟩ := needs.exists_called
      obtain ⟨other, last, insideRest, found⟩ := ih needsLess (Nat.le_of_lt_succ lt)
      exact ⟨other, last, insideRest.trans inside, found⟩

/-- The names of the rules. -/
def names (grammar : Grammar) : Finset String :=
  (grammar.rules.entries.map Prod.fst).toFinset

theorem mem_names : name ∈ grammar.names ↔ ∃ rule, grammar.rule? name = some rule := by
  simp only [names, List.mem_toFinset, rule?, NameMap.get?]
  rw [← SortedEntries.find?_isSome, Option.isSome_iff_exists]

theorem card_names_le (grammar : Grammar) : grammar.names.card ≤ grammar.rules.size := by
  have bound := List.toFinset_card_le (grammar.rules.entries.map Prod.fst)
  rwa [List.length_map] at bound

/-- No rule needs a greater depth than there are pairs of a rule and a rest of the words. -/
theorem Needs.le (needs : grammar.Needs depth name tokens) :
    depth ≤ grammar.rules.size * (tokens.length + 1) := by
  have onTheWay : ∀ level ∈ Finset.Icc 1 depth, ∃ called rest, rest <:+ tokens ∧
      grammar.Needs level called rest := fun level member =>
    needs.exists_of_le (Finset.mem_Icc.1 member).2
  choose! called rest inside needsLevel using onTheWay
  have intoPairs : ∀ level ∈ Finset.Icc 1 depth,
      (called level, (rest level).length) ∈ grammar.names ×ˢ Finset.range (tokens.length + 1) := by
    intro level member
    obtain ⟨below, rfl⟩ := Nat.exists_eq_add_of_le' (Finset.mem_Icc.1 member).1
    have shorter := (inside _ member).length_le
    exact Finset.mem_product.2 ⟨mem_names.2 (needsLevel _ member).exists_rule,
      Finset.mem_range.2 (Nat.lt_succ_of_le shorter)⟩
  have distinct : Set.InjOn (fun level => (called level, (rest level).length))
      (Finset.Icc 1 depth) := by
    intro level member other isOther same
    obtain ⟨sameCalled, sameLength⟩ := Prod.ext_iff.1 same
    -- two rests of one length are the same rest
    have sameRest : rest level = rest other :=
      (List.suffix_of_suffix_length_le (inside _ member) (inside _ isOther)
        sameLength.le).eq_of_length sameLength
    have needsHere := needsLevel level member
    rw [show called level = called other from sameCalled, sameRest] at needsHere
    exact needsHere.unique (needsLevel other isOther)
  have bound := Finset.card_le_card_of_injOn _ intoPairs distinct
  rw [Nat.card_Icc, Finset.card_product, Finset.card_range, Nat.add_sub_cancel] at bound
  exact bound.trans (Nat.mul_le_mul_right _ grammar.card_names_le)

/-- Texts are read no deeper than longer ones. -/
theorem depthBound_le {rest : List Token} (inside : rest <:+ tokens) :
    depthBound grammar rest ≤ depthBound grammar tokens :=
  Nat.succ_le_succ (Nat.mul_le_mul_left _ (Nat.succ_le_succ inside.length_le))

/-- **Depth.** A result at any depth is the result at the depth that whole texts are read to. -/
theorem parseRule_depthBound (found : parseRule grammar depth name tokens = some outcome) :
    parseRule grammar (depthBound grammar tokens) name tokens = some outcome := by
  obtain ⟨less, needs, _⟩ := exists_needs found
  obtain ⟨other, foundOther⟩ := Option.isSome_iff_exists.1 needs.2
  rw [parseRule_unique found foundOther]
  exact parseRule_mono foundOther (Nat.succ_le_succ needs.le)

end AdapterWiring.Grammar
