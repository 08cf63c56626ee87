import AdapterWiring.Proofs.Pattern.Gaps

/-!
# What a search finds

A search of a word finds a match of an expression exactly if there is one.

* **Leads** — an expression as a relation between the gaps of a word, with one
  lemma for each kind of expression (`leads_…_iff`).
* **Bounded** — no repetition has an upper bound below its lower one.
* **route_computes** — the route of an expression goes along that relation,
  tables included.
* **search_iff_occurs** — searches are exact.
* **search_whole_iff** — an anchored expression is searched for in vain unless
  it matches the whole word.
-/

namespace AdapterWiring.Pattern

/-! ## The gaps of a word -/

theorem length_gapsFrom (first : Option Char) (word : List Char) :
    (gapsFrom first word).length = word.length + 1 := by
  induction word generalizing first with
  | nil => rfl
  | cons c rest ih => rw [gapsFrom, List.length_cons, ih, List.length_cons]

/-- The gap after a part of a word. -/
theorem getElem?_gapsFrom (before after : List Char) :
    (gapsFrom none (before ++ after))[before.length]? =
      some (Gap.between before.reverse after) := by
  have from_ : ∀ (before : List Char) (first : Option Char),
      (gapsFrom first (before ++ after))[before.length]? =
        some ⟨before.getLast?.or first, after.head?⟩ := by
    intro before
    induction before with
    | nil => intro first; cases after <;> rfl
    | cons c rest ih =>
      intro first
      rw [List.cons_append, gapsFrom, List.length_cons, List.getElem?_cons_succ, ih]
      cases rest with
      | nil => rfl
      | cons d others => simp [List.getLast?_cons]
  rw [from_, Gap.between, List.head?_reverse, Option.or_none]

theorem testBit_all (word : List Char) (gap : Nat) :
    (Layout.of word).all.testBit gap = true ↔ gap ≤ word.length := by
  rw [Layout.of, testBit_bitsOf]
  simp only [and_true]
  rw [← Option.isSome_iff_exists, isSome_getElem?, length_gapsFrom]
  omega

namespace Expr

/-! ## Expressions as relations -/

/-- In a word an expression leads from the gap where a match of it starts to the one where the match
ends. -/
def Leads (word : List Char) (e : Expr) (first last : Nat) : Prop :=
  ∃ before middle after, word = before ++ middle ++ after ∧ before.length = first ∧
    before.length + middle.length = last ∧ Matches e before.reverse middle after

section Leads

variable {word : List Char} {first last : Nat}

/-- An expression leads forward, inside the word. -/
theorem Leads.forward {e : Expr} (leads : Leads word e first last) :
    first ≤ last ∧ last ≤ word.length := by
  obtain ⟨before, middle, after, rfl, rfl, rfl, _⟩ := leads
  simp

/-- What matches nothing between the two sides of a gap leads from the gap to itself. -/
theorem leads_self {e : Expr} (inside : first ≤ word.length)
    (matched : Matches e (word.take first).reverse [] (word.drop first)) :
    Leads word e first first := by
  refine ⟨word.take first, [], word.drop first, by simp, ?_, ?_, matched⟩
  · simp [inside]
  · simp [inside]

/-- Where one part of a word ends and another starts at the same gap, what is left is cut alike. -/
theorem eq_of_same_gap {before middle rest before' middle' after : List Char}
    (split : word = before ++ middle ++ rest) (split' : word = before' ++ middle' ++ after)
    (same : before'.length = before.length + middle.length) :
    before ++ middle = before' ∧ rest = middle' ++ after := by
  apply List.append_inj
  · rw [← split, split', List.append_assoc]
  · rw [List.length_append, same]

theorem leads_empty_iff : Leads word .empty first last ↔ first = last ∧ last ≤ word.length := by
  constructor
  · rintro ⟨before, middle, after, rfl, rfl, rfl, matched⟩
    cases matched
    simp
  · rintro ⟨rfl, inside⟩
    exact leads_self inside .empty

theorem leads_assertion_iff {condition : Assertion} :
    Leads word (.assertion condition) first last ↔ first = last ∧
      ∃ gap, (gapsFrom none word)[last]? = some gap ∧ condition.holds gap = true := by
  constructor
  · rintro ⟨before, middle, after, rfl, rfl, rfl, matched⟩
    cases matched with
    | assertion holds => simp [getElem?_gapsFrom, holds]
  · rintro ⟨rfl, gap, found, holds⟩
    have inside : first ≤ word.length := by
      have := (List.getElem?_eq_some_iff.1 found).1
      rw [length_gapsFrom] at this
      omega
    have atGap := getElem?_gapsFrom (word.take first) (word.drop first)
    rw [List.take_append_drop, List.length_take, Nat.min_eq_left inside, found,
      Option.some.injEq] at atGap
    exact leads_self inside (.assertion (atGap ▸ holds))

theorem leads_one_iff {set : CharSet} : Leads word (.one set) first last ↔
    last = first + 1 ∧ ∃ c, word[first]? = some c ∧ set.contains c = true := by
  constructor
  · rintro ⟨before, middle, after, rfl, rfl, rfl, matched⟩
    cases matched with
    | one member => simp [member]
  · rintro ⟨rfl, c, found, member⟩
    obtain ⟨inside, rfl⟩ := List.getElem?_eq_some_iff.1 found
    refine ⟨word.take first, [word[first]], word.drop (first + 1), ?_, ?_, ?_, .one member⟩
    · simp
    · simp [Nat.le_of_lt inside]
    · simp [Nat.le_of_lt inside]

theorem leads_seq_iff {left right : Expr} : Leads word (.seq left right) first last ↔
    ∃ next, Leads word left first next ∧ Leads word right next last := by
  constructor
  · rintro ⟨before, _, after, rfl, rfl, rfl, matched⟩
    cases matched with
    | @seq _ _ _ middle middle' _ isLeft isRight =>
      refine ⟨before.length + middle.length, ⟨before, middle, middle' ++ after, by simp, rfl, rfl,
        isLeft⟩, ⟨before ++ middle, middle', after, by simp, by simp, by simp; omega, ?_⟩⟩
      rwa [List.reverse_append]
  · rintro ⟨next, ⟨before, middle, rest, split, rfl, rfl, isLeft⟩,
      ⟨before', middle', after, split', same, rfl, isRight⟩⟩
    obtain ⟨rfl, rfl⟩ := eq_of_same_gap split split' same
    refine ⟨before, middle ++ middle', after, by simp [split], rfl, by simp; omega, ?_⟩
    exact .seq isLeft (by rwa [List.reverse_append] at isRight)

theorem leads_alt_iff {left right : Expr} : Leads word (.alt left right) first last ↔
    Leads word left first last ∨ Leads word right first last := by
  constructor
  · rintro ⟨before, middle, after, rfl, rfl, rfl, matched⟩
    cases matched with
    | altLeft isLeft => exact .inl ⟨before, middle, after, rfl, rfl, rfl, isLeft⟩
    | altRight isRight => exact .inr ⟨before, middle, after, rfl, rfl, rfl, isRight⟩
  · rintro (⟨before, middle, after, rfl, rfl, rfl, isLeft⟩ |
      ⟨before, middle, after, rfl, rfl, rfl, isRight⟩)
    · exact ⟨before, middle, after, rfl, rfl, rfl, .altLeft isLeft⟩
    · exact ⟨before, middle, after, rfl, rfl, rfl, .altRight isRight⟩

/-- Matches in a row lead as many times from gap to gap. -/
theorem leads_times_iff {body : Expr} {times : Nat} :
    (∃ before middle after, word = before ++ middle ++ after ∧ before.length = first ∧
      before.length + middle.length = last ∧ MatchesTimes body times before.reverse middle after) ↔
      first ≤ word.length ∧ InSteps (Leads word body) times first last := by
  induction times generalizing first with
  | zero =>
    rw [InSteps.zero_iff]
    constructor
    · rintro ⟨before, middle, after, rfl, rfl, rfl, matched⟩
      cases matched
      simp
    · rintro ⟨inside, rfl⟩
      refine ⟨word.take first, [], word.drop first, by simp, ?_, ?_, .none⟩
      · simp [inside]
      · simp [inside]
  | succ times ih =>
    rw [InSteps.succ_iff]
    constructor
    · rintro ⟨before, _, after, rfl, rfl, rfl, matched⟩
      cases matched with
      | @more _ _ _ middle middle' _ once others =>
        refine ⟨by simp, before.length + middle.length, ⟨before, middle, middle' ++ after, by simp,
          rfl, rfl, once⟩, (ih.1 ⟨before ++ middle, middle', after, by simp, by simp, ?_, ?_⟩).2⟩
        · simp only [List.length_append]
          omega
        · rwa [List.reverse_append]
    · rintro ⟨_, next, ⟨before, middle, rest, split, rfl, rfl, once⟩, others⟩
      have inside : before.length + middle.length ≤ word.length := by simp [split]
      obtain ⟨before', middle', after, split', same, rfl, isRest⟩ := ih.2 ⟨inside, others⟩
      obtain ⟨rfl, rfl⟩ := eq_of_same_gap split split' same
      refine ⟨before, middle ++ middle', after, by simp [split], rfl, ?_, ?_⟩
      · simp only [List.length_append]
        omega
      · exact .more once (by rwa [List.reverse_append] at isRest)

theorem leads_repeated_iff {body : Expr} {least : Nat} {most : Option Nat} :
    Leads word (.repeated body least most) first last ↔ first ≤ word.length ∧
      ∃ times, least ≤ times ∧ (∀ bound ∈ most, times ≤ bound) ∧
        InSteps (Leads word body) times first last := by
  constructor
  · rintro ⟨before, middle, after, rfl, rfl, rfl, matched⟩
    cases matched with
    | repeated atLeast atMost inRow =>
      obtain ⟨inside, steps⟩ := leads_times_iff.1 ⟨before, middle, after, rfl, rfl, rfl, inRow⟩
      exact ⟨inside, _, atLeast, atMost, steps⟩
  · rintro ⟨inside, times, atLeast, atMost, steps⟩
    obtain ⟨before, middle, after, split, isFirst, isLast, inRow⟩ :=
      leads_times_iff.2 ⟨inside, steps⟩
    exact ⟨before, middle, after, split, isFirst, isLast, .repeated atLeast atMost inRow⟩

/-- Without an upper bound no more repetitions are of use than there are gaps. -/
theorem leads_unbounded_iff {body : Expr} {least : Nat} :
    Leads word (.repeated body least none) first last ↔ first ≤ word.length ∧
      ∃ times, least ≤ times ∧ times ≤ least + (word.length + 1) ∧
        InSteps (Leads word body) times first last := by
  rw [leads_repeated_iff]
  refine and_congr_right fun inside => ⟨?_, ?_⟩
  · rintro ⟨times, atLeast, -, steps⟩
    obtain ⟨more, rfl⟩ := Nat.exists_eq_add_of_le atLeast
    obtain ⟨next, before, after⟩ := InSteps.add_iff.1 steps
    obtain ⟨_, fewer, few, after⟩ := after.shorten fun _ _ leads => leads.forward.1
    have within : last ≤ word.length := steps.within (fun _ _ leads => leads.forward.2) inside
    exact ⟨least + fewer, by omega, by omega, InSteps.add_iff.2 ⟨next, before, after⟩⟩
  · rintro ⟨times, atLeast, -, steps⟩
    exact ⟨times, atLeast, by simp, steps⟩

end Leads

/-! ## Routes -/

/-- No repetition has an upper bound below its lower one. -/
def Bounded : Expr → Prop
  | empty => True
  | assertion _ => True
  | one _ => True
  | seq first second => first.Bounded ∧ second.Bounded
  | alt first second => first.Bounded ∧ second.Bounded
  | repeated body least most => body.Bounded ∧ ∀ bound ∈ most, least ≤ bound

/-- A table leads where the route it is made of leads. -/
theorem computes_tabulate {last : Nat} {route : Route} {leads : Nat → Nat → Prop}
    (computes : Computes last route.reach leads) :
    Computes last (route.tabulate (last + 1)).reach leads := by
  intro gaps inside target
  rw [Route.tabulate, Route.reach, testBit_unionAt]
  have single {gap : Nat} (isGap : gap ≤ last) :
      (route.reach (1 <<< gap)).testBit target = true ↔ leads gap target := by
    have only (other : Nat) : (1 <<< gap).testBit other = true ↔ gap = other := by
      rw [Nat.one_shiftLeft, Nat.testBit_two_pow, decide_eq_true_eq]
    rw [computes _ fun other member => (only other).1 member ▸ isGap]
    simp only [only, exists_eq_left']
  refine exists_congr fun gap => and_congr_right fun member => ?_
  rw [← single (inside gap member)]
  have isPlace : gap < last + 1 := Nat.lt_succ_of_le (inside gap member)
  simp [List.getElem?_range isPlace]

/-- Repeating the route of an expression leads where repetitions of it do. -/
theorem repeated_computes {word : List Char} {body : Expr} {route : Route} {least : Nat}
    {most : Option Nat} (computes : Computes word.length route.reach (Leads word body))
    (ordered : ∀ bound ∈ most, least ≤ bound) :
    Computes word.length
      (Route.repeated route least (most.elim (Layout.of word).count (· - least))).reach
      (Leads word (.repeated body least most)) := by
  intro gaps inside target
  have steps := computes_repeated computes (fun _ _ leads => leads.forward.2) least
    (most.elim (Layout.of word).count (· - least)) gaps inside target
  refine steps.trans (exists_congr fun gap => and_congr_right fun member => ?_)
  cases most with
  | none =>
    rw [leads_unbounded_iff, ← length_gapsFrom none]
    exact (and_iff_right (inside gap member)).symm
  | some bound =>
    rw [leads_repeated_iff, and_iff_right (inside gap member), Option.elim_some,
      Nat.add_sub_cancel' (ordered bound rfl)]
    simp

/-- **Routes.** Over a word, the route of an expression leads from a set of gaps to those that the
expression leads to from a member. -/
theorem route_computes (word : List Char) {e : Expr} (bounded : e.Bounded) (depth : Nat) :
    Computes word.length (e.route (Layout.of word) depth).reach (Leads word e) := by
  induction e generalizing depth with
  | empty =>
    intro gaps inside target
    rw [route, Route.reach, Nat.testBit_and, Bool.and_eq_true, testBit_all]
    simp only [leads_empty_iff]
    constructor
    · rintro ⟨member, isGap⟩
      exact ⟨target, member, rfl, isGap⟩
    · rintro ⟨_, member, rfl, isGap⟩
      exact ⟨member, isGap⟩
  | assertion condition =>
    intro gaps inside target
    rw [route, Route.reach, Nat.testBit_and, Bool.and_eq_true, Layout.of, testBit_placesOf]
    simp only [leads_assertion_iff]
    constructor
    · rintro ⟨member, holds⟩
      exact ⟨target, member, rfl, holds⟩
    · rintro ⟨_, member, rfl, holds⟩
      exact ⟨member, holds⟩
  | one set =>
    intro gaps inside target
    rw [route, Route.reach, Nat.testBit_shiftLeft]
    simp only [leads_one_iff]
    cases target with
    | zero => simp
    | succ gap =>
      rw [Nat.add_sub_cancel, Nat.testBit_and, Layout.of]
      simp only [ge_iff_le, Nat.le_add_left, decide_true, Bool.true_and, Bool.and_eq_true,
        testBit_placesOf, Nat.add_right_cancel_iff]
      constructor
      · rintro ⟨member, found⟩
        exact ⟨gap, member, rfl, found⟩
      · rintro ⟨_, member, rfl, found⟩
        exact ⟨member, found⟩
  | seq left right ihLeft ihRight =>
    intro gaps inside target
    have isLeft := ihLeft bounded.1 depth gaps inside
    have insideLeft : ∀ gap, ((left.route (Layout.of word) depth).reach gaps).testBit gap = true →
        gap ≤ word.length := by
      intro gap member
      obtain ⟨_, _, leads⟩ := (isLeft gap).1 member
      exact leads.forward.2
    rw [route, Route.reach, ihRight bounded.2 depth _ insideLeft]
    simp only [isLeft, leads_seq_iff]
    constructor
    · rintro ⟨next, ⟨gap, member, toNext⟩, onward⟩
      exact ⟨gap, member, next, toNext, onward⟩
    · rintro ⟨gap, member, next, toNext, onward⟩
      exact ⟨next, ⟨gap, member, toNext⟩, onward⟩
  | alt left right ihLeft ihRight =>
    intro gaps inside target
    rw [route, Route.reach, Nat.testBit_or, Bool.or_eq_true, ihLeft bounded.1 depth gaps inside,
      ihRight bounded.2 depth gaps inside, ← exists_or]
    simp only [leads_alt_iff, and_or_left]
  | repeated body least most ih =>
    have untabled := repeated_computes (ih bounded.1 (depth + 1)) bounded.2
    rw [route]
    split
    -- from some depth on a table stands for the route
    · have count : (Layout.of word).count = word.length + 1 := length_gapsFrom none word
      rw [count] at untabled ⊢
      exact computes_tabulate untabled
    · exact untabled

/-! ## Searches -/

/-- **Searches** are exact. -/
theorem search_iff_occurs {e : Expr} (bounded : e.Bounded) (word : List Char) :
    e.search word = true ↔ Occurs e word := by
  have inside : ∀ gap, (Layout.of word).all.testBit gap = true → gap ≤ word.length :=
    fun gap => (testBit_all word gap).1
  have reached := route_computes word bounded 0 _ inside
  have found : e.search word = true ↔
      ∃ target,
        ((e.route (Layout.of word) 0).reach (Layout.of word).all).testBit target = true := by
    rw [search, bne_iff_ne]
    refine ⟨Nat.exists_testBit_of_ne_zero, ?_⟩
    rintro ⟨target, member⟩ none
    simp [none] at member
  rw [found]
  simp only [reached, testBit_all]
  constructor
  · rintro ⟨_, _, _, before, middle, after, split, _, _, matched⟩
    exact ⟨before, middle, after, split, matched⟩
  · rintro ⟨before, middle, after, split, matched⟩
    exact ⟨_, before.length, by simp [split], before, middle, after, split, rfl, rfl, matched⟩

/-- An anchored expression matches no part of a word but the whole. -/
theorem search_whole_iff {e : Expr} (bounded : e.Bounded) (word : List Char) :
    (whole e).search word = true ↔ Matches e [] word [] := by
  have anchoredBounded : (whole e).Bounded := ⟨trivial, bounded, trivial⟩
  rw [search_iff_occurs anchoredBounded]
  constructor
  · rintro ⟨before, _, after, split, matched⟩
    cases matched with
    | seq atStart rest =>
      cases atStart with
      | assertion starts =>
        cases rest with
        | seq matched atStop =>
          cases atStop with
          | assertion stops =>
            obtain rfl : before = [] := by
              simpa [Assertion.holds, Gap.between] using starts
            obtain rfl : after = [] := by
              simpa [Assertion.holds, Gap.between] using stops
            simpa [split] using matched
  · intro matched
    have atStop : Matches (.assertion .stop) (word.reverse ++ []) [] [] := .assertion rfl
    have rest : Matches (.seq e (.assertion .stop)) [] (word ++ []) [] := .seq matched atStop
    have anchored : Matches (whole e) [] ([] ++ (word ++ [])) [] := .seq (.assertion rfl) rest
    exact ⟨[], [] ++ (word ++ []), [], by simp, anchored⟩

end Expr

end AdapterWiring.Pattern
