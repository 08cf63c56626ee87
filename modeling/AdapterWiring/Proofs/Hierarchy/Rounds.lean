import AdapterWiring.Proofs.Hierarchy.Layers
import Mathlib.Data.Set.Card

/-!
# How long a walk goes on

A walk asks for its ancestors in rounds: one round asks for the whole frontier,
and the next frontier is what was found and not seen before. So each round
starts with names that are new, all of them above the type, and there are only
so many of these. Neither cycles nor unknown names can make a difference: a name
comes into a frontier once, the start of the walk included.

* **Loop, round** — a walk at the start of a round, and what one round does.
* **After, Returns** — a walk after so many rounds, and what it returns.
* **After.fresh, After.above** — what every frontier holds is new and above.
* **After.size_lt, After.le_size** — what is seen grows with each round.
* **Returns.outcome_eq** — what the rounds return is what the walk gives.
* **rounds_bounded** — there are at most as many rounds as there are ancestors.
-/

namespace AdapterWiring

/-! ## Sizes of sets -/

namespace NameSet

/-- A set with a further name is larger. -/
theorem size_lt_of_mem {set larger : NameSet} (inside : ∀ name ∈ set, name ∈ larger) {name : String}
    (member : name ∈ larger) (fresh : name ∉ set) : set.size < larger.size := by
  have nodup : (name :: set.toList).Nodup := (SortedNames.nodup set.sorted).cons fresh
  have subset : name :: set.toList ⊆ larger.toList := by
    intro other isOther
    rcases List.mem_cons.1 isOther with rfl | isOther
    · exact member
    · exact inside other isOther
  exact (List.subperm_of_subset nodup subset).length_le

/-- A set has no more names than a finite class that holds them all. -/
theorem size_le_ncard {set : NameSet} {names : Set String} (finite : names.Finite)
    (inside : ∀ name ∈ set, name ∈ names) : set.size ≤ names.ncard := by
  have card : set.toList.toFinset.card = set.size :=
    List.toFinset_card_of_nodup (SortedNames.nodup set.sorted)
  rw [← card, ← Set.ncard_coe_finset]
  refine Set.ncard_le_ncard ?_ finite
  intro name member
  exact inside name (List.mem_toFinset.1 member)

end NameSet

namespace Lookup

variable {lookup : Lookup} {start : String}

/-! ## Rounds -/

/-- A walk at the start of a round. -/
structure Loop where
  /-- The names that were asked for. -/
  seen : NameSet
  /-- The levels that are finished. -/
  levels : Levels
  /-- The names to ask for. -/
  frontier : NameSet

/-- One round asks for the frontier, which makes it a level. What is found and was not seen is the
next frontier. -/
def round (lookup : Lookup) (loop : Loop) : Except UnknownType Loop :=
  (lookup.gather loop.frontier.toList).2.map fun found =>
    let seen := loop.seen.union loop.frontier
    ⟨seen, loop.levels ++ [loop.frontier], found.diff seen⟩

/-- A walk after so many rounds. -/
inductive After (lookup : Lookup) (start : String) : Nat → Loop → Prop
  | first {supertypes : NameSet} : lookup start = some supertypes →
    After lookup start 0 ⟨∅, [], supertypes⟩
  | round {rounds : Nat} {loop next : Loop} : After lookup start rounds loop →
    loop.frontier ≠ ∅ → lookup.round loop = .ok next → After lookup start (rounds + 1) next

/-- What a walk returns after so many rounds, the last of which may be one that fails. -/
inductive Returns (lookup : Lookup) (start : String) : Nat → Except UnknownType Levels → Prop
  | unknown : lookup start = none → Returns lookup start 0 (.error ⟨start⟩)
  | done {rounds : Nat} {loop : Loop} : After lookup start rounds loop →
    loop.frontier = ∅ → Returns lookup start rounds (.ok loop.levels)
  | fails {rounds : Nat} {loop : Loop} {failure : UnknownType} : After lookup start rounds loop →
    loop.frontier ≠ ∅ → lookup.round loop = .error failure →
    Returns lookup start (rounds + 1) (.error failure)

theorem round_ok_iff {loop next : Loop} : lookup.round loop = .ok next ↔
    ∃ found, (lookup.gather loop.frontier.toList).2 = .ok found ∧
      next = ⟨loop.seen.union loop.frontier, loop.levels ++ [loop.frontier],
        found.diff (loop.seen.union loop.frontier)⟩ := by
  unfold round
  cases (lookup.gather loop.frontier.toList).2 with
  | error failure => simp [Except.map]
  | ok found => simp [Except.map, eq_comm]

/-! ## What a round keeps -/

/-- A frontier holds nothing that was seen. -/
theorem After.fresh {rounds : Nat} {loop : Loop} (after : lookup.After start rounds loop) :
    ∀ name ∈ loop.frontier, name ∉ loop.seen := by
  cases after with
  | first _ => exact fun name _ => NameSet.not_mem_empty name
  | round _ _ next =>
    obtain ⟨found, _, rfl⟩ := round_ok_iff.1 next
    exact fun name member => (NameSet.mem_diff.1 member).2

/-- Whatever is seen or in a frontier is above the start. -/
theorem After.above {rounds : Nat} {loop : Loop} (after : lookup.After start rounds loop) :
    ∀ name ∈ loop.seen.union loop.frontier, lookup.Above start name := by
  induction after with
  | first known =>
    intro name member
    rcases NameSet.mem_union.1 member with isSeen | direct
    · exact absurd isSeen (NameSet.not_mem_empty name)
    · exact .single ⟨_, known, direct⟩
  | round _ _ next ih =>
    obtain ⟨found, answered, rfl⟩ := round_ok_iff.1 next
    intro name member
    rcases NameSet.mem_union.1 member with isSeen | isNext
    · exact ih name isSeen
    · obtain ⟨lower, asked, direct⟩ := (mem_gather answered name).1 (NameSet.mem_diff.1 isNext).1
      exact .tail (ih lower (NameSet.mem_union.2 (.inr asked))) direct

/-- A round puts something new into what is seen. -/
theorem After.size_lt {rounds : Nat} {loop : Loop} (after : lookup.After start rounds loop)
    (nonempty : loop.frontier ≠ ∅) : loop.seen.size < (loop.seen.union loop.frontier).size := by
  obtain ⟨name, member⟩ := NameSet.exists_mem nonempty
  refine NameSet.size_lt_of_mem ?_ (NameSet.mem_union.2 (.inr member)) (after.fresh name member)
  intro other isSeen
  exact NameSet.mem_union.2 (.inl isSeen)

/-- At least one name is seen in each round. -/
theorem After.le_size {rounds : Nat} {loop : Loop} (after : lookup.After start rounds loop) :
    rounds ≤ loop.seen.size := by
  induction after with
  | first _ => exact Nat.zero_le _
  | round before nonempty next ih =>
    obtain ⟨found, _, rfl⟩ := round_ok_iff.1 next
    have grows := before.size_lt nonempty
    exact Nat.lt_of_le_of_lt ih grows

/-- A round only starts if there are more names than rounds that are over. -/
theorem After.lt_ncard {rounds : Nat} {loop : Loop} (after : lookup.After start rounds loop)
    (finite : {name | lookup.Above start name}.Finite) (nonempty : loop.frontier ≠ ∅) :
    rounds < {name | lookup.Above start name}.ncard :=
  calc rounds ≤ loop.seen.size := after.le_size
    _ < (loop.seen.union loop.frontier).size := after.size_lt nonempty
    _ ≤ {name | lookup.Above start name}.ncard := NameSet.size_le_ncard finite after.above

/-! ## What a walk returns -/

/-- A walk returns within any number of rounds, or starts one more. -/
theorem exists_returns_or_after (lookup : Lookup) (start : String) (limit : Nat) :
    (∃ rounds ≤ limit, ∃ outcome, lookup.Returns start rounds outcome) ∨
      ∃ loop, lookup.After start limit loop ∧ loop.frontier ≠ ∅ := by
  induction limit with
  | zero =>
    cases known : lookup start with
    | none => exact .inl ⟨0, Nat.le_refl 0, _, .unknown known⟩
    | some supertypes =>
      by_cases empty : supertypes = ∅
      · exact .inl ⟨0, Nat.le_refl 0, _, .done (.first known) empty⟩
      · exact .inr ⟨_, .first known, empty⟩
  | succ limit ih =>
    rcases ih with ⟨rounds, within, outcome, returns⟩ | ⟨loop, after, nonempty⟩
    · exact .inl ⟨rounds, Nat.le_succ_of_le within, outcome, returns⟩
    cases answered : lookup.round loop with
    | error failure =>
      exact .inl ⟨limit + 1, Nat.le_refl _, _, .fails after nonempty answered⟩
    | ok next =>
      have further : lookup.After start (limit + 1) next := .round after nonempty answered
      by_cases empty : next.frontier = ∅
      · exact .inl ⟨limit + 1, Nat.le_refl _, _, .done further empty⟩
      · exact .inr ⟨next, further, empty⟩

/-- So it returns before the names run out. -/
theorem exists_returns (finite : {name | lookup.Above start name}.Finite) :
    ∃ rounds ≤ {name | lookup.Above start name}.ncard, ∃ outcome,
      lookup.Returns start rounds outcome := by
  rcases exists_returns_or_after lookup start {name | lookup.Above start name}.ncard with
    returns | ⟨loop, after, nonempty⟩
  · exact returns
  · exact absurd (after.lt_ncard finite nonempty) (Nat.lt_irrefl _)

/-- A walk goes on from where its rounds have come. -/
theorem After.exists_rest {rounds : Nat} {loop : Loop} (after : lookup.After start rounds loop)
    (finite : lookup.FiniteFrom start) : ∃ frontier inside, frontier.diff loop.seen = loop.frontier ∧
      (lookup.walk start finite).outcome =
        (lookup.walkFrom finite loop.seen frontier inside).outcome.map (loop.levels ++ ·) := by
  induction after with
  | @first supertypes known =>
    rcases walk_cases finite with ⟨unknown, _⟩ | ⟨supertypes', inside, known', walked⟩
    · rw [known] at unknown
      cases unknown
    · rw [known, Option.some.injEq] at known'
      subst known'
      refine ⟨supertypes, inside, ?_, ?_⟩
      · ext name
        simp
      · rw [walked]
        cases (lookup.walkFrom finite ∅ supertypes inside).outcome <;> rfl
  | @round rounds loop next _ nonempty answered ih =>
    obtain ⟨frontier, inside, same, rest⟩ := ih
    obtain ⟨found, gathered, rfl⟩ := round_ok_iff.1 answered
    rw [← same] at nonempty gathered
    have left : ¬ (frontier.diff loop.seen).isEmpty = true := fun empty =>
      nonempty (NameSet.isEmpty_iff.1 empty)
    obtain ⟨inside', walked⟩ := walkFrom_of_ok inside left (Prod.ext rfl gathered)
    have longer (outcome : Except UnknownType Levels) :
        (outcome.map (frontier.diff loop.seen :: ·)).map (loop.levels ++ ·) =
          outcome.map (loop.levels ++ [frontier.diff loop.seen] ++ ·) := by
      cases outcome <;> simp [Except.map]
    rw [← same]
    refine ⟨found, inside', rfl, ?_⟩
    rw [rest, walked]
    exact longer _

/-- The rounds return what the walk gives. -/
theorem Returns.outcome_eq {rounds : Nat} {outcome : Except UnknownType Levels}
    (returns : lookup.Returns start rounds outcome) (finite : lookup.FiniteFrom start) :
    (lookup.walk start finite).outcome = outcome := by
  cases returns with
  | unknown unknown =>
    rcases walk_cases finite with ⟨_, failed⟩ | ⟨_, _, known, _⟩
    · rw [failed]
    · rw [unknown] at known
      cases known
  | done after empty =>
    obtain ⟨frontier, inside, same, rest⟩ := after.exists_rest finite
    have done := NameSet.isEmpty_iff.2 (same.trans empty)
    rw [rest, walkFrom_of_isEmpty done, Except.map, List.append_nil]
  | @fails _ loop failure after nonempty failed =>
    obtain ⟨frontier, inside, same, rest⟩ := after.exists_rest finite
    have gathered : (lookup.gather (frontier.diff loop.seen).toList).2 = .error failure := by
      unfold round at failed
      rw [same]
      cases outcome : (lookup.gather loop.frontier.toList).2 with
      | error _ => simpa [outcome, Except.map] using failed
      | ok _ => simp [outcome, Except.map] at failed
    have left : ¬ (frontier.diff loop.seen).isEmpty = true := fun empty =>
      nonempty (same.symm.trans (NameSet.isEmpty_iff.1 empty))
    rw [rest, walkFrom_of_error left (Prod.ext rfl gathered)]
    rfl

/-! ## All rounds -/

/-- **Rounds.** Let finitely many names be reached from a type, whatever of them are known and
whatever is above itself. Each round starts with names that are new and above the type, and adds them
to those that were seen; so fewer rounds are over when it starts than there are names above the type.
The walk returns, after no more rounds than that, what its levels or its failure are; and a session
that holds no levels of the type returns the same, if what it sees agrees on what is reached. -/
theorem rounds_bounded (lookup : Lookup) (start : String)
    (finite : {name | lookup.Reaches start name}.Finite) :
    (∀ rounds loop, lookup.After start rounds loop → loop.frontier ≠ ∅ →
      (∀ name ∈ loop.frontier, name ∉ loop.seen ∧ lookup.Above start name) ∧
      (∀ next, lookup.round loop = .ok next →
        (∀ name ∈ loop.seen, name ∈ next.seen) ∧ loop.seen.size < next.seen.size) ∧
      rounds < {name | lookup.Above start name}.ncard) ∧
    (∃ rounds ≤ {name | lookup.Above start name}.ncard, ∃ outcome,
      lookup.Returns start rounds outcome) ∧
    {name | lookup.Above start name}.ncard ≤ {name | lookup.Reaches start name}.ncard ∧
    (∀ rounds outcome, lookup.Returns start rounds outcome →
      (lookup.walk start (finiteFrom_iff.2 finite)).outcome = outcome) ∧
    ∀ (oracle : Oracle) (session : Session),
      (∀ name, lookup.Reaches start name → session.lookup oracle name = lookup name) →
      session.leveled.get? start = none →
      ((Session.levels oracle start).run session).1 =
        (lookup.walk start (finiteFrom_iff.2 finite)).outcome := by
  have inside : {name | lookup.Above start name} ⊆ {name | lookup.Reaches start name} :=
    fun _ above => above.to_reflTransGen
  have finiteAbove := finite.subset inside
  refine ⟨?_, exists_returns finiteAbove, Set.ncard_le_ncard inside finite,
    fun _ _ returns => returns.outcome_eq _, ?_⟩
  · intro rounds loop after nonempty
    refine ⟨?_, ?_, after.lt_ncard finiteAbove nonempty⟩
    · intro name member
      exact ⟨after.fresh name member, after.above name (NameSet.mem_union.2 (.inr member))⟩
    · intro next answered
      obtain ⟨found, _, rfl⟩ := round_ok_iff.1 answered
      exact ⟨fun name isSeen => NameSet.mem_union.2 (.inl isSeen), after.size_lt nonempty⟩
  · intro oracle session agree forgotten
    have same : (session.view oracle).walk start = lookup.walk start (finiteFrom_iff.2 finite) :=
      walk_congr _ (session.finiteFrom_lookup oracle start) agree
    rw [← same]
    show (Session.levels oracle start session).1 = _
    cases outcome : ((session.view oracle).walk start).outcome <;>
      simp [Session.levels, forgotten, outcome]

/-- Two types above each other, one of them also above itself, and a third one with a supertype that
is not known. -/
def tangled : Oracle :=
  .ofTable (.ofList [("A", .singleton "B"), ("B", .ofList ["A", "B"]), ("C", .ofList ["A", "D"])])

theorem rounds_bounded_tangled :
    {name | tangled.lookup.Reaches "A" name}.Finite ∧
    (∃ rounds ≤ {name | tangled.lookup.Above "A" name}.ncard, ∃ outcome,
      tangled.lookup.Returns "A" rounds outcome) ∧
    tangled.levels "A" = .ok [.singleton "B", .singleton "A"] ∧
    {name | tangled.lookup.Reaches "C" name}.Finite ∧
    tangled.levels "C" = .error ⟨"D"⟩ := by
  have finite (start : String) : {name | tangled.lookup.Reaches start name}.Finite :=
    finiteFrom_iff.1 (tangled.finite start)
  have declared : tangled.lookup "A" = some (.singleton "B") ∧
      tangled.lookup "C" = some (.ofList ["A", "D"]) := by decide
  have returns : tangled.lookup.Returns "A" 2 (.ok [.singleton "B", .singleton "A"]) := by
    have first : tangled.lookup.After "A" 1 ⟨.singleton "B", [.singleton "B"], .singleton "A"⟩ :=
      .round (.first declared.1) (by decide) rfl
    have second : tangled.lookup.After "A" 2
        ⟨.ofList ["A", "B"], [.singleton "B", .singleton "A"], ∅⟩ :=
      .round first (by decide) rfl
    exact .done second rfl
  have fails : tangled.lookup.Returns "C" 1 (.error ⟨"D"⟩) :=
    .fails (.first declared.2) (by decide) rfl
  obtain ⟨_, bounded, _, outcome, _⟩ := rounds_bounded tangled.lookup "A" (finite "A")
  obtain ⟨_, _, _, outcome', _⟩ := rounds_bounded tangled.lookup "C" (finite "C")
  exact ⟨finite "A", bounded, outcome 2 _ returns, finite "C", outcome' 1 _ fails⟩

end Lookup

end AdapterWiring
