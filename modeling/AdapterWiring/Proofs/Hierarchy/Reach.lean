import AdapterWiring.Hierarchy.Ancestry
import Mathlib.Logic.Relation
import Mathlib.Tactic.Common

/-!
# What the walk over ancestors finds

The levels of a type against declared supertypes: the relation between a type
and those it declares, closed under any number of steps.

* **Direct** — one declared step; **Reaches** any number of steps, **Above** at
  least one.
* **mem_walk_iff** — the names that a walk finds are exactly those above.
* **walk_error** — a walk fails only at a type that is reached and not known.
* **exists_walk_iff** — so it succeeds just where every type reached is known.
* **mem_asked_iff, walk_congr** — a walk asks for what is reached, and depends on
  nothing else.

The same is said of the levels that an oracle gives, and of what is found to be
a subtype by them (`Oracle.isSubtypeOrEqual_iff`).

No acyclicity is assumed: a cycle only makes a type its own ancestor.
-/

namespace AdapterWiring

/-- The union of levels holds what some level holds. -/
theorem Levels.mem_all {levels : Levels} {name : String} :
    name ∈ levels.all ↔ ∃ level ∈ levels, name ∈ level := by
  rw [Levels.all, NameSet.mem_foldl_union]
  simp

theorem Levels.mem_all_cons {level : NameSet} {levels : Levels} {name : String} :
    name ∈ Levels.all (level :: levels) ↔ name ∈ level ∨ name ∈ levels.all := by
  simp [Levels.mem_all]

namespace Lookup

variable {lookup : Lookup}

/-! ## Declared supertypes -/

/-- `upper` is a declared direct supertype of `lower`. -/
def Direct (lookup : Lookup) (lower upper : String) : Prop :=
  ∃ supertypes, lookup lower = some supertypes ∧ upper ∈ supertypes

/-- `upper` is reached from `lower` by any number of declared supertypes. -/
def Reaches (lookup : Lookup) : String → String → Prop := Relation.ReflTransGen lookup.Direct

/-- `upper` is reached from `lower` by one or more declared supertypes. -/
def Above (lookup : Lookup) : String → String → Prop := Relation.TransGen lookup.Direct

/-- Every type reached from `start` is known. -/
def KnownFrom (lookup : Lookup) (start : String) : Prop :=
  ∀ name, lookup.Reaches start name → lookup name ≠ none

theorem reaches_iff_eq_or_above {lower upper : String} :
    lookup.Reaches lower upper ↔ upper = lower ∨ lookup.Above lower upper :=
  Relation.reflTransGen_iff_eq_or_transGen

/-- What is reached from one of several known types, closed under direct supertypes, is known. -/
theorem knownFrom_of_closed {names : List String} (closed : lookup.Closed names)
    (known : ∀ name ∈ names, lookup name ≠ none) {start : String} (member : start ∈ names) :
    lookup.KnownFrom start := by
  intro name reached
  have inside : name ∈ names := by
    induction reached with
    | refl => exact member
    | tail _ step ih =>
      obtain ⟨supertypes, found, isSupertype⟩ := step
      exact closed _ ih supertypes found _ isSupertype
  exact known name inside

/-! ## Asking for several types -/

/-- The answers of several known types are their direct supertypes. -/
theorem mem_gather {names : List String} {found : NameSet}
    (ok : (lookup.gather names).2 = .ok found) (name : String) :
    name ∈ found ↔ ∃ lower ∈ names, lookup.Direct lower name := by
  induction names generalizing found with
  | nil =>
    simp only [gather, Except.ok.injEq] at ok
    simp [← ok]
  | cons head rest ih =>
    rw [gather] at ok
    split at ok
    · simp at ok
    next supertypes known =>
      cases outcome : (lookup.gather rest).2 with
      | error failure => simp [outcome, Except.map] at ok
      | ok inner =>
        simp only [outcome, Except.map, Except.ok.injEq] at ok
        have atHead : lookup.Direct head name ↔ name ∈ supertypes := by
          simp [Direct, known]
        rw [← ok, NameSet.mem_union, ih outcome, ← atHead]
        simp

/-- Several types whose answers are there are all known. -/
theorem known_of_gather {names : List String} {found : NameSet}
    (ok : (lookup.gather names).2 = .ok found) : ∀ name ∈ names, lookup name ≠ none := by
  induction names generalizing found with
  | nil => simp
  | cons head rest ih =>
    rw [gather] at ok
    split at ok
    · simp at ok
    next supertypes known =>
      cases outcome : (lookup.gather rest).2 with
      | error failure => simp [outcome, Except.map] at ok
      | ok inner =>
        intro name member
        rcases List.mem_cons.1 member with rfl | later
        · simp [known]
        · exact ih outcome name later

/-- Asking for several types fails at one of them that is not known. -/
theorem gather_error {names : List String} {failure : UnknownType}
    (error : (lookup.gather names).2 = .error failure) :
    failure.name ∈ names ∧ lookup failure.name = none := by
  induction names with
  | nil => simp [gather] at error
  | cons head rest ih =>
    rw [gather] at error
    split at error
    next unknown =>
      simp only [Except.error.injEq] at error
      subst error
      exact ⟨List.mem_cons_self .., unknown⟩
    next supertypes known =>
      cases outcome : (lookup.gather rest).2 with
      | error inner =>
        simp only [outcome, Except.map, Except.error.injEq] at error
        subst error
        obtain ⟨member, unknown⟩ := ih outcome
        exact ⟨List.mem_cons_of_mem _ member, unknown⟩
      | ok inner => simp [outcome, Except.map] at error

/-! ## Walks from a frontier -/

variable {start : String} {finite : lookup.FiniteFrom start}

/-- Every name that a walk finds is reached from its frontier. -/
theorem reaches_of_walkFrom {seen frontier : NameSet}
    {inside : ∀ name ∈ frontier, name ∈ reachBound finite} {levels : Levels}
    (ok : (lookup.walkFrom finite seen frontier inside).outcome = .ok levels) :
    ∀ level ∈ levels, ∀ name ∈ level, ∃ first ∈ frontier, lookup.Reaches first name := by
  fun_induction lookup.walkFrom finite seen frontier inside generalizing levels
  case case1 => simp_all
  case case2 => simp at ok
  case case3 seen frontier inside fresh _ _ asked next found _ rest ih =>
    cases outcome : rest.outcome with
    | error failure => simp [outcome, Except.map] at ok
    | ok others =>
      simp only [outcome, Except.map, Except.ok.injEq] at ok
      subst ok
      intro level isLevel name member
      rcases List.mem_cons.1 isLevel with rfl | later
      -- a fresh name stands in the frontier itself, a later one above a fresh name
      · exact ⟨name, (NameSet.mem_diff.1 member).1, .refl⟩
      · obtain ⟨first, isNext, reached⟩ := ih outcome level later name member
        obtain ⟨lower, isFresh, direct⟩ :=
          (mem_gather (congrArg Prod.snd found) first).1 isNext
        exact ⟨lower, (NameSet.mem_diff.1 isFresh).1, .head direct reached⟩

/-- A walk fails at a type that is reached from its frontier and not known. -/
theorem reaches_of_walkFrom_error {seen frontier : NameSet}
    {inside : ∀ name ∈ frontier, name ∈ reachBound finite} {failure : UnknownType}
    (error : (lookup.walkFrom finite seen frontier inside).outcome = .error failure) :
    lookup failure.name = none ∧ ∃ first ∈ frontier, lookup.Reaches first failure.name := by
  fun_induction lookup.walkFrom finite seen frontier inside generalizing failure
  case case1 => simp at error
  case case2 seen frontier inside fresh _ _ asked inner found =>
    simp only [Except.error.injEq] at error
    subst error
    obtain ⟨member, unknown⟩ := gather_error (congrArg Prod.snd found)
    exact ⟨unknown, inner.name, (NameSet.mem_diff.1 member).1, .refl⟩
  case case3 seen frontier inside fresh _ _ asked next found _ rest ih =>
    cases outcome : rest.outcome with
    | ok others => simp [outcome, Except.map] at error
    | error inner =>
      simp only [outcome, Except.map, Except.error.injEq] at error
      subst error
      obtain ⟨unknown, first, isNext, reached⟩ := ih outcome
      obtain ⟨lower, isFresh, direct⟩ :=
        (mem_gather (congrArg Prod.snd found) first).1 isNext
      exact ⟨unknown, lower, (NameSet.mem_diff.1 isFresh).1, .head direct reached⟩

/-- The names seen before a walk and those it finds hold its frontier. The names it finds are known
and their direct supertypes are found or seen. -/
theorem closed_of_walkFrom {seen frontier : NameSet}
    {inside : ∀ name ∈ frontier, name ∈ reachBound finite} {levels : Levels}
    (ok : (lookup.walkFrom finite seen frontier inside).outcome = .ok levels) :
    (∀ name ∈ frontier, name ∈ seen ∨ name ∈ levels.all) ∧
      ∀ name ∈ levels.all, lookup name ≠ none ∧
        ∀ upper, lookup.Direct name upper → upper ∈ seen ∨ upper ∈ levels.all := by
  fun_induction lookup.walkFrom finite seen frontier inside generalizing levels
  case case1 seen frontier inside fresh _ done =>
    simp only [Except.ok.injEq] at ok
    subst ok
    refine ⟨fun name member => ?_, by simp [Levels.mem_all]⟩
    have noneFresh : name ∉ fresh := by simp [NameSet.isEmpty_iff.1 done]
    by_contra outside
    exact noneFresh (NameSet.mem_diff.2 ⟨member, fun isSeen => outside (.inl isSeen)⟩)
  case case2 => simp at ok
  case case3 seen frontier inside fresh _ _ asked next found _ rest ih =>
    cases outcome : rest.outcome with
    | error failure => simp [outcome, Except.map] at ok
    | ok others =>
      simp only [outcome, Except.map, Except.ok.injEq] at ok
      subst ok
      obtain ⟨covered, closed⟩ := ih outcome
      -- what the rest of the walk counts as seen is seen before or fresh
      have lift (name : String) (either : name ∈ seen.union fresh ∨ name ∈ others.all) :
          name ∈ seen ∨ name ∈ Levels.all (fresh :: others) := by
        rw [NameSet.mem_union] at either
        rw [Levels.mem_all_cons]
        tauto
      constructor
      · intro name member
        by_cases isSeen : name ∈ seen
        · exact .inl isSeen
        · exact .inr (Levels.mem_all_cons.2 (.inl (NameSet.mem_diff.2 ⟨member, isSeen⟩)))
      · intro name member
        rcases Levels.mem_all_cons.1 member with isFresh | later
        · have known := known_of_gather (congrArg Prod.snd found) name isFresh
          refine ⟨known, fun upper direct => lift upper (covered upper ?_)⟩
          exact (mem_gather (congrArg Prod.snd found) upper).2 ⟨name, isFresh, direct⟩
        · obtain ⟨known, closedAt⟩ := closed name later
          exact ⟨known, fun upper direct => lift upper (closedAt upper direct)⟩

/-! ## Walks from a type -/

/-- A walk fails at once if the type is not known, and else goes on from its direct supertypes. -/
theorem walk_cases (finite : lookup.FiniteFrom start) :
    (lookup start = none ∧ lookup.walk start finite = ⟨[start], .error ⟨start⟩⟩) ∨
    ∃ supertypes inside, lookup start = some supertypes ∧
      lookup.walk start finite =
        let rest := lookup.walkFrom finite ∅ supertypes inside
        ⟨start :: rest.asked, rest.outcome⟩ := by
  unfold walk
  split
  next unknown => exact .inl ⟨unknown, rfl⟩
  next supertypes known =>
    exact .inr ⟨supertypes, closed_reachBound finite start (start_mem_reachBound _) supertypes
      known, known, rfl⟩

/-- **Ancestors.** The names that a walk finds are exactly those reached by one or more declared
supertypes. -/
theorem mem_walk_iff {levels : Levels} (ok : (lookup.walk start finite).outcome = .ok levels)
    (other : String) : other ∈ levels.all ↔ lookup.Above start other := by
  rcases walk_cases finite with ⟨_, failed⟩ | ⟨supertypes, inside, known, walked⟩
  · simp [failed] at ok
  rw [walked] at ok
  have direct (upper : String) : upper ∈ supertypes ↔ lookup.Direct start upper := by
    simp [Direct, known]
  constructor
  · intro member
    obtain ⟨level, isLevel, inLevel⟩ := Levels.mem_all.1 member
    obtain ⟨first, isFirst, reached⟩ := reaches_of_walkFrom ok level isLevel other inLevel
    exact Relation.TransGen.head' ((direct first).1 isFirst) reached
  · intro above
    obtain ⟨covered, closed⟩ := closed_of_walkFrom ok
    simp only [NameSet.not_mem_empty, false_or] at covered closed
    -- the first walk starts with nothing seen, so what it closes is what it finds
    induction above with
    | single step => exact covered _ ((direct _).2 step)
    | tail _ step ih => exact (closed _ ih).2 _ step

/-- Where a walk fails, the failure names a type that is reached and not known. -/
theorem walk_error {failure : UnknownType}
    (error : (lookup.walk start finite).outcome = .error failure) :
    lookup failure.name = none ∧ lookup.Reaches start failure.name := by
  rcases walk_cases finite with ⟨unknown, failed⟩ | ⟨supertypes, inside, known, walked⟩
  · simp only [failed, Except.error.injEq] at error
    subst error
    exact ⟨unknown, .refl⟩
  · rw [walked] at error
    obtain ⟨unknown, first, isFirst, reached⟩ := reaches_of_walkFrom_error error
    exact ⟨unknown, .head ⟨supertypes, known, isFirst⟩ reached⟩

/-- A walk succeeds exactly if every type reached is known. -/
theorem exists_walk_iff (finite : lookup.FiniteFrom start) :
    (∃ levels, (lookup.walk start finite).outcome = .ok levels) ↔ lookup.KnownFrom start := by
  constructor
  · rintro ⟨levels, ok⟩ other reached
    rcases walk_cases finite with ⟨_, failed⟩ | ⟨supertypes, inside, known, walked⟩
    · simp [failed] at ok
    rcases reaches_iff_eq_or_above.1 reached with rfl | above
    · simp [known]
    · have member := (mem_walk_iff ok other).2 above
      rw [walked] at ok
      exact ((closed_of_walkFrom ok).2 other member).1
  · intro known
    cases outcome : (lookup.walk start finite).outcome with
    | ok levels => exact ⟨levels, rfl⟩
    | error failure =>
      obtain ⟨unknown, reached⟩ := walk_error outcome
      exact absurd unknown (known failure.name reached)

/-! ## What a walk asks for -/

/-- Several types whose answers are there have all been asked for. -/
theorem asked_of_gather {names : List String} {found : NameSet}
    (ok : (lookup.gather names).2 = .ok found) : (lookup.gather names).1 = names := by
  induction names generalizing found with
  | nil => rfl
  | cons head rest ih =>
    rw [gather] at ok ⊢
    split at ok
    · simp at ok
    next supertypes known =>
      cases outcome : (lookup.gather rest).2 with
      | error failure => simp [outcome, Except.map] at ok
      | ok inner => simp only [ih outcome]

/-- A walk from a frontier asks for what it finds. -/
theorem mem_asked_of_walkFrom {seen frontier : NameSet}
    {inside : ∀ name ∈ frontier, name ∈ reachBound finite} {levels : Levels}
    (ok : (lookup.walkFrom finite seen frontier inside).outcome = .ok levels) (name : String) :
    name ∈ (lookup.walkFrom finite seen frontier inside).asked ↔ name ∈ levels.all := by
  fun_induction lookup.walkFrom finite seen frontier inside generalizing levels
  case case1 =>
    simp only [Except.ok.injEq] at ok
    simp [← ok, Levels.mem_all]
  case case2 => simp at ok
  case case3 seen frontier inside fresh _ _ asked next found _ rest ih =>
    cases outcome : rest.outcome with
    | error failure => simp [outcome, Except.map] at ok
    | ok others =>
      simp only [outcome, Except.map, Except.ok.injEq] at ok
      subst ok
      have askedFresh : asked = fresh.toList := by
        have := asked_of_gather (congrArg Prod.snd found)
        rwa [found] at this
      rw [List.mem_append, askedFresh, ih outcome, ← NameSet.mem_def, Levels.mem_all_cons]

/-- A walk that succeeds asks for what is reached. -/
theorem mem_asked_iff {levels : Levels} (ok : (lookup.walk start finite).outcome = .ok levels)
    (name : String) : name ∈ (lookup.walk start finite).asked ↔ lookup.Reaches start name := by
  rw [reaches_iff_eq_or_above, ← mem_walk_iff ok]
  rcases walk_cases finite with ⟨_, failed⟩ | ⟨supertypes, inside, known, walked⟩
  · simp [failed] at ok
  · rw [walked] at ok ⊢
    rw [List.mem_cons, mem_asked_of_walkFrom ok]

/-! ## What a walk depends on -/

theorem gather_congr {other : Lookup} {names : List String}
    (agree : ∀ name ∈ names, other name = lookup name) :
    other.gather names = lookup.gather names := by
  induction names with
  | nil => rfl
  | cons head rest ih =>
    rw [gather, gather, agree head (List.mem_cons_self ..),
      ih fun name later => agree name (List.mem_cons_of_mem _ later)]

theorem walkFrom_of_isEmpty {seen frontier : NameSet}
    {inside : ∀ name ∈ frontier, name ∈ reachBound finite}
    (done : (frontier.diff seen).isEmpty = true) :
    lookup.walkFrom finite seen frontier inside = ⟨[], .ok []⟩ := by
  rw [walkFrom, dif_pos done]

theorem walkFrom_of_error {seen frontier : NameSet}
    {inside : ∀ name ∈ frontier, name ∈ reachBound finite} {asked : List String}
    {failure : UnknownType} (left : ¬ (frontier.diff seen).isEmpty = true)
    (found : lookup.gather (frontier.diff seen).toList = (asked, .error failure)) :
    lookup.walkFrom finite seen frontier inside = ⟨asked, .error failure⟩ := by
  rw [walkFrom, dif_neg left]
  split
  next found' =>
    cases found'.symm.trans found
    rfl
  next found' => cases found'.symm.trans found

theorem walkFrom_of_ok {seen frontier : NameSet}
    (inside : ∀ name ∈ frontier, name ∈ reachBound finite) {asked : List String}
    {next : NameSet} (left : ¬ (frontier.diff seen).isEmpty = true)
    (found : lookup.gather (frontier.diff seen).toList = (asked, .ok next)) :
    ∃ inside', lookup.walkFrom finite seen frontier inside =
      let rest := lookup.walkFrom finite (seen.union (frontier.diff seen)) next inside'
      ⟨asked ++ rest.asked, rest.outcome.map (frontier.diff seen :: ·)⟩ := by
  rw [walkFrom, dif_neg left]
  split
  next found' => cases found'.symm.trans found
  next found' =>
    cases found'.symm.trans found
    exact ⟨mem_of_mem_gather (closed_reachBound finite)
      (fun name member => inside name (NameSet.mem_diff.1 member).1) (congrArg Prod.snd found), rfl⟩

theorem walkFrom_congr {other : Lookup} {finite' : other.FiniteFrom start}
    {seen frontier : NameSet} {inside : ∀ name ∈ frontier, name ∈ reachBound finite}
    {inside' : ∀ name ∈ frontier, name ∈ reachBound finite'}
    (agree : ∀ first ∈ frontier, ∀ name, lookup.Reaches first name → other name = lookup name) :
    other.walkFrom finite' seen frontier inside' =
      lookup.walkFrom finite seen frontier inside := by
  fun_induction lookup.walkFrom finite seen frontier inside
  case case1 done => exact walkFrom_of_isEmpty done
  case case2 seen frontier inside fresh _ left asked failure found =>
    have alike : other.gather fresh.toList = lookup.gather fresh.toList :=
      gather_congr fun name member => agree name (NameSet.mem_diff.1 member).1 name .refl
    exact walkFrom_of_error left (alike.trans found)
  case case3 seen frontier inside fresh _ left asked next found _ rest ih =>
    have alike : other.gather fresh.toList = lookup.gather fresh.toList :=
      gather_congr fun name member => agree name (NameSet.mem_diff.1 member).1 name .refl
    have onward : ∀ first ∈ next, ∀ name, lookup.Reaches first name →
        other name = lookup name := by
      intro first isNext name reached
      obtain ⟨lower, isFresh, direct⟩ := (mem_gather (congrArg Prod.snd found) first).1 isNext
      exact agree lower (NameSet.mem_diff.1 isFresh).1 name (.head direct reached)
    obtain ⟨_, walked⟩ := walkFrom_of_ok inside' left (alike.trans found)
    rw [walked, ih onward]

/-- A walk depends only on what is reached. -/
theorem walk_congr {other : Lookup} (finite : lookup.FiniteFrom start)
    (finite' : other.FiniteFrom start)
    (agree : ∀ name, lookup.Reaches start name → other name = lookup name) :
    other.walk start finite' = lookup.walk start finite := by
  have here := agree start .refl
  unfold walk
  split
  next unknown =>
    split
    next => rfl
    next supertypes known => simp [← here, unknown] at known
  next supertypes known =>
    split
    next unknown => simp [← here, known] at unknown
    next supertypes' known' =>
      rw [here, known', Option.some.injEq] at known
      subst known
      rw [walkFrom_congr]
      intro first isFirst name reached
      exact agree name (.head ⟨supertypes', known', isFirst⟩ reached)

end Lookup

/-! ## Levels -/

namespace Oracle

variable {oracle : Oracle} {name : String}

/-- The names in the levels of a type are exactly those reached from it by one or more declared
supertypes. -/
theorem mem_levels_iff {levels : Levels} (ok : oracle.levels name = .ok levels) (other : String) :
    other ∈ levels.all ↔ oracle.lookup.Above name other :=
  Lookup.mem_walk_iff ok other

/-- Where the levels of a type fail, the failure names a type that is reached and not known. -/
theorem levels_error {failure : UnknownType} (error : oracle.levels name = .error failure) :
    oracle.lookup failure.name = none ∧ oracle.lookup.Reaches name failure.name :=
  Lookup.walk_error error

/-- The levels of a type are there exactly if every type reached from it is known. -/
theorem exists_levels_iff :
    (∃ levels, oracle.levels name = .ok levels) ↔ oracle.lookup.KnownFrom name :=
  Lookup.exists_walk_iff (oracle.finite name)

/-- A type is found to be a subtype of itself and, if every type reached from it is known, of those
above it. -/
theorem isSubtypeOrEqual_iff {lower upper : String} :
    (oracle.ancestry.isSubtypeOrEqual lower upper).run = .ok true ↔
      lower = upper ∨ oracle.lookup.KnownFrom lower ∧ oracle.lookup.Above lower upper := by
  unfold Ancestry.isSubtypeOrEqual
  split
  next same => exact iff_of_true rfl (.inl same)
  next different =>
    have answered : (oracle.levels lower).map (·.any (upper ∈ ·)) = .ok true ↔
        ∃ levels, oracle.levels lower = .ok levels ∧ upper ∈ levels.all := by
      cases oracle.levels lower with
      | error failure => simp [Except.map]
      | ok levels => simp [Except.map, Levels.mem_all]
    refine answered.trans ⟨?_, ?_⟩
    · rintro ⟨levels, found, member⟩
      exact .inr ⟨exists_levels_iff.1 ⟨levels, found⟩, (mem_levels_iff found upper).1 member⟩
    · rintro (same | ⟨known, above⟩)
      · exact absurd same different
      · obtain ⟨levels, found⟩ := exists_levels_iff.2 known
        exact ⟨levels, found, (mem_levels_iff found upper).2 above⟩

theorem reaches_of_isSubtypeOrEqual {lower upper : String}
    (ok : (oracle.ancestry.isSubtypeOrEqual lower upper).run = .ok true) :
    oracle.lookup.Reaches lower upper := by
  rcases isSubtypeOrEqual_iff.1 ok with rfl | ⟨_, above⟩
  · exact .refl
  · exact above.to_reflTransGen

end Oracle

end AdapterWiring
