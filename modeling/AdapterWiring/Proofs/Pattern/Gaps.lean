import AdapterWiring.Pattern.Search
import Mathlib.Logic.Function.Iterate
import Mathlib.Tactic.Common

/-!
# Sets of gaps as numbers

What the operations on sets of gaps come to, a set being the number whose bits
are its members.

* **InSteps** — a relation between gaps, a number of times in a row.
* **Computes** — a function on sets that goes along a relation from all members
  at once.
* **Spreads** — what holds between two steps of a search that follows each gap
  only once.
* **computes_repeated** — going on while there is something new finds what any
  number of steps leads to, as no step leads back.
-/

namespace AdapterWiring.Pattern

/-! ## Members -/

theorem testBit_bitsOf {α : Type} (holds : α → Bool) (items : List α) (place : Nat) :
    (bitsOf holds items).testBit place = true ↔ ∃ item, items[place]? = some item ∧ holds item := by
  induction items generalizing place with
  | nil => simp [bitsOf]
  | cons head rest ih =>
    rw [bitsOf]
    cases place with
    | zero => cases holdsHead : holds head <;> simp [Nat.testBit_zero, Nat.add_mod, holdsHead]
    | succ place =>
      have halved : ((holds head).toNat + 2 * bitsOf holds rest) / 2 = bitsOf holds rest := by
        have small := Bool.toNat_le (holds head)
        omega
      rw [Nat.testBit_succ, halved, ih]
      simp

theorem testBit_placesWhere {α : Type} (holds : α → Bool) (entries : List (α × Nat))
    (place : Nat) : (placesWhere holds entries).testBit place = true ↔
      ∃ entry ∈ entries, holds entry.1 = true ∧ entry.2.testBit place = true := by
  induction entries with
  | nil => simp [placesWhere]
  | cons head rest ih =>
    rw [placesWhere]
    split
    next holdsHead => simp [ih, holdsHead]
    next notHead => simp [ih, notHead]

/-- The places of the items that satisfy a condition. -/
theorem testBit_placesOf {α : Type} [DecidableEq α] (holds : α → Bool) (items : List α)
    (place : Nat) : (placesWhere holds (placesOf items)).testBit place = true ↔
      ∃ item, items[place]? = some item ∧ holds item = true := by
  rw [testBit_placesWhere, placesOf]
  constructor
  · rintro ⟨_, member, holdsItem, atPlace⟩
    obtain ⟨item, _, rfl⟩ := List.mem_map.1 member
    obtain ⟨other, found, same⟩ := (testBit_bitsOf _ _ _).1 atPlace
    rw [decide_eq_true_eq] at same
    exact ⟨other, found, same ▸ holdsItem⟩
  · rintro ⟨item, found, holdsItem⟩
    have member : item ∈ items.eraseDups := List.mem_eraseDups.2 (List.mem_of_getElem? found)
    refine ⟨_, List.mem_map.2 ⟨item, member, rfl⟩, holdsItem, ?_⟩
    exact (testBit_bitsOf _ _ _).2 ⟨item, found, by simp⟩

theorem testBit_unionAt (targets : List Nat) (places target : Nat) :
    (unionAt targets places).testBit target = true ↔
      ∃ place, places.testBit place = true ∧
        ∃ found, targets[place]? = some found ∧ found.testBit target = true := by
  induction targets generalizing places with
  | nil => simp [unionAt]
  | cons head rest ih =>
    rw [unionAt, Nat.testBit_or, Bool.or_eq_true, ih]
    constructor
    · rintro (atHead | ⟨place, member, found, isFound, reached⟩)
      · cases first : places.testBit 0 with
        | false => simp [first] at atHead
        | true => exact ⟨0, first, head, rfl, by simpa [first] using atHead⟩
      · rw [Nat.testBit_shiftRight, Nat.add_comm] at member
        exact ⟨place + 1, member, found, isFound, reached⟩
    · rintro ⟨place, member, found, isFound, reached⟩
      cases place with
      | zero =>
        rw [List.getElem?_cons_zero, Option.some.injEq] at isFound
        exact .inl (by simpa [member, isFound] using reached)
      | succ place =>
        refine .inr ⟨place, ?_, found, isFound, reached⟩
        rw [Nat.testBit_shiftRight, Nat.add_comm]
        exact member

/-! ## Steps -/

/-- A relation between gaps, a number of times in a row. -/
inductive InSteps (leads : Nat → Nat → Prop) : Nat → Nat → Nat → Prop
  | none {gap : Nat} : InSteps leads 0 gap gap
  | more {times first next last : Nat} : leads first next → InSteps leads times next last →
    InSteps leads (times + 1) first last

namespace InSteps

variable {leads : Nat → Nat → Prop}

theorem zero_iff {first last : Nat} : InSteps leads 0 first last ↔ first = last := by
  constructor
  · intro steps
    cases steps
    rfl
  · rintro rfl
    exact .none

theorem succ_iff {times first last : Nat} : InSteps leads (times + 1) first last ↔
    ∃ next, leads first next ∧ InSteps leads times next last := by
  constructor
  · intro steps
    cases steps with
    | more step rest => exact ⟨_, step, rest⟩
  · rintro ⟨next, step, rest⟩
    exact .more step rest

theorem add_iff {before after first last : Nat} : InSteps leads (before + after) first last ↔
    ∃ next, InSteps leads before first next ∧ InSteps leads after next last := by
  induction before generalizing first with
  | zero => simp [zero_iff]
  | succ before ih =>
    rw [Nat.succ_add]
    simp only [succ_iff, ih]
    constructor
    · rintro ⟨next, step, middle, rest, later⟩
      exact ⟨middle, ⟨next, step, rest⟩, later⟩
    · rintro ⟨middle, ⟨next, step, rest⟩, later⟩
      exact ⟨next, step, middle, rest, later⟩

theorem within {last : Nat} (inside : ∀ first next, leads first next → next ≤ last)
    {times first target : Nat} (steps : InSteps leads times first target) (isFirst : first ≤ last) :
    target ≤ last := by
  induction steps with
  | none => exact isFirst
  | more step _ ih => exact ih (inside _ _ step)

/-- Where no step leads back, no more steps are of use than there are gaps to go. -/
theorem shorten (forward : ∀ first last, leads first last → first ≤ last) {times first last : Nat}
    (steps : InSteps leads times first last) :
    first ≤ last ∧ ∃ fewer ≤ last - first, InSteps leads fewer first last := by
  induction steps with
  | none => exact ⟨Nat.le_refl _, 0, Nat.zero_le _, .none⟩
  | @more times first next last step rest ih =>
    obtain ⟨ahead, fewer, few, steps⟩ := ih
    have notBack := forward first next step
    refine ⟨by omega, ?_⟩
    by_cases moves : first = next
    · subst moves
      exact ⟨fewer, few, steps⟩
    · exact ⟨fewer + 1, by omega, .more step steps⟩

end InSteps

/-! ## Functions on sets -/

/-- A function that leads from a set of gaps up to `last` to those which a relation leads to from a
member. -/
def Computes (last : Nat) (follow : Nat → Nat) (leads : Nat → Nat → Prop) : Prop :=
  ∀ gaps, (∀ gap, gaps.testBit gap = true → gap ≤ last) → ∀ target,
    (follow gaps).testBit target = true ↔ ∃ gap, gaps.testBit gap = true ∧ leads gap target

theorem iterate_eq (follow : Nat → Nat) (times gaps : Nat) :
    iterate follow times gaps = follow^[times] gaps := by
  induction times generalizing gaps with
  | zero => rfl
  | succ times ih =>
    rw [iterate, Function.iterate_succ_apply]
    split
    next same => rw [same, Function.iterate_fixed same]
    next => exact ih _

section Repeated

variable {last : Nat} {follow : Nat → Nat} {leads : Nat → Nat → Prop}

theorem computes_iterate (computes : Computes last follow leads)
    (within : ∀ first next, leads first next → next ≤ last) (times : Nat) :
    Computes last (iterate follow times) (InSteps leads times) := by
  intro gaps inside target
  rw [iterate_eq]
  induction times generalizing gaps with
  | zero => simp [InSteps.zero_iff]
  | succ times ih =>
    have insideNext : ∀ gap, (follow gaps).testBit gap = true → gap ≤ last := by
      intro gap member
      obtain ⟨first, _, step⟩ := (computes gaps inside gap).1 member
      exact within first gap step
    rw [Function.iterate_succ_apply, ih _ insideNext]
    simp only [computes gaps inside, InSteps.succ_iff]
    constructor
    · rintro ⟨next, ⟨gap, member, step⟩, rest⟩
      exact ⟨gap, member, next, step, rest⟩
    · rintro ⟨gap, member, next, step, rest⟩
      exact ⟨next, ⟨gap, member, step⟩, rest⟩

/-- What holds between the steps of a spread: of the gaps reached only the fresh ones may still lead
to others. -/
structure Spreads (last : Nat) (leads : Nat → Nat → Prop) (reached fresh : Nat) : Prop where
  inside : ∀ gap, reached.testBit gap = true → gap ≤ last
  isReached : ∀ gap, fresh.testBit gap = true → reached.testBit gap = true
  followed : ∀ gap, reached.testBit gap = true → fresh.testBit gap = false →
    ∀ next, leads gap next → reached.testBit next = true

/-- The gaps that a step of a spread finds. -/
theorem testBit_found (follow : Nat → Nat) (reached fresh gap : Nat) :
    ((follow fresh ||| reached) ^^^ reached).testBit gap = true ↔
      (follow fresh).testBit gap = true ∧ reached.testBit gap = false := by
  rw [Nat.testBit_xor, Nat.testBit_or]
  cases (follow fresh).testBit gap <;> cases reached.testBit gap <;> simp

theorem testBit_or_iff (first second gap : Nat) : (first ||| second).testBit gap = true ↔
    first.testBit gap = true ∨ second.testBit gap = true := by
  rw [Nat.testBit_or, Bool.or_eq_true]

namespace Spreads

variable {reached fresh next : Nat}

/-- A step from a gap reached ends at a gap reached or at one found next. -/
theorem along (computes : Computes last follow leads) (spreads : Spreads last leads reached fresh)
    (found : (follow fresh ||| reached) ^^^ reached = next) {gap other : Nat}
    (member : reached.testBit gap = true) (step : leads gap other) :
    reached.testBit other = true ∨ next.testBit other = true := by
  cases known : reached.testBit other with
  | true => exact .inl rfl
  | false =>
    cases isFresh : fresh.testBit gap with
    | true =>
      have insideFresh := fun gap isFresh => spreads.inside gap (spreads.isReached gap isFresh)
      have isFollowed := (computes fresh insideFresh other).2 ⟨gap, isFresh, step⟩
      rw [← found]
      exact .inr ((testBit_found follow reached fresh other).2 ⟨isFollowed, known⟩)
    | false => exact .inl (known ▸ spreads.followed gap member isFresh other step)

/-- A gap found next is one step from a gap reached. -/
theorem origin (computes : Computes last follow leads) (spreads : Spreads last leads reached fresh)
    (found : (follow fresh ||| reached) ^^^ reached = next) {gap : Nat}
    (isNew : next.testBit gap = true) :
    ∃ first, reached.testBit first = true ∧ leads first gap := by
  rw [← found] at isNew
  have isFollowed := ((testBit_found follow reached fresh gap).1 isNew).1
  have insideFresh := fun gap isFresh => spreads.inside gap (spreads.isReached gap isFresh)
  obtain ⟨first, isFresh, step⟩ := (computes fresh insideFresh gap).1 isFollowed
  exact ⟨first, spreads.isReached first isFresh, step⟩

/-- A step of a spread. -/
theorem step (computes : Computes last follow leads)
    (within : ∀ first next, leads first next → next ≤ last)
    (spreads : Spreads last leads reached fresh)
    (found : (follow fresh ||| reached) ^^^ reached = next) :
    Spreads last leads (reached ||| next) next where
  inside := by
    intro gap member
    rcases (testBit_or_iff reached next gap).1 member with old | isNew
    · exact spreads.inside gap old
    · obtain ⟨first, _, step⟩ := spreads.origin computes found isNew
      exact within first gap step
  isReached := fun gap isNew => (testBit_or_iff reached next gap).2 (.inr isNew)
  followed := by
    intro gap member notNew other step
    have old : reached.testBit gap = true :=
      ((testBit_or_iff reached next gap).1 member).resolve_right (by simp [notNew])
    exact (testBit_or_iff reached next other).2 (spreads.along computes found old step)

/-- Where nothing is found no number of steps leads out of the gaps reached. -/
theorem closed (computes : Computes last follow leads) (spreads : Spreads last leads reached fresh)
    (nothing : (follow fresh ||| reached) ^^^ reached = 0) {few gap other : Nat}
    (steps : InSteps leads few gap other) (member : reached.testBit gap = true) :
    reached.testBit other = true := by
  induction steps with
  | none => exact member
  | more step _ rest =>
    exact rest ((spreads.along computes nothing member step).resolve_right (by simp))

end Spreads

/-- What a spread reaches: all that some steps lead to from a gap reached. -/
theorem testBit_spread (computes : Computes last follow leads)
    (within : ∀ first next, leads first next → next ≤ last) {times reached fresh : Nat}
    (spreads : Spreads last leads reached fresh) (target : Nat) :
    (spread follow times reached fresh).testBit target = true ↔
      ∃ few ≤ times, ∃ gap, reached.testBit gap = true ∧ InSteps leads few gap target := by
  induction times generalizing reached fresh with
  | zero =>
    rw [spread]
    constructor
    · intro member
      exact ⟨0, Nat.le_refl 0, target, member, .none⟩
    · rintro ⟨few, none, gap, member, steps⟩
      obtain rfl : few = 0 := Nat.le_zero.1 none
      rwa [← InSteps.zero_iff.1 steps]
  | succ times ih =>
    rw [spread]
    generalize found : (follow fresh ||| reached) ^^^ reached = next
    split
    next nothing =>
      constructor
      · intro member
        exact ⟨0, Nat.zero_le _, target, member, .none⟩
      · rintro ⟨few, _, gap, member, steps⟩
        exact spreads.closed computes (found.trans nothing) steps member
    next something =>
      rw [ih (spreads.step computes within found)]
      constructor
      · rintro ⟨few, atMost, gap, member, steps⟩
        rcases (testBit_or_iff reached next gap).1 member with old | isNew
        · exact ⟨few, by omega, gap, old, steps⟩
        · obtain ⟨first, old, step⟩ := spreads.origin computes found isNew
          exact ⟨few + 1, by omega, first, old, .more step steps⟩
      · rintro ⟨few, atMost, gap, member, steps⟩
        cases steps with
        | none => exact ⟨0, Nat.zero_le _, _, (testBit_or_iff _ _ _).2 (.inl member), .none⟩
        | @more fewer _ other _ step rest =>
          have reachedNext := (testBit_or_iff reached next other).2
            (spreads.along computes found member step)
          exact ⟨fewer, by omega, other, reachedNext, rest⟩

/-- **Repetitions.** At least some number of steps and up to some number more. -/
theorem computes_repeated (computes : Computes last follow leads)
    (within : ∀ first next, leads first next → next ≤ last) (least further : Nat) :
    Computes last (fun gaps => spread follow further (iterate follow least gaps)
      (iterate follow least gaps))
      (fun first target => ∃ times, least ≤ times ∧ times ≤ least + further ∧
        InSteps leads times first target) := by
  intro gaps inside target
  have start := computes_iterate computes within least gaps inside
  have insideStart : ∀ gap, (iterate follow least gaps).testBit gap = true → gap ≤ last := by
    intro gap member
    obtain ⟨first, isFirst, steps⟩ := (start gap).1 member
    exact steps.within within (inside first isFirst)
  -- at first all gaps reached are fresh
  have spreads : Spreads last leads (iterate follow least gaps) (iterate follow least gaps) :=
    ⟨insideStart, fun _ member => member, fun gap member notFresh => by simp [member] at notFresh⟩
  rw [testBit_spread computes within spreads]
  constructor
  · rintro ⟨few, atMost, gap, member, steps⟩
    obtain ⟨first, isFirst, before⟩ := (start gap).1 member
    exact ⟨first, isFirst, least + few, by omega, by omega, InSteps.add_iff.2 ⟨gap, before, steps⟩⟩
  · rintro ⟨first, isFirst, times, atLeast, atMost, steps⟩
    obtain ⟨more, rfl⟩ := Nat.exists_eq_add_of_le atLeast
    obtain ⟨gap, before, after⟩ := InSteps.add_iff.1 steps
    exact ⟨more, by omega, gap, (start gap).2 ⟨first, isFirst, before⟩, after⟩

end Repeated

end AdapterWiring.Pattern
