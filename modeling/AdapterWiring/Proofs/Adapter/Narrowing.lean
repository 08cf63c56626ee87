import AdapterWiring.Adapter.Resolution
import AdapterWiring.Proofs.Hierarchy.Reach
import Mathlib.Data.Prod.Lex
import Mathlib.Data.Set.Subsingleton
import Mathlib.Tactic.Common

/-!
# Narrowing is a lexicographic minimum

Resolution narrows the eligible adapters in two passes, each of which keeps the
candidates at the first level that any of them hits. Together the passes keep
the candidates at the least distance, compared lexicographically: the place of
the most specific type accepted, then the depth of the wanted type.

* **distance** — the two places, as one lexicographic pair.
* **mem_narrow** — one pass keeps the candidates whose first hit comes soonest;
  that includes the case that no candidate hits anything.
* **mem_narrowed** — both passes keep those at the least distance.
-/

namespace AdapterWiring

/-! ## Distances -/

namespace Descriptor

variable (adapter : Descriptor)

/-- The place of the first level that holds a type the adapter can be built from. -/
def sourceDistance (levels : Levels) : Nat := levels.findIdx adapter.acceptsAny

/-- The place of the first level of the adapter that holds the wanted type. -/
def wantedDistance (wanted : String) : Nat := adapter.adaptsTo.findIdx (wanted ∈ ·)

/-- How far an adapter is from what is given and what is wanted; what is given counts first. -/
def distance (levels : Levels) (wanted : String) : ℕ ×ₗ ℕ :=
  toLex (adapter.sourceDistance levels, adapter.wantedDistance wanted)

variable {adapter}

theorem acceptsAny_iff {types : NameSet} :
    adapter.acceptsAny types = true ↔ ∃ type ∈ adapter.adaptsFrom, type ∈ types :=
  NameSet.meets_iff

theorem provides_iff {type : String} :
    adapter.provides type = true ↔ ∃ level ∈ adapter.adaptsTo, type ∈ level := by
  simp [provides]

/-- An adapter that accepts some of the types in levels accepts some of a single level. -/
theorem acceptsAny_all_iff {levels : Levels} :
    adapter.acceptsAny levels.all = true ↔ ∃ level ∈ levels, adapter.acceptsAny level = true := by
  simp only [acceptsAny_iff, Levels.mem_all]
  constructor
  · rintro ⟨type, accepted, level, isLevel, member⟩
    exact ⟨level, isLevel, type, accepted, member⟩
  · rintro ⟨level, isLevel, type, accepted, member⟩
    exact ⟨type, accepted, level, isLevel, member⟩

/-- Looking for the wanted type at each depth in turn finds the first level that holds it, when the
depths go far enough. -/
theorem findIdx_providesAt {wanted : String} {depths : Nat}
    (provided : adapter.provides wanted = true) (enough : adapter.adaptsTo.length ≤ depths) :
    (List.range depths).findIdx (adapter.providesAt · wanted) = adapter.wantedDistance wanted := by
  obtain ⟨level, isLevel, member⟩ := provides_iff.1 provided
  have found : adapter.wantedDistance wanted < adapter.adaptsTo.length :=
    List.findIdx_lt_length_of_exists ⟨level, isLevel, by simpa using member⟩
  rw [List.findIdx_eq (by simpa using Nat.lt_of_lt_of_le found enough)]
  constructor
  · have hit := List.findIdx_getElem (w := found)
    rw [List.getElem_range, providesAt, List.getElem?_eq_getElem found]
    exact hit
  -- depths past the last level hit nothing, so the search may go on beyond them
  · intro depth before
    have missed := List.not_of_lt_findIdx before
    have inside : depth < adapter.adaptsTo.length := Nat.lt_trans before found
    simpa [providesAt, inside] using missed

end Descriptor

/-! ## One pass -/

namespace Library

variable {candidates : List Descriptor} {adapter : Descriptor}

theorem narrow_sublist (tests : List (Descriptor → Bool)) (candidates : List Descriptor) :
    (narrow tests candidates).Sublist candidates := by
  induction tests with
  | nil => exact .refl _
  | cons test others ih =>
    rw [narrow]
    split
    · exact ih
    next hit hits found =>
      rw [← found]
      exact List.filter_sublist

theorem narrow_ne_nil (tests : List (Descriptor → Bool)) (some : candidates ≠ []) :
    narrow tests candidates ≠ [] := by
  induction tests with
  | nil => exact some
  | cons test others ih =>
    rw [narrow]
    split
    · exact ih
    · simp

/-- A pass keeps the candidates whose first hit comes soonest. -/
theorem mem_narrow {tests : List (Descriptor → Bool)} :
    adapter ∈ narrow tests candidates ↔ adapter ∈ candidates ∧
      ∀ other ∈ candidates, tests.findIdx (· adapter) ≤ tests.findIdx (· other) := by
  induction tests with
  | nil => simp [narrow]
  | cons test others ih =>
    rw [narrow]
    split
    next none =>
      -- no candidate passes, so the test only shifts every place by one
      have fails (other : Descriptor) (member : other ∈ candidates) : test other = false := by
        simpa using List.filter_eq_nil_iff.1 none other member
      have shifted (other : Descriptor) (member : other ∈ candidates) :
          (test :: others).findIdx (· other) = others.findIdx (· other) + 1 := by
        simp [List.findIdx_cons, fails other member]
      rw [ih]
      refine and_congr_right fun member => forall₂_congr fun other isOther => ?_
      rw [shifted adapter member, shifted other isOther, Nat.add_le_add_iff_right]
    next hit hits found =>
      have passes : hit ∈ candidates ∧ test hit = true :=
        List.mem_filter.1 (found ▸ List.mem_cons_self ..)
      have soonest : (test :: others).findIdx (· hit) = 0 := by
        simp [List.findIdx_cons, passes.2]
      rw [← found, List.mem_filter]
      refine and_congr_right fun member => ⟨fun passed other _ => ?_, fun least => ?_⟩
      · simp [List.findIdx_cons, passed]
      -- the hit is at the first test, so what comes as soon passes it too
      · have atStart := Nat.le_zero.1 (soonest ▸ least hit passes.1)
        rw [List.findIdx_cons] at atStart
        cases passed : test adapter with
        | true => rfl
        | false => simp [passed] at atStart

/-! ## Both passes -/

/-- The first pass keeps the candidates that accept the most specific type. -/
theorem mem_closestFrom {levels : Levels} :
    adapter ∈ closestFrom levels candidates ↔ adapter ∈ candidates ∧
      ∀ other ∈ candidates, adapter.sourceDistance levels ≤ other.sourceDistance levels := by
  have place (other : Descriptor) :
      (levels.map fun level (adapter : Descriptor) => adapter.acceptsAny level).findIdx (· other) =
        other.sourceDistance levels := by
    rw [List.findIdx_map]
    rfl
  rw [closestFrom, mem_narrow]
  simp only [place]

/-- The depth searched is at least that of every candidate. -/
theorem length_le_foldl_max (member : adapter ∈ candidates) (first : Nat) :
    adapter.adaptsTo.length ≤
      candidates.foldl (fun depth other => max depth other.adaptsTo.length) first := by
  have grows : ∀ (rest : List Descriptor) (depth : Nat),
      depth ≤ rest.foldl (fun depth other => max depth other.adaptsTo.length) depth := by
    intro rest
    induction rest with
    | nil => exact fun depth => Nat.le_refl _
    | cons head tail ih => exact fun depth => Nat.le_trans (Nat.le_max_left ..) (ih _)
  induction candidates generalizing first with
  | nil => simp at member
  | cons head rest ih =>
    rw [List.foldl_cons]
    rcases List.mem_cons.1 member with rfl | later
    · exact Nat.le_trans (Nat.le_max_right ..) (grows rest _)
    · exact ih later _

/-- The second pass keeps the candidates that have the wanted type at the least depth. -/
theorem mem_closestTo {wanted : String}
    (provided : ∀ other ∈ candidates, other.provides wanted = true) :
    adapter ∈ closestTo wanted candidates ↔ adapter ∈ candidates ∧
      ∀ other ∈ candidates, adapter.wantedDistance wanted ≤ other.wantedDistance wanted := by
  have place (depths : Nat) (other : Descriptor) (isCandidate : other.provides wanted = true)
      (enough : other.adaptsTo.length ≤ depths) :
      ((List.range depths).map fun depth (adapter : Descriptor) =>
        adapter.providesAt depth wanted).findIdx (· other) = other.wantedDistance wanted := by
    rw [List.findIdx_map]
    exact Descriptor.findIdx_providesAt isCandidate enough
  rw [closestTo, mem_narrow]
  refine and_congr_right fun member => forall₂_congr fun other isOther => ?_
  rw [place _ adapter (provided adapter member) (length_le_foldl_max member 0),
    place _ other (provided other isOther) (length_le_foldl_max isOther 0)]

/-- **Narrowing.** Both passes together keep the candidates at the least distance. -/
theorem mem_narrowed {levels : Levels} {wanted : String}
    (provided : ∀ other ∈ candidates, other.provides wanted = true) :
    adapter ∈ closestTo wanted (closestFrom levels candidates) ↔ adapter ∈ candidates ∧
      ∀ other ∈ candidates, adapter.distance levels wanted ≤ other.distance levels wanted := by
  rw [mem_closestTo fun other kept => provided other (mem_closestFrom.1 kept).1]
  simp only [mem_closestFrom, Descriptor.distance, Prod.Lex.toLex_le_toLex]
  constructor
  · rintro ⟨⟨member, nearest⟩, least⟩
    refine ⟨member, fun other isOther => ?_⟩
    rcases Nat.lt_or_eq_of_le (nearest other isOther) with nearer | equal
    · exact .inl nearer
    · exact .inr ⟨equal, least other ⟨isOther, fun third isThird => equal ▸ nearest third isThird⟩⟩
  · rintro ⟨member, least⟩
    have nearest (other : Descriptor) (isOther : other ∈ candidates) :
        adapter.sourceDistance levels ≤ other.sourceDistance levels := by
      rcases least other isOther with nearer | ⟨equal, _⟩
      · exact Nat.le_of_lt nearer
      · exact Nat.le_of_eq equal
    refine ⟨⟨member, nearest⟩, fun other ⟨isOther, alsoNearest⟩ => ?_⟩
    rcases least other isOther with nearer | ⟨_, least⟩
    · exact absurd nearer (Nat.not_lt_of_le (alsoNearest adapter member))
    · exact least

end Library

end AdapterWiring
