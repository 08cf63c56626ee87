import AdapterWiring.Proofs.Hierarchy.Layers
import Mathlib

/-!
# Subtyping and distance

Whether one type is below another is answered by a walk from the one, and each
type has a walk of its own. Still the answers fit together: paths can be put one
after the other, and no level is further up than a path to what it holds.

* **Path.trans** — the lengths of paths add up.
* **Layered.exists_le** — a path leads to a level no higher than its length.
* **Oracle.isSubtypeOrEqual_error_iff** — when there is no answer.
* **Oracle.subtyping_preorder** — reflexive, transitive, and with distances that
  add up at most, after any history of queries.
-/

namespace AdapterWiring

namespace Lookup

variable {lookup : Lookup} {start middle : String}

/-! ## Paths one after the other -/

theorem Path.trans {length further : Nat} {name : String}
    (path : lookup.Path start length middle) (onward : lookup.Path middle further name) :
    lookup.Path start (length + further) name := by
  induction onward with
  | here => exact path
  | up _ direct ih => exact .up ih direct

/-- A path that is not empty leads to what is above its start. -/
theorem Path.above {length : Nat} {name : String} (path : lookup.Path start (length + 1) name) :
    lookup.Above start name := by
  obtain ⟨lower, below, direct⟩ := path_succ_iff.1 path
  exact .tail' (reaches_iff_exists_path.2 ⟨length, below⟩) direct

/-- What a path leads to is in a level that is no further up than the path is long. -/
theorem Layered.exists_le {levels : Levels} (layered : lookup.Layered start levels) {length : Nat}
    {name : String} (path : lookup.Path start (length + 1) name) :
    ∃ place, ∃ bound : place < levels.length, place ≤ length ∧ name ∈ levels[place] := by
  obtain ⟨level, isLevel, member⟩ := (layered.exists_mem_iff name).2 path.above
  obtain ⟨place, bound, rfl⟩ := List.mem_iff_getElem.1 isLevel
  refine ⟨place, bound, ?_, member⟩
  by_contra beyond
  exact ((layered.mem_iff place bound name).1 member).2 length (by omega) path

/-- What is in a level of a type in a level of the start is at most as far up as both together. -/
theorem Layered.exists_add_le {levels others : Levels} (layered : lookup.Layered start levels)
    (above : lookup.Layered middle others) {place further : Nat} {name : String}
    (bound : place < levels.length) (isMiddle : middle ∈ levels[place])
    (bound' : further < others.length) (member : name ∈ others[further]) :
    ∃ found, ∃ bound : found < levels.length, found ≤ place + further + 1 ∧
      name ∈ levels[found] := by
  have toMiddle := ((layered.mem_iff place bound middle).1 isMiddle).1
  have onward := ((above.mem_iff further bound' name).1 member).1
  have path : lookup.Path start (place + further + 1 + 1) name := by
    have together := toMiddle.trans onward
    rwa [Nat.add_add_add_comm] at together
  exact layered.exists_le path

/-! ## Types that are known -/

/-- What is reached from a type from which all is known has all known above it. -/
theorem KnownFrom.of_reaches (known : lookup.KnownFrom start)
    (reached : lookup.Reaches start middle) : lookup.KnownFrom middle :=
  fun name above => known name (reached.trans above)

theorem not_knownFrom_iff : ¬ lookup.KnownFrom start ↔
    ∃ name, lookup.Reaches start name ∧ lookup name = none := by
  simp only [KnownFrom, not_forall, not_not, exists_prop]

end Lookup

namespace Oracle

variable {oracle : Oracle}

/-! ## Answers -/

theorem layered_of_levels {name : String} {levels : Levels}
    (found : oracle.levels name = .ok levels) : oracle.lookup.Layered name levels :=
  Lookup.layered_of_walk found

/-- A type is a subtype of itself and, if all that is reached is known, of what is reached from it. -/
theorem isSubtypeOrEqual_ok_iff {lower upper : String} :
    (oracle.ancestry.isSubtypeOrEqual lower upper).run = .ok true ↔
      lower = upper ∨ oracle.lookup.Reaches lower upper ∧ oracle.lookup.KnownFrom lower := by
  rw [isSubtypeOrEqual_iff, Lookup.reaches_iff_eq_or_above]
  constructor
  · rintro (same | ⟨known, above⟩)
    · exact .inl same
    · exact .inr ⟨.inr above, known⟩
  · rintro (same | ⟨same | above, known⟩)
    · exact .inl same
    · exact .inl same.symm
    · exact .inr ⟨known, above⟩

/-- There is no answer for two different types, the lower one with a type above it, or itself, that
is not known. -/
theorem isSubtypeOrEqual_error_iff {lower upper : String} :
    (∃ failure, (oracle.ancestry.isSubtypeOrEqual lower upper).run = .error failure) ↔
      lower ≠ upper ∧ ¬ oracle.lookup.KnownFrom lower := by
  unfold Ancestry.isSubtypeOrEqual
  split
  next same =>
    refine iff_of_false ?_ fun ⟨different, _⟩ => different same
    rintro ⟨failure, error⟩
    cases error
  next different =>
    rw [← exists_levels_iff]
    show (∃ failure, (oracle.levels lower).map (·.any (upper ∈ ·)) = .error failure) ↔ _
    cases oracle.levels lower with
    | ok levels => simp [Except.map]
    | error failure => simp [Except.map, different]

theorem isSubtypeOrEqual_trans {lower middle upper : String}
    (first : (oracle.ancestry.isSubtypeOrEqual lower middle).run = .ok true)
    (second : (oracle.ancestry.isSubtypeOrEqual middle upper).run = .ok true) :
    (oracle.ancestry.isSubtypeOrEqual lower upper).run = .ok true := by
  rw [isSubtypeOrEqual_ok_iff] at first second ⊢
  rcases first with rfl | ⟨reached, known⟩
  · exact second
  · rcases second with rfl | ⟨onward, _⟩
    · exact .inr ⟨reached, known⟩
    · exact .inr ⟨reached.trans onward, known⟩

/-! ## Subtyping -/

/-- What a session answers to a query after others. -/
def answer {α : Type} (oracle : Oracle) (before : List Query) (query : StateM Session α) : α :=
  (query.run (Session.start.asking oracle before)).1

/-- **Subtyping.** Let an oracle answer the same at all times, and let each query be asked in a
session with a history of its own. One type is found to be a subtype of another exactly if they are
the same, or the other is reached from it by declared supertypes and all that is reached is known;
there is no answer exactly if they are different and something that is reached is not known. So
every type, known or not, is a subtype of itself, and subtypes of subtypes are subtypes. What is in
a level of a type has levels, too, and their names are in levels of that type that are at most as
far up as both together. -/
theorem subtyping_preorder (oracle : Oracle) :
    let types := Session.ancestry oracle
    (∀ before lower upper, oracle.answer before (types.isSubtypeOrEqual lower upper) = .ok true ↔
      lower = upper ∨ oracle.lookup.Reaches lower upper ∧
        ∀ name, oracle.lookup.Reaches lower name → oracle.lookup name ≠ none) ∧
    (∀ before lower upper,
      (∃ failure, oracle.answer before (types.isSubtypeOrEqual lower upper) = .error failure) ↔
        lower ≠ upper ∧ ∃ name, oracle.lookup.Reaches lower name ∧ oracle.lookup name = none) ∧
    (∀ before name, oracle.answer before (types.isSubtypeOrEqual name name) = .ok true) ∧
    (∀ first second third lower middle upper,
      oracle.answer first (types.isSubtypeOrEqual lower middle) = .ok true →
      oracle.answer second (types.isSubtypeOrEqual middle upper) = .ok true →
        oracle.answer third (types.isSubtypeOrEqual lower upper) = .ok true) ∧
    (∀ first second lower middle below, oracle.answer first (types.levels lower) = .ok below →
      ∀ place (bound : place < below.length), middle ∈ below[place] →
        ∃ above, oracle.answer second (types.levels middle) = .ok above ∧
          ∀ further (bound' : further < above.length), ∀ upper ∈ above[further],
            ∃ found, ∃ bound : found < below.length,
              found ≤ place + further + 1 ∧ upper ∈ below[found]) := by
  intro types
  have subtype (before : List Query) (lower upper : String) :
      oracle.answer before (types.isSubtypeOrEqual lower upper) =
        (oracle.ancestry.isSubtypeOrEqual lower upper).run :=
    (Session.Answers.isSubtypeOrEqual lower upper).asked before
  have levels (before : List Query) (name : String) :
      oracle.answer before (types.levels name) = oracle.levels name :=
    (Session.Answers.levels name).asked before
  simp only [subtype, levels]
  refine ⟨fun _ _ _ => isSubtypeOrEqual_ok_iff, fun _ _ _ => ?_,
    fun _ _ => isSubtypeOrEqual_ok_iff.2 (.inl rfl), fun _ _ _ _ _ _ => isSubtypeOrEqual_trans, ?_⟩
  · rw [isSubtypeOrEqual_error_iff, Lookup.not_knownFrom_iff]
  · intro _ _ lower middle below ok place bound isMiddle
    have known : oracle.lookup.KnownFrom lower := exists_levels_iff.1 ⟨below, ok⟩
    have reached : oracle.lookup.Reaches lower middle :=
      ((mem_levels_iff ok middle).1
        (Levels.mem_all.2 ⟨_, List.getElem_mem bound, isMiddle⟩)).to_reflTransGen
    obtain ⟨above, okAbove⟩ := exists_levels_iff.2 (known.of_reaches reached)
    refine ⟨above, okAbove, fun further bound' upper member => ?_⟩
    exact (layered_of_levels ok).exists_add_le (layered_of_levels okAbove) bound isMiddle bound'
      member

/-- Three types above one another, one of them by a shortcut as well. -/
def roundabout : Oracle :=
  .ofTable (.ofList [("A", .ofList ["B", "C"]), ("B", .singleton "C"), ("C", .singleton "A")])

theorem subtyping_preorder_roundabout :
    let types := Session.ancestry roundabout
    let below : Levels := [.singleton "C", .singleton "A", .singleton "B"]
    (roundabout.answer [] (types.isSubtypeOrEqual "B" "A") = .ok true ∧
      roundabout.answer [.levels "C"] (types.isSubtypeOrEqual "A" "C") = .ok true ∧
      roundabout.answer [.levels "B"] (types.isSubtypeOrEqual "B" "C") = .ok true) ∧
    roundabout.answer [] (types.levels "B") = .ok below ∧ "A" ∈ below[1] ∧
    ∃ above, roundabout.answer [.levels "B"] (types.levels "A") = .ok above ∧
      ∀ further (bound' : further < above.length), ∀ upper ∈ above[further],
        ∃ found, ∃ bound : found < below.length,
          found ≤ 1 + further + 1 ∧ upper ∈ below[found] := by
  have first : roundabout.answer [] ((Session.ancestry roundabout).isSubtypeOrEqual "B" "A") =
      .ok true := by cbv
  have second : roundabout.answer [.levels "C"]
      ((Session.ancestry roundabout).isSubtypeOrEqual "A" "C") = .ok true := by cbv
  have ok : roundabout.answer [] ((Session.ancestry roundabout).levels "B") =
      .ok [.singleton "C", .singleton "A", .singleton "B"] := by cbv
  obtain ⟨_, _, _, transitive, additive⟩ := subtyping_preorder roundabout
  have third := transitive [] [.levels "C"] [.levels "B"] "B" "A" "C" first second
  have isMiddle : "A" ∈ NameSet.singleton "A" := NameSet.mem_singleton.2 rfl
  exact ⟨⟨first, second, third⟩, ok, isMiddle,
    additive [] [.levels "B"] "B" "A" _ ok 1 (by decide) isMiddle⟩

end Oracle

end AdapterWiring
