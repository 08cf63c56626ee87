import AdapterWiring.Proofs.Adapter.Verdict
import Mathlib

/-!
# Eligibility is monotone

An adapter is eligible by the types that can be passed to it and by those above
its own. A type below the one given can be passed wherever that can, and a type
above the one wanted is above the adapter too, since the levels of an adapter
that was discovered hold all that is above it. What can be passed to an adapter
concerns no other adapter.

* **Discovered** — libraries of adapters whose levels a hierarchy has given.
* **fitting_subset, eligible_sublist** — what fits still fits between a type below
  and a type above.
* **file, widen** — an adapter filed anew, and one that takes more types.
* **Admits** — lists that differ by one adapter that takes more types now.
* **eligible_monotone** — both in sessions with any history.
-/

namespace AdapterWiring

/-- Putting a value in place of another one changes one entry of a map. -/
theorem NameMap.exists_entries {α : Type} {map : NameMap α} {name : String} {value : α}
    (found : map.get? name = some value) :
    ∃ front back, map.entries = front ++ (name, value) :: back ∧
      ∀ other, (map.insert name other).entries = front ++ (name, other) :: back := by
  obtain ⟨entries, sorted⟩ := map
  change SortedEntries.find? name entries = some value at found
  show ∃ front back, entries = _ ∧ ∀ other, SortedEntries.insert name other entries = _
  induction entries with
  | nil => cases found
  | cons head rest ih =>
    obtain ⟨before, sortedRest⟩ := List.pairwise_cons.1 sorted
    rw [SortedEntries.find?] at found
    split at found
    next same =>
      subst same
      obtain rfl := Option.some.inj found
      exact ⟨[], rest, rfl, fun other => by simp [SortedEntries.insert]⟩
    next different =>
      obtain ⟨front, back, rfl, replaced⟩ := ih sortedRest found
      have after : head.1 < name := before name (by simp)
      refine ⟨head :: front, back, rfl, fun other => ?_⟩
      rw [SortedEntries.insert, if_neg (String.lt_asymm after), if_neg (Ne.symm different),
        replaced, List.cons_append]

/-- The adapter that can also be built from some types. -/
def Descriptor.widen (adapter : Descriptor) (types : NameSet) : Descriptor :=
  { adapter with adaptsFrom := adapter.adaptsFrom.union types }

theorem Descriptor.acceptsAny_widen {adapter : Descriptor} (types : NameSet) {given : NameSet}
    (accepts : adapter.acceptsAny given = true) : (adapter.widen types).acceptsAny given = true := by
  obtain ⟨type, accepted, isGiven⟩ := acceptsAny_iff.1 accepts
  exact acceptsAny_iff.2 ⟨type, NameSet.mem_union.2 (.inl accepted), isGiven⟩

namespace Library

variable {library : Library} {oracle : Oracle}

/-! ## Discovered adapters -/

/-- Each adapter was discovered in a session over the oracle, whatever had been asked before. -/
def Discovered (library : Library) (oracle : Oracle) : Prop :=
  ∀ adapter ∈ library.descriptors, ∃ queries parameters,
    ((Descriptor.discover (Session.ancestry oracle) adapter.name parameters).run
      (Session.start.asking oracle queries)).1 = .ok adapter

/-- The levels of an adapter that was discovered are those of its own type. -/
theorem Discovered.levels (discovered : library.Discovered oracle) {adapter : Descriptor}
    (member : adapter ∈ library.descriptors) :
    oracle.levels adapter.name = .ok adapter.adaptsTo := by
  obtain ⟨queries, parameters, ok⟩ := discovered adapter member
  rw [(Session.Answers.discover adapter.name parameters).asked queries] at ok
  change (oracle.levels adapter.name).map (Descriptor.mk adapter.name parameters) = _ at ok
  cases found : oracle.levels adapter.name with
  | error failure => simp [found, Except.map] at ok
  | ok levels =>
    rw [found] at ok
    simp only [Except.map, Except.ok.injEq] at ok
    rw [← ok]

/-- An adapter that was discovered provides what is above its own type. -/
theorem Discovered.provides_iff (discovered : library.Discovered oracle) {adapter : Descriptor}
    (member : adapter ∈ library.descriptors) (wanted : String) :
    (∃ level ∈ adapter.adaptsTo, wanted ∈ level) ↔ oracle.lookup.Above adapter.name wanted := by
  rw [← Levels.mem_all, Oracle.mem_levels_iff (discovered.levels member)]

/-! ## Types below and above -/

section Subtypes

variable {source narrower wanted wider : String}

/-- What fits between two types fits between a type below the one and a type above the other. -/
theorem fitting_subset (discovered : library.Discovered oracle)
    (below : oracle.lookup.Reaches narrower source) (above : oracle.lookup.Reaches wanted wider) :
    library.fitting oracle.lookup source wanted ⊆ library.fitting oracle.lookup narrower wider := by
  rintro adapter ⟨member, ⟨type, accepted, reached⟩, provided⟩
  refine ⟨member, ⟨type, accepted, below.trans reached⟩, ?_⟩
  have ownAbove := (discovered.provides_iff member wanted).1 provided
  exact (discovered.provides_iff member wider).2 (ownAbove.trans_left above)

/-- So the eligible adapters between the former are among those between the latter, in the same
order. -/
theorem eligible_sublist (discovered : library.Discovered oracle) {found others : Levels}
    (levelsOk : oracle.levels source = .ok found) (othersOk : oracle.levels narrower = .ok others)
    (below : oracle.lookup.Reaches narrower source) (above : oracle.lookup.Reaches wanted wider) :
    (library.eligible (.singleton source :: found) wanted).Sublist
      (library.eligible (.singleton narrower :: others) wider) := by
  have kept (adapter : Descriptor)
      (eligible : adapter ∈ library.eligible (.singleton source :: found) wanted) :
      adapter ∈ library.eligible (.singleton narrower :: others) wider := by
    rw [← mem_fitting_iff levelsOk] at eligible
    rw [← mem_fitting_iff othersOk]
    exact fitting_subset discovered below above eligible
  -- the former are not changed by the test for the latter, which goes through a part of all
  have passed : (library.eligible (.singleton source :: found) wanted).filter _ =
      library.eligible (.singleton source :: found) wanted :=
    List.filter_eq_self.2 fun adapter eligible => (List.mem_filter.1 (kept adapter eligible)).2
  rw [← passed]
  exact List.filter_sublist.filter _

/-- If the question for the former is answered, so is that for the latter. -/
theorem queryEligible_subtypes (discovered : library.Discovered oracle) {found : List Descriptor}
    (below : (oracle.ancestry.isSubtypeOrEqual narrower source).run = .ok true)
    (above : (oracle.ancestry.isSubtypeOrEqual wanted wider).run = .ok true)
    (ok : (library.queryEligible oracle.ancestry source wanted).run = .ok found) :
    ∃ others, (library.queryEligible oracle.ancestry narrower wider).run = .ok others ∧
      found.Sublist others := by
  cases levelsOk : oracle.levels source with
  | error failure => simp [queryEligible_of_unknown levelsOk] at ok
  | ok levels =>
    rw [queryEligible_of_levels levelsOk, Except.ok.injEq] at ok
    have known : oracle.lookup.KnownFrom narrower := by
      rcases Oracle.isSubtypeOrEqual_iff.1 below with rfl | ⟨known, _⟩
      · exact Oracle.exists_levels_iff.1 ⟨levels, levelsOk⟩
      · exact known
    obtain ⟨others, othersOk⟩ := Oracle.exists_levels_iff.2 known
    refine ⟨_, queryEligible_of_levels othersOk, ?_⟩
    rw [← ok]
    exact eligible_sublist discovered levelsOk othersOk
      (Oracle.reaches_of_isSubtypeOrEqual below) (Oracle.reaches_of_isSubtypeOrEqual above)

end Subtypes

/-! ## More types to be built from -/

/-- File an adapter under a name, in place of the one there. -/
def file (library : Library) (name : String) (adapter : Descriptor) : Library :=
  { library with adapters := library.adapters.insert name adapter }

/-- Lists that differ at most by one adapter, which `others` has in its wider form, and `found` in
its own or not at all. -/
def Admits (adapter wider : Descriptor) (found others : List Descriptor) : Prop :=
  others = found ∨ ∃ front back, others = front ++ wider :: back ∧
    (found = front ++ adapter :: back ∨ found = front ++ back)

variable {adapter : Descriptor} {name : String}

/-- A library with another adapter under a name lists it in place of the one before. -/
theorem exists_descriptors (filed : library.get? name = some adapter) :
    ∃ front back, library.descriptors = front ++ adapter :: back ∧
      ∀ other, (library.file name other).descriptors = front ++ other :: back := by
  obtain ⟨front, back, entries, replaced⟩ := NameMap.exists_entries filed
  refine ⟨front.map Prod.snd, back.map Prod.snd, ?_, fun other => ?_⟩
  · rw [descriptors, NameMap.values, entries, List.map_append, List.map_cons]
  · rw [descriptors, NameMap.values, file, replaced, List.map_append, List.map_cons]

/-- An adapter that can be built from more types may become eligible. All else stays. -/
theorem admits_eligible (filed : library.get? name = some adapter) (types : NameSet)
    (levels : Levels) (wanted : String) :
    Admits adapter (adapter.widen types) (library.eligible levels wanted)
      ((library.file name (adapter.widen types)).eligible levels wanted) := by
  obtain ⟨front, back, listed, replaced⟩ := exists_descriptors filed
  rw [eligible, eligible, listed, replaced]
  generalize isTest : (fun adapter : Descriptor =>
    adapter.acceptsAny levels.all && adapter.provides wanted) = test
  have grows (passes : test adapter = true) : test (adapter.widen types) = true := by
    subst isTest
    obtain ⟨accepts, provides⟩ := Bool.and_eq_true_iff.1 passes
    exact Bool.and_eq_true_iff.2 ⟨Descriptor.acceptsAny_widen types accepts, provides⟩
  simp only [List.filter_append]
  by_cases passes : test (adapter.widen types) = true
  · refine .inr ⟨front.filter test, back.filter test, by rw [List.filter_cons_of_pos passes], ?_⟩
    by_cases before : test adapter = true
    · exact .inl (by rw [List.filter_cons_of_pos before])
    · exact .inr (by rw [List.filter_cons_of_neg before])
  · refine .inl ?_
    rw [List.filter_cons_of_neg passes, List.filter_cons_of_neg (mt grows passes)]

/-- The question for the eligible adapters fails as before, or has the answer that it had but for
that adapter. -/
theorem queryEligible_widen (filed : library.get? name = some adapter) (types : NameSet)
    {source wanted : String} :
    let widened := library.file name (adapter.widen types)
    (∀ failure, (library.queryEligible oracle.ancestry source wanted).run = .error failure ↔
      (widened.queryEligible oracle.ancestry source wanted).run = .error failure) ∧
    ∀ found, (library.queryEligible oracle.ancestry source wanted).run = .ok found →
      ∃ others, (widened.queryEligible oracle.ancestry source wanted).run = .ok others ∧
        Admits adapter (adapter.widen types) found others := by
  intro widened
  cases levelsOk : oracle.levels source with
  | error failure =>
    rw [queryEligible_of_unknown levelsOk, queryEligible_of_unknown levelsOk]
    exact ⟨fun _ => .rfl, fun _ ok => nomatch ok⟩
  | ok levels =>
    rw [queryEligible_of_levels levelsOk, queryEligible_of_levels levelsOk]
    refine ⟨fun _ => iff_of_false (fun failed => nomatch failed) (fun failed => nomatch failed),
      fun found ok => ⟨_, rfl, ?_⟩⟩
    obtain rfl := Except.ok.inj ok
    exact admits_eligible filed types _ wanted

/-! ## Sessions -/

/-- **Monotonicity.** Let a hierarchy stay the same, and the questions be put to sessions with any
history. In a library of discovered adapters, those eligible between two types are eligible, and in
the same order, between any subtype of the one and any supertype of the other; the question for them
does not fail then. In any library an adapter that can be built from more types than before may
become eligible, and nothing else changes in what is eligible between any two types. -/
theorem eligible_monotone (library : Library) (oracle : Oracle) (before after : List Query) :
    let types := Session.ancestry oracle
    let earlier := Session.start.asking oracle before
    let later := Session.start.asking oracle after
    (library.Discovered oracle → ∀ source narrower wanted wider found,
      ((types.isSubtypeOrEqual narrower source).run earlier).1 = .ok true →
      ((types.isSubtypeOrEqual wanted wider).run earlier).1 = .ok true →
      ((library.queryEligible types source wanted).run earlier).1 = .ok found →
        ∃ others, ((library.queryEligible types narrower wider).run later).1 = .ok others ∧
          found.Sublist others) ∧
    ∀ name adapter, library.get? name = some adapter → ∀ more source wanted,
      let widened := library.file name (adapter.widen more)
      (∀ failure, ((library.queryEligible types source wanted).run earlier).1 = .error failure ↔
        ((widened.queryEligible types source wanted).run later).1 = .error failure) ∧
      ∀ found, ((library.queryEligible types source wanted).run earlier).1 = .ok found →
        ∃ others, ((widened.queryEligible types source wanted).run later).1 = .ok others ∧
          Admits adapter (adapter.widen more) found others := by
  intro types earlier later
  -- sessions answer like the oracle, whatever was asked before
  have subtypeEq (lower upper : String) : ((types.isSubtypeOrEqual lower upper).run earlier).1 =
      (oracle.ancestry.isSubtypeOrEqual lower upper).run :=
    (Session.Answers.isSubtypeOrEqual lower upper).asked before
  have earlierEq (library : Library) (source wanted : String) :
      ((library.queryEligible types source wanted).run earlier).1 =
        (library.queryEligible oracle.ancestry source wanted).run :=
    (Session.Answers.eligible library source wanted).asked before
  have laterEq (library : Library) (source wanted : String) :
      ((library.queryEligible types source wanted).run later).1 =
        (library.queryEligible oracle.ancestry source wanted).run :=
    (Session.Answers.eligible library source wanted).asked after
  simp only [subtypeEq, earlierEq, laterEq]
  constructor
  · intro discovered source narrower wanted wider found below above eligible
    exact queryEligible_subtypes discovered below above eligible
  · intro name adapter filed more source wanted
    exact queryEligible_widen filed more

/-- A type below another, two types above each other, an adapter, and a type with a supertype that
is not known. -/
def ringTypes : NameMap NameSet :=
  .ofList [("SubB", .singleton "B"), ("B", .singleton "Object"), ("Object", ∅),
    ("A", .singleton "Ring"), ("Ring", .singleton "A"), ("BtoA", .singleton "A"),
    ("Odd", .singleton "Missing")]

/-- The adapter, as it is discovered. -/
def ringAdapter : Descriptor := ⟨"BtoA", .singleton "B", [.singleton "A", .singleton "Ring"]⟩

theorem eligible_monotone_ring :
    let types := Session.ancestry (.ofTable ringTypes)
    let library := ofList [ringAdapter]
    let earlier := Session.start.asking (.ofTable ringTypes) [.levels "Odd"]
    let later := Session.start.asking (.ofTable ringTypes) [.subtypeOrEqual "A" "A", .known "Ring"]
    (library.Discovered (.ofTable ringTypes) ∧
      ((types.isSubtypeOrEqual "SubB" "B").run earlier).1 = .ok true ∧
      ((types.isSubtypeOrEqual "A" "Ring").run earlier).1 = .ok true ∧
      ((library.queryEligible types "B" "A").run earlier).1 = .ok [ringAdapter] ∧
      ∃ others, ((library.queryEligible types "SubB" "Ring").run later).1 = .ok others ∧
        [ringAdapter].Sublist others) ∧
    library.get? "BtoA" = some ringAdapter ∧
    ((library.queryEligible types "Object" "A").run earlier).1 = .ok [] ∧
    ∃ others, (((library.file "BtoA" (ringAdapter.widen (.singleton "Object"))).queryEligible types
        "Object" "A").run later).1 = .ok others ∧
      Admits ringAdapter (ringAdapter.widen (.singleton "Object")) [] others := by
  have listed : (ofList [ringAdapter]).descriptors = [ringAdapter] := by decide +kernel
  have discovered : (ofList [ringAdapter]).Discovered (.ofTable ringTypes) := by
    intro adapter member
    rw [listed, List.mem_singleton] at member
    subst member
    exact ⟨[], .singleton "B", by cbv⟩
  have filed : (ofList [ringAdapter]).get? "BtoA" = some ringAdapter := by decide +kernel
  have below : (((Session.ancestry (.ofTable ringTypes)).isSubtypeOrEqual "SubB" "B").run
      (Session.start.asking (.ofTable ringTypes) [.levels "Odd"])).1 = .ok true := by cbv
  have above : (((Session.ancestry (.ofTable ringTypes)).isSubtypeOrEqual "A" "Ring").run
      (Session.start.asking (.ofTable ringTypes) [.levels "Odd"])).1 = .ok true := by cbv
  have some' : (((ofList [ringAdapter]).queryEligible (Session.ancestry (.ofTable ringTypes)) "B"
      "A").run (Session.start.asking (.ofTable ringTypes) [.levels "Odd"])).1 =
        .ok [ringAdapter] := by cbv
  have none : (((ofList [ringAdapter]).queryEligible (Session.ancestry (.ofTable ringTypes))
      "Object" "A").run (Session.start.asking (.ofTable ringTypes) [.levels "Odd"])).1 =
        .ok [] := by cbv
  obtain ⟨subtypes, widened⟩ := eligible_monotone (ofList [ringAdapter]) (.ofTable ringTypes)
    [.levels "Odd"] [.subtypeOrEqual "A" "A", .known "Ring"]
  exact ⟨⟨discovered, below, above, some', subtypes discovered _ _ _ _ _ below above some'⟩, filed,
    none, (widened "BtoA" ringAdapter filed (.singleton "Object") "Object" "A").2 [] none⟩

end Library

end AdapterWiring
