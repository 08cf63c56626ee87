import AdapterWiring.Proofs.Adapter.Verdict
import Mathlib

/-!
# The best adapter and an adapter asked for

Resolution narrows the adapters down and names those that are left. An adapter
that is asked for is looked up by its name and has to be eligible, nothing
more. Both look at the adapters that fit, so they never disagree.

* **Decides.two_le_size** — a verdict that picks no adapter names none or at
  least two.
* **checkExplicit_ok_iff, checkExplicit_notEligible_iff** — the check of an
  adapter of the library, by the adapters that fit.
* **resolve_agrees_explicit** — what every kind of verdict says about the
  checks, and which checks make up the verdict that there is no adapter.
-/

namespace AdapterWiring

/-- A set with two different members has at least two. -/
theorem NameSet.two_le_size {set : NameSet} {first second : String} (isFirst : first ∈ set)
    (isSecond : second ∈ set) (different : first ≠ second) : 2 ≤ set.size := by
  rw [mem_def] at isFirst isSecond
  rw [size]
  match set.toList, isFirst, isSecond with
  | [only], isFirst, isSecond =>
    rw [List.mem_singleton] at isFirst isSecond
    exact absurd (isFirst.trans isSecond.symm) different
  | one :: other :: rest, _, _ => simp

namespace Library

variable {library : Library} {oracle : Oracle} {name source wanted : String}

/-! ## The adapters named -/

section Decides

variable {precedence : Precedence} {levels : Levels} {fit : Set Descriptor}

/-- The names of several adapters are several where adapters are told apart by their names. -/
theorem Names.two_le_size {adapters : Set Descriptor} {names : NameSet}
    (areNames : Names names adapters) (several : adapters.Nontrivial)
    (distinct : ∀ adapter ∈ adapters, ∀ other ∈ adapters, adapter.name = other.name →
      adapter = other) : 2 ≤ names.size := by
  obtain ⟨adapter, isOne, other, isOther, different⟩ := several
  refine NameSet.two_le_size ((areNames _).2 ⟨adapter, isOne, rfl⟩)
    ((areNames _).2 ⟨other, isOther, rfl⟩) fun same => ?_
  exact different (distinct adapter isOne other isOther same)

/-- A verdict that names adapters without picking one names at least two. -/
theorem Decides.two_le_size {verdict : Verdict} {names : NameSet}
    (decides : Decides precedence levels wanted fit verdict)
    (distinct : ∀ adapter ∈ fit, ∀ other ∈ fit, adapter.name = other.name → adapter = other)
    (unsettled : verdict = .ambiguous names ∨ verdict = .cyclicPrecedence names) :
    2 ≤ names.size := by
  have distinctIn {adapters : Set Descriptor} (inside : adapters ⊆ nearest levels wanted fit) :
      ∀ adapter ∈ adapters, ∀ other ∈ adapters, adapter.name = other.name → adapter = other :=
    fun adapter isOne other isOther => distinct adapter (inside isOne).1 other (inside isOther).1
  cases decides with
  | notFound _ => simp at unsettled
  | only _ => simp at unsettled
  | preferred _ _ => simp at unsettled
  | cyclic several _ areNames =>
    obtain rfl : _ = names := by simpa using unsettled
    exact areNames.two_le_size several (distinctIn Set.Subset.rfl)
  | ambiguous _ left areNames =>
    obtain rfl : _ = names := by simpa using unsettled
    exact areNames.two_le_size left (distinctIn unpreceded_subset)

/-- The verdict that there is no adapter is given exactly where none fits. -/
theorem Decides.notFound_iff {verdict : Verdict}
    (decides : Decides precedence levels wanted fit verdict) : verdict = .notFound ↔ fit = ∅ := by
  constructor
  · rintro rfl
    cases decides with
    | notFound none => exact none
  · intro none
    exact decides.unique (.notFound none)

end Decides

/-! ## Checks of an adapter -/

variable {found : Levels} {failure : UnknownType}

theorem checkExplicit_ok_iff (contained : library.contains name = true)
    (levelsOk : oracle.levels source = .ok found) :
    (library.checkExplicit oracle.ancestry name source wanted).run = .ok () ↔
      ∃ adapter ∈ library.fitting oracle.lookup source wanted, adapter.name = name := by
  rcases checkExplicit_of_levels contained levelsOk with ⟨ok, fits⟩ | ⟨refused, notFits⟩
  · exact iff_of_true ok fits
  · exact iff_of_false (by simp [refused]) notFits

theorem checkExplicit_notEligible_iff (contained : library.contains name = true)
    (levelsOk : oracle.levels source = .ok found) :
    (library.checkExplicit oracle.ancestry name source wanted).run =
        .error (.notEligible name source wanted) ↔
      ¬ ∃ adapter ∈ library.fitting oracle.lookup source wanted, adapter.name = name := by
  rcases checkExplicit_of_levels contained levelsOk with ⟨ok, fits⟩ | ⟨refused, notFits⟩
  · exact iff_of_false (by simp [ok]) (not_not_intro fits)
  · exact iff_of_true refused notFits

/-! ## Agreement -/

/-- An adapter that the verdict names can be used when it is asked for. -/
theorem checkExplicit_of_named (filed : library.WellFiled) {verdict : Verdict}
    (ok : (library.resolve oracle.ancestry source wanted).run = .ok verdict)
    (isNamed : name ∈ verdict.named) :
    (library.checkExplicit oracle.ancestry name source wanted).run = .ok () := by
  obtain ⟨adapter, fits, named⟩ := mem_fitting_of_resolve filed ok isNamed
  have contained : library.contains name = true := named ▸ filed.contains fits.1
  cases levelsOk : oracle.levels source with
  | error failure => simp [resolve_of_unknown levelsOk] at ok
  | ok found => exact (checkExplicit_ok_iff contained levelsOk).2 ⟨adapter, fits, named⟩

/-- A verdict that leaves several adapters names at least two. -/
theorem two_le_size_of_resolve (filed : library.WellFiled) {verdict : Verdict} {names : NameSet}
    (ok : (library.resolve oracle.ancestry source wanted).run = .ok verdict)
    (unsettled : verdict = .ambiguous names ∨ verdict = .cyclicPrecedence names) :
    2 ≤ names.size := by
  cases levelsOk : oracle.levels source with
  | error failure => simp [resolve_of_unknown levelsOk] at ok
  | ok found =>
    rw [resolve_of_levels levelsOk, Except.ok.injEq] at ok
    have decides := decides_verdict filed (mem_fitting_iff levelsOk wanted)
    rw [ok] at decides
    exact decides.two_le_size
      (fun adapter fits other alsoFits => filed.eq_of_name fits.1 alsoFits.1) unsettled

/-- There is no adapter exactly if the type given has levels and no adapter of the library is
eligible. -/
theorem resolve_notFound_iff (filed : library.WellFiled) :
    (library.resolve oracle.ancestry source wanted).run = .ok .notFound ↔
      (∃ found, oracle.levels source = .ok found) ∧
      ∀ name, library.contains name = true →
        (library.checkExplicit oracle.ancestry name source wanted).run =
          .error (.notEligible name source wanted) := by
  cases levelsOk : oracle.levels source with
  | error failure => simp [resolve_of_unknown levelsOk]
  | ok found =>
    have decides := decides_verdict filed (mem_fitting_iff levelsOk wanted)
    rw [resolve_of_levels levelsOk, Except.ok.injEq, decides.notFound_iff]
    constructor
    · intro none
      refine ⟨⟨found, rfl⟩, fun name contained => ?_⟩
      rw [checkExplicit_notEligible_iff contained levelsOk, none]
      rintro ⟨adapter, fits, _⟩
      exact fits
    · rintro ⟨_, refused⟩
      refine Set.eq_empty_of_forall_notMem fun adapter fits => ?_
      have contained := filed.contains fits.1
      exact (checkExplicit_notEligible_iff contained levelsOk).1 (refused _ contained)
        ⟨adapter, fits, rfl⟩

/-- Resolution fails exactly as every check of an adapter of the library does, if there is one. -/
theorem resolve_error_iff (inhabited : library.isEmpty = false) :
    (library.resolve oracle.ancestry source wanted).run = .error failure ↔
      ∀ name, library.contains name = true →
        (library.checkExplicit oracle.ancestry name source wanted).run =
          .error (.hierarchy failure) := by
  obtain ⟨⟨name, adapter⟩, listed⟩ := List.isEmpty_eq_false_iff_exists_mem.1 inhabited
  have contained : library.contains name = true :=
    Option.isSome_iff_exists.2 ⟨adapter, NameMap.mem_entries_iff.1 listed⟩
  cases levelsOk : oracle.levels source with
  | error other =>
    rw [resolve_of_unknown levelsOk, Except.error.injEq]
    constructor
    · rintro rfl name contained
      exact checkExplicit_of_unknown contained levelsOk
    · intro failed
      simpa [checkExplicit_of_unknown contained levelsOk] using failed name contained
  | ok found =>
    rw [resolve_of_levels levelsOk]
    refine iff_of_false (fun failed => (nomatch failed)) fun failed => ?_
    rcases checkExplicit_of_levels contained levelsOk with ⟨ok, _⟩ | ⟨refused, _⟩
    · exact absurd (ok.symm.trans (failed name contained)) (fun same => nomatch same)
    · exact absurd (refused.symm.trans (failed name contained)) (fun same => nomatch same)

/-- **Agreement.** Let a library be made by its operations. After any history of queries each let
the best adapter be resolved and adapters be asked for. An adapter that is resolved can be used;
where the verdict leaves several, they are at least two and each of them can be used. There is no
adapter exactly if the levels of the type given are there and no adapter of the library is eligible.
If the library is not empty, resolution fails exactly as each of its adapters fails. -/
theorem resolve_agrees_explicit {library : Library} (built : library.Built) (oracle : Oracle)
    (before after : List Query) (source wanted : String) :
    let types := Session.ancestry oracle
    let earlier := Session.start.asking oracle before
    let later := Session.start.asking oracle after
    let resolved := ((library.resolve types source wanted).run earlier).1
    let explicit := fun name => ((library.checkExplicit types name source wanted).run later).1
    (∀ name, resolved = .ok (.resolved name) → explicit name = .ok ()) ∧
    (∀ names, resolved = .ok (.ambiguous names) ∨ resolved = .ok (.cyclicPrecedence names) →
      2 ≤ names.size ∧ ∀ name ∈ names, explicit name = .ok ()) ∧
    (resolved = .ok .notFound ↔
      (∃ levels, ((types.levels source).run later).1 = .ok levels) ∧
      ∀ name, library.contains name = true →
        explicit name = .error (.notEligible name source wanted)) ∧
    (library.isEmpty = false → ∀ failure, resolved = .error failure ↔
      ∀ name, library.contains name = true → explicit name = .error (.hierarchy failure)) := by
  intro types earlier later resolved explicit
  have faithful (queries : List Query) : (Session.start.asking oracle queries).Faithful oracle :=
    Session.Faithful.start.asking queries
  -- a session answers like the oracle, whatever was asked before
  have resolvedEq : resolved = (library.resolve oracle.ancestry source wanted).run :=
    (Session.Answers.resolve library source wanted _ (faithful before)).1
  have explicitEq (name : String) :
      explicit name = (library.checkExplicit oracle.ancestry name source wanted).run :=
    (Session.Answers.explicit library name source wanted _ (faithful after)).1
  have levelsEq : ((types.levels source).run later).1 = oracle.levels source :=
    (Session.Answers.levels source _ (faithful after)).1
  simp only [resolvedEq, explicitEq, levelsEq]
  have filed := built.wellFiled
  refine ⟨fun name ok => ?_, fun names several => ?_, resolve_notFound_iff filed,
    fun inhabited failure => resolve_error_iff inhabited⟩
  · exact checkExplicit_of_named filed ok (NameSet.mem_singleton.2 rfl)
  · rcases several with ok | ok
    · exact ⟨two_le_size_of_resolve filed ok (.inl rfl),
        fun name member => checkExplicit_of_named filed ok member⟩
    · exact ⟨two_le_size_of_resolve filed ok (.inr rfl),
        fun name member => checkExplicit_of_named filed ok member⟩

/-- Two adapters between two types that cannot be told apart, and one the other way round. -/
def roundTrip : Library :=
  ofList [⟨"X", .singleton "B", [.singleton "A"]⟩, ⟨"Y", .ofList ["A", "B"], [.singleton "A"]⟩,
    ⟨"Z", .singleton "A", [.singleton "B"]⟩]

theorem resolve_agrees_explicit_roundTrip :
    let types := Session.ancestry (.ofTable mutualTypes)
    let session := Session.start.asking (.ofTable mutualTypes) [.levels "A", .known "C"]
    let resolved := fun source wanted =>
      ((roundTrip.resolve types source wanted).run Session.start).1
    let explicit := fun name source wanted =>
      ((roundTrip.checkExplicit types name source wanted).run session).1
    roundTrip.Built ∧ roundTrip.isEmpty = false ∧
    (resolved "A" "B" = .ok (.resolved "Z") ∧ explicit "Z" "A" "B" = .ok ()) ∧
    (resolved "B" "A" = .ok (.ambiguous (.ofList ["X", "Y"])) ∧
      2 ≤ (NameSet.ofList ["X", "Y"]).size ∧
      ∀ name ∈ NameSet.ofList ["X", "Y"], explicit name "B" "A" = .ok ()) ∧
    (resolved "A" "C" = .ok .notFound ∧
      ∀ name, roundTrip.contains name = true →
        explicit name "A" "C" = .error (.notEligible name "A" "C")) ∧
    (resolved "C" "A" = .error ⟨"C"⟩ ∧
      ∀ name, roundTrip.contains name = true → explicit name "C" "A" = .error (.hierarchy ⟨"C"⟩)) := by
  have built : roundTrip.Built := .ofList _
  have inhabited : roundTrip.isEmpty = false := by decide +kernel
  have single : ((roundTrip.resolve (Session.ancestry (.ofTable mutualTypes)) "A" "B").run
      Session.start).1 = .ok (.resolved "Z") := by cbv
  have several : ((roundTrip.resolve (Session.ancestry (.ofTable mutualTypes)) "B" "A").run
      Session.start).1 = .ok (.ambiguous (.ofList ["X", "Y"])) := by cbv
  have none : ((roundTrip.resolve (Session.ancestry (.ofTable mutualTypes)) "A" "C").run
      Session.start).1 = .ok .notFound := by cbv
  have unknown : ((roundTrip.resolve (Session.ancestry (.ofTable mutualTypes)) "C" "A").run
      Session.start).1 = .error ⟨"C"⟩ := by cbv
  have agrees (source wanted : String) := resolve_agrees_explicit built (.ofTable mutualTypes) []
    [.levels "A", .known "C"] source wanted
  exact ⟨built, inhabited, ⟨single, (agrees "A" "B").1 _ single⟩,
    ⟨several, (agrees "B" "A").2.1 _ (.inl several)⟩,
    ⟨none, ((agrees "A" "C").2.2.1.1 none).2⟩,
    ⟨unknown, ((agrees "C" "A").2.2.2 inhabited _).1 unknown⟩⟩

end Library

end AdapterWiring
