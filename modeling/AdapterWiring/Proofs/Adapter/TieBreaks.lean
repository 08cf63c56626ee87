import AdapterWiring.Proofs.Adapter.Preferences
import Mathlib

/-!
# Precedence breaks ties

The candidates that an ambiguous verdict names are those tied to which none of
those tied is preferred. Prefer one of them to the others, and it is the only one
left. What has been discarded stays discarded, since a preference is not taken
back by another one, and no preference over the chosen one has been added. The
rest of the precedence may be as it likes, cycles among the others included.
Preferences that do not concern two of those tied are not looked at.

* **tied** — the names that both passes leave.
* **unbeaten_withLinks** — one of the unbeaten names, once it is preferred to the
  others of them.
* **verdict_prefer** — it is what an ambiguous verdict becomes.
* **verdict_declare** — preferences from or to names that are not tied.
* **precedence_settles** — both in sessions with any history.
-/

namespace AdapterWiring

namespace Library

variable {library : Library} {precedence : Precedence} {levels : Levels} {wanted chosen : String}
  {lowers : List String} {names candidates : NameSet}

/-- The names of the candidates that both passes leave. -/
def tied (library : Library) (levels : Levels) (wanted : String) : NameSet :=
  .ofList ((library.narrowed levels wanted).map (·.name))

/-- The library in which one adapter is preferred to each of some others, the rest of the precedence
being left as it is. -/
def prefer (library : Library) (chosen : String) (lowers : List String) : Library :=
  library.withPrecedence (library.precedence.withLinks (lowers.map (·, chosen)))

/-! ## One of the unbeaten names -/

/-- Once an unbeaten name is preferred to the other unbeaten ones, it is the only one left. -/
theorem unbeaten_withLinks (isUnbeaten : chosen ∈ unbeaten precedence names)
    (others : ∀ name, name ∈ lowers ↔ name ∈ unbeaten precedence names ∧ name ≠ chosen) :
    unbeaten (precedence.withLinks (lowers.map (·, chosen))) names = .singleton chosen := by
  have preferred (name other : String) :
      other ∈ (precedence.withLinks (lowers.map (·, chosen))).preceding name ↔
        (name ∈ lowers ∧ other = chosen) ∨ other ∈ precedence.preceding name := by
    rw [Precedence.mem_preceding_withLinks]
    simp [eq_comm]
  obtain ⟨isTied, free⟩ := mem_unbeaten.1 isUnbeaten
  ext name
  rw [mem_unbeaten, NameSet.mem_singleton]
  constructor
  · rintro ⟨alsoTied, alsoFree⟩
    -- it was unbeaten before, so it is the chosen one or has the chosen one preferred to it now
    have before : name ∈ unbeaten precedence names :=
      mem_unbeaten.2 ⟨alsoTied, fun other isOther old =>
        alsoFree other isOther ((preferred name other).2 (.inr old))⟩
    by_contra different
    have isLower : name ∈ lowers := (others name).2 ⟨before, different⟩
    exact alsoFree chosen isTied ((preferred name chosen).2 (.inl ⟨isLower, rfl⟩))
  · rintro rfl
    refine ⟨isTied, fun other isOther above => ?_⟩
    rcases (preferred name other).1 above with ⟨isLower, _⟩ | old
    · exact ((others name).1 isLower).2 rfl
    · exact free other isOther old

/-! ## Verdicts -/

/-- An ambiguous verdict comes from a tie, and names the unbeaten ones. -/
theorem verdict_ambiguous (ambiguous : library.verdict levels wanted = .ambiguous candidates) :
    settled? (library.narrowed levels wanted) = none ∧
      candidates = unbeaten library.precedence (library.tied levels wanted) := by
  rw [verdict_eq_narrowed] at ambiguous
  cases settled : settled? (library.narrowed levels wanted) with
  | some verdict =>
    -- what leaves no choice is not ambiguous
    rw [settled, Option.getD_some] at ambiguous
    rw [ambiguous] at settled
    unfold settled? at settled
    split at settled <;> cases settled
  | none =>
    rw [settled, Option.getD_none, byPrecedence_eq_unbeaten] at ambiguous
    refine ⟨rfl, ?_⟩
    dsimp only at ambiguous
    split at ambiguous
    next => cases ambiguous
    next => cases ambiguous
    next => exact (Verdict.ambiguous.inj ambiguous).symm

/-- A tie with one unbeaten name is resolved. -/
theorem verdict_of_unbeaten (unsettled : settled? (library.narrowed levels wanted) = none)
    (single : unbeaten library.precedence (library.tied levels wanted) = .singleton chosen) :
    library.verdict levels wanted = .resolved chosen := by
  rw [tied] at single
  rw [verdict_eq_narrowed, unsettled, Option.getD_none, byPrecedence_eq_unbeaten]
  simp only [single, NameSet.singleton]

/-- Any candidate of an ambiguous verdict becomes the verdict when it is preferred to the others. -/
theorem verdict_prefer (ambiguous : library.verdict levels wanted = .ambiguous candidates)
    (isCandidate : chosen ∈ candidates)
    (others : ∀ name, name ∈ lowers ↔ name ∈ candidates ∧ name ≠ chosen) :
    (library.prefer chosen lowers).verdict levels wanted = .resolved chosen := by
  obtain ⟨unsettled, rfl⟩ := verdict_ambiguous ambiguous
  -- narrowing does not look at precedence, so the tie is the same
  have alsoUnsettled : settled? ((library.prefer chosen lowers).narrowed levels wanted) = none :=
    unsettled
  exact verdict_of_unbeaten alsoUnsettled (unbeaten_withLinks isCandidate others)

/-- A preference that does not concern two of those tied does not count. -/
theorem verdict_declare {higher lower : String}
    (outside : higher ∉ library.tied levels wanted ∨ lower ∉ library.tied levels wanted) :
    (library.withPrecedence (library.precedence.declare higher lower)).verdict levels wanted =
      library.verdict levels wanted := by
  have isTied {adapter : Descriptor} (left : adapter ∈ library.narrowed levels wanted) :
      adapter.name ∈ library.tied levels wanted :=
    NameSet.mem_ofList.2 (List.mem_map_of_mem left)
  show _ = (library.withPrecedence library.precedence).verdict levels wanted
  refine verdict_congr_narrowed fun first left second alsoLeft => ?_
  refine Precedence.mem_preceding_declare.trans (or_iff_right ?_)
  rintro ⟨rfl, rfl⟩
  exact outside.elim (· (isTied alsoLeft)) (· (isTied left))

/-! ## Sessions -/

/-- **Tie breaking.** Let a hierarchy stay the same, and the questions be put to sessions with any
history. If the verdict is ambiguous, each of the candidates it names becomes the verdict once it is
preferred to all others of them, whatever else the precedence holds. In any case the answer stays as
it is when a preference is declared that does not concern two of the names tied. -/
theorem precedence_settles (library : Library) (oracle : Oracle) (before after : List Query)
    (source wanted : String) :
    let types := Session.ancestry oracle
    let earlier := Session.start.asking oracle before
    let later := Session.start.asking oracle after
    (∀ candidates,
      ((library.resolve types source wanted).run earlier).1 = .ok (.ambiguous candidates) →
      ∀ chosen ∈ candidates, ∀ lowers : List String,
        (∀ name, name ∈ lowers ↔ name ∈ candidates ∧ name ≠ chosen) →
        (((library.prefer chosen lowers).resolve types source wanted).run later).1 =
          .ok (.resolved chosen)) ∧
    ∀ higher lower,
      (∀ levels, ((types.selfAndLevels source).run earlier).1 = .ok levels →
        higher ∉ library.tied levels wanted ∨ lower ∉ library.tied levels wanted) →
      (((library.withPrecedence (library.precedence.declare higher lower)).resolve types source
          wanted).run later).1 =
        ((library.resolve types source wanted).run earlier).1 := by
  intro types earlier later
  -- sessions answer like the oracle, whatever was asked before
  have levelsEq : ((types.selfAndLevels source).run earlier).1 =
      (oracle.ancestry.selfAndLevels source).run :=
    (Session.Answers.selfAndLevels source).asked before
  have earlierEq : ((library.resolve types source wanted).run earlier).1 =
      (oracle.ancestry.selfAndLevels source).run.map (library.verdict · wanted) :=
    (Session.Answers.resolve library source wanted).asked before
  have laterEq (library : Library) : ((library.resolve types source wanted).run later).1 =
      (oracle.ancestry.selfAndLevels source).run.map (library.verdict · wanted) :=
    (Session.Answers.resolve library source wanted).asked after
  simp only [levelsEq, earlierEq, laterEq]
  cases (oracle.ancestry.selfAndLevels source).run with
  | error failure => simp [Except.map]
  | ok levels =>
    simp only [Except.map, Except.ok.injEq]
    constructor
    · intro candidates ambiguous chosen isCandidate lowers others
      exact verdict_prefer ambiguous isCandidate others
    · intro higher lower outside
      exact verdict_declare (outside levels rfl)

/-- Two types below a third one. -/
def knotTypes : NameMap NameSet :=
  .ofList [("B", .singleton "Object"), ("Object", ∅), ("A", .singleton "Object")]

/-- Five adapters: one takes less specific objects than the others do, two of these are preferred to
each other, and nothing is said of the other two. -/
def knotLibrary : Library :=
  (ofList [⟨"V", .singleton "Object", [.singleton "A"]⟩, ⟨"W", .singleton "B", [.singleton "A"]⟩,
      ⟨"X", .singleton "B", [.singleton "A"]⟩, ⟨"Y", .singleton "B", [.singleton "A"]⟩,
      ⟨"Z", .singleton "B", [.singleton "A"]⟩])
    |>.withPrecedence ((Precedence.none.declare "W" "Z").declare "Z" "W")

theorem precedence_settles_knot :
    let types := Session.ancestry (.ofTable knotTypes)
    let earlier := Session.start.asking (.ofTable knotTypes) [.levels "A"]
    let later := Session.start.asking (.ofTable knotTypes) [.resolve knotLibrary "B" "A", .known "Q"]
    ((knotLibrary.resolve types "B" "A").run earlier).1 = .ok (.ambiguous (.ofList ["X", "Y"])) ∧
    (((knotLibrary.prefer "Y" ["X"]).resolve types "B" "A").run later).1 = .ok (.resolved "Y") ∧
    ((types.selfAndLevels "B").run earlier).1 = .ok [.singleton "B", .singleton "Object"] ∧
    "V" ∉ knotLibrary.tied [.singleton "B", .singleton "Object"] "A" ∧
    (((knotLibrary.withPrecedence (knotLibrary.precedence.declare "V" "Y")).resolve types "B"
        "A").run later).1 = .ok (.ambiguous (.ofList ["X", "Y"])) := by
  have ambiguous : ((knotLibrary.resolve (Session.ancestry (.ofTable knotTypes)) "B" "A").run
      (Session.start.asking (.ofTable knotTypes) [.levels "A"])).1 =
        .ok (.ambiguous (.ofList ["X", "Y"])) := by cbv
  have answered : (((Session.ancestry (.ofTable knotTypes)).selfAndLevels "B").run
      (Session.start.asking (.ofTable knotTypes) [.levels "A"])).1 =
        .ok [.singleton "B", .singleton "Object"] := by cbv
  have listed : (knotLibrary.tied [.singleton "B", .singleton "Object"] "A").toList =
      ["W", "X", "Y", "Z"] := by cbv
  have outside : "V" ∉ knotLibrary.tied [.singleton "B", .singleton "Object"] "A" := by
    rw [NameSet.mem_def, listed]
    decide
  obtain ⟨preferred, declared⟩ := precedence_settles knotLibrary (.ofTable knotTypes) [.levels "A"]
    [.resolve knotLibrary "B" "A", .known "Q"] "B" "A"
  refine ⟨ambiguous, preferred _ ambiguous "Y" (by decide +kernel) ["X"] (fun name => ?_), answered,
    outside, (declared "V" "Y" fun levels found => ?_).trans ambiguous⟩
  · simp only [NameSet.mem_ofList, List.mem_cons, List.not_mem_nil, or_false]
    constructor
    · rintro rfl
      decide
    · rintro ⟨listed, different⟩
      exact listed.resolve_right different
  · obtain rfl := Except.ok.inj (answered.symm.trans found)
    exact .inl outside

end Library

end AdapterWiring
