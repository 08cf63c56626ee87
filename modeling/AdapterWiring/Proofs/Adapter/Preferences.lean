import AdapterWiring.Check.Checker
import AdapterWiring.Proofs.Adapter.Cycles
import AdapterWiring.Proofs.Adapter.Verdict
import Mathlib.Data.List.Perm.Basic
import Mathlib.Tactic.Common

/-!
# Preferences that rankings state

Rankings are declared one after the other, but all that counts of them is which
name is stated to be preferred to which. Of that, resolution asks only what
concerns two adapters of the library.

* **Stated** — the preferences that a list of rankings states.
* **link_ofRankings_iff** — they are the links of the precedence made of it.
* **Proper.ext, ofRankings_congr** — lists that state the same make the same
  precedence, whatever their order and repetitions.
* **link_precedence_iff** — the links between adapters that a checker goes by.
* **resolve_congr** — resolution does not look beyond these links.
-/

namespace AdapterWiring

/-- Maps with the same values under all names are equal. -/
theorem NameMap.ext_get? {α : Type} {first second : NameMap α}
    (same : ∀ name, first.get? name = second.get? name) : first = second := by
  have members (entry : String × α) : entry ∈ first.entries ↔ entry ∈ second.entries := by
    rw [mem_entries_iff, mem_entries_iff, same]
  have increasing (map : NameMap α) :
      map.entries.Pairwise fun before after => before.1 < after.1 :=
    List.pairwise_map.1 map.sorted
  have nodup (map : NameMap α) : map.entries.Nodup :=
    List.Pairwise.of_map Prod.fst (fun _ _ different same => different (congrArg _ same))
      (SortedNames.nodup map.sorted)
  have permuted := (List.perm_ext_iff_of_nodup (nodup first) (nodup second)).2 members
  have entries : first.entries = second.entries :=
    permuted.eq_of_pairwise
      (fun _ _ _ _ before after => absurd after (String.lt_asymm before))
      (increasing first) (increasing second)
  cases first
  cases second
  simpa using entries

namespace Precedence

/-! ## Rankings -/

/-- A list of rankings states that `higher` is preferred to `lower`. -/
def Stated (rankings : List Ranking) (lower higher : String) : Prop :=
  ∃ ranking ∈ rankings, ranking.lower.name = lower ∧ ranking.higher.name = higher

/-- A list of rankings declares a link for each of them. -/
theorem ofRankings_eq (rankings : List Ranking) :
    ofRankings rankings =
      none.withLinks (rankings.map fun ranking => (ranking.lower.name, ranking.higher.name)) := by
  rw [ofRankings, withLinks, List.foldl_map]

/-- The links of the precedence made of rankings are those that they state. -/
theorem link_ofRankings_iff {rankings : List Ranking} {lower higher : String} :
    (ofRankings rankings).Link lower higher ↔ Stated rankings lower higher := by
  rw [ofRankings_eq, Link, mem_preceding_withLinks]
  simp [Stated, none, preceding, preceding?]

/-! ## Precedences by their links -/

/-- Each name that is listed has some name preferred to it. -/
def Proper (precedence : Precedence) : Prop :=
  ∀ name highers, precedence.preceding? name = some highers → ∃ higher, higher ∈ highers

theorem Proper.declare {precedence : Precedence} (proper : precedence.Proper)
    (higher lower : String) : (precedence.declare higher lower).Proper := by
  intro name highers listed
  rw [preceding?, Precedence.declare, NameMap.get?_insert] at listed
  split at listed
  · rw [Option.some.injEq] at listed
    exact ⟨higher, by simp [← listed]⟩
  · exact proper name highers listed

theorem Proper.withLinks {precedence : Precedence} (proper : precedence.Proper)
    (links : List (String × String)) : (precedence.withLinks links).Proper := by
  induction links generalizing precedence with
  | nil => exact proper
  | cons link rest ih => exact ih (proper.declare link.2 link.1)

theorem Proper.ofRankings (rankings : List Ranking) : (ofRankings rankings).Proper := by
  rw [ofRankings_eq]
  refine Proper.withLinks (fun name highers listed => ?_) _
  simp [preceding?, none] at listed

/-- Then a name is listed exactly if some name is preferred to it. -/
theorem Proper.preceding?_eq {precedence : Precedence} (proper : precedence.Proper)
    (name : String) :
    precedence.preceding? name =
      if precedence.preceding name = ∅ then Option.none else some (precedence.preceding name) := by
  unfold preceding
  cases listed : precedence.preceding? name with
  | none => rfl
  | some highers =>
    obtain ⟨higher, member⟩ := proper name highers listed
    have inhabited : highers ≠ ∅ := fun empty => NameSet.not_mem_empty higher (empty ▸ member)
    rw [Option.getD_some, if_neg inhabited]

/-- The links tell the whole precedence, then. -/
theorem Proper.ext {first second : Precedence} (isFirst : first.Proper) (isSecond : second.Proper)
    (same : ∀ lower higher, first.Link lower higher ↔ second.Link lower higher) :
    first = second := by
  have highers : first.highers = second.highers := by
    refine NameMap.ext_get? fun name => ?_
    have links : first.preceding name = second.preceding name := NameSet.ext (same name)
    calc first.preceding? name = _ := isFirst.preceding?_eq name
      _ = _ := by rw [links]
      _ = second.preceding? name := (isSecond.preceding?_eq name).symm
  cases first
  cases second
  simpa using highers

/-- Rankings that state the same make the same precedence. -/
theorem ofRankings_congr {first second : List Ranking}
    (same : ∀ lower higher, Stated first lower higher ↔ Stated second lower higher) :
    ofRankings first = ofRankings second := by
  refine (Proper.ofRankings first).ext (Proper.ofRankings second) fun lower higher => ?_
  rw [link_ofRankings_iff, link_ofRankings_iff, same]

end Precedence

/-! ## Valid rankings -/

namespace Checker

variable {library : Library} {rankings : List Ranking}

theorem stated_valid_iff {lower higher : String} :
    Precedence.Stated (rankings.filter (isValid library)) lower higher ↔
      Precedence.Stated rankings lower higher ∧
        library.contains lower = true ∧ library.contains higher = true := by
  simp only [Precedence.Stated, List.mem_filter, isValid, Bool.and_eq_true]
  constructor
  · rintro ⟨ranking, ⟨member, isHigher, isLower⟩, rfl, rfl⟩
    exact ⟨⟨ranking, member, rfl, rfl⟩, isLower, isHigher⟩
  · rintro ⟨⟨ranking, member, rfl, rfl⟩, isLower, isHigher⟩
    exact ⟨ranking, ⟨member, isHigher, isLower⟩, rfl, rfl⟩

/-- The links that a checker goes by are those stated between two adapters of the library. -/
theorem link_precedence_iff {lower higher : String} :
    (precedence library rankings).Link lower higher ↔
      Precedence.Stated rankings lower higher ∧
        library.contains lower = true ∧ library.contains higher = true :=
  Precedence.link_ofRankings_iff.trans stated_valid_iff

end Checker

/-! ## Resolution -/

namespace Library

variable {library : Library} {first second : Precedence}

/-- Two precedences with the same links between adapters of a library. -/
def Agree (library : Library) (first second : Precedence) : Prop :=
  ∀ lower higher, library.contains lower = true → library.contains higher = true →
    (first.Link lower higher ↔ second.Link lower higher)

/-- Candidates are told apart by the links between them. -/
theorem byPrecedence_congr {candidates : List Descriptor}
    (agree : ∀ lower ∈ candidates, ∀ higher ∈ candidates,
      (first.Link lower.name higher.name ↔ second.Link lower.name higher.name)) :
    (library.withPrecedence first).byPrecedence candidates =
      (library.withPrecedence second).byPrecedence candidates := by
  have same : unbeaten first (.ofList (candidates.map (·.name))) =
      unbeaten second (.ofList (candidates.map (·.name))) := by
    ext name
    rw [mem_unbeaten, mem_unbeaten]
    refine and_congr_right fun member => forall₂_congr fun higher alsoMember => not_congr ?_
    obtain ⟨adapter, isCandidate, rfl⟩ := List.mem_map.1 (NameSet.mem_ofList.1 member)
    obtain ⟨other, alsoCandidate, rfl⟩ := List.mem_map.1 (NameSet.mem_ofList.1 alsoMember)
    exact agree adapter isCandidate other alsoCandidate
  simp only [byPrecedence_eq_unbeaten, withPrecedence, same]

/-- The verdict depends only on the links between the candidates that both passes leave. -/
theorem verdict_congr_narrowed {levels : Levels} {wanted : String}
    (agree : ∀ lower ∈ library.narrowed levels wanted, ∀ higher ∈ library.narrowed levels wanted,
      (first.Link lower.name higher.name ↔ second.Link lower.name higher.name)) :
    (library.withPrecedence first).verdict levels wanted =
      (library.withPrecedence second).verdict levels wanted := by
  rw [verdict_eq_narrowed, verdict_eq_narrowed]
  -- narrowing does not look at precedence
  show (settled? (library.narrowed levels wanted)).getD _ =
    (settled? (library.narrowed levels wanted)).getD _
  exact congrArg _ (byPrecedence_congr agree)

/-- So it depends only on the links between adapters of the library. -/
theorem verdict_congr (filed : library.WellFiled) (agree : library.Agree first second)
    (levels : Levels) (wanted : String) :
    (library.withPrecedence first).verdict levels wanted =
      (library.withPrecedence second).verdict levels wanted := by
  have contained (adapter : Descriptor) (left : adapter ∈ library.narrowed levels wanted) :
      library.contains adapter.name = true :=
    filed.contains (narrowed_sublist.subset left)
  exact verdict_congr_narrowed fun lower isLower higher isHigher =>
    agree _ _ (contained lower isLower) (contained higher isHigher)

/-- So does resolution, wherever levels come from. -/
theorem resolve_congr {m : Type → Type} [Monad m] (filed : library.WellFiled)
    (agree : library.Agree first second) (types : Ancestry m) (source wanted : String) :
    (library.withPrecedence first).resolve types source wanted =
      (library.withPrecedence second).resolve types source wanted := by
  unfold resolve
  simp only [verdict_congr filed agree]

end Library

end AdapterWiring
