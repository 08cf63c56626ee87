import AdapterWiring.Proofs.Adapter.Narrowing
import AdapterWiring.Proofs.Session.Recall

/-!
# What resolution decides

The verdict of resolution against a description that knows no passes and no
early exits: among the adapters that fit, those at the least distance compete,
and precedence only breaks a tie between them.

* **Built** — the libraries that the operations make. Each adapter in one is
  filed under its own name (`Built.wellFiled`).
* **fitting, nearest, unpreceded** — the adapters that fit, those of them at
  the least distance, and those of these to which none of these is preferred.
* **Decides** — the verdict by these sets; there is at most one
  (`Decides.unique`), and what it names fits (`Decides.mem_of_named`).
* **unbeaten, survivors** — those that precedence leaves of some candidates, as
  names and as adapters.
* **decides_verdict** — resolution reaches it.
* **resolve_iff_decides** — so does a query to a session with any history.
-/

namespace AdapterWiring

/-- The adapters that a verdict names. -/
def Verdict.named : Verdict → NameSet
  | resolved adapter => .singleton adapter
  | ambiguous candidates => candidates
  | notFound => ∅
  | cyclicPrecedence involved => involved

/-! ## Libraries -/

namespace Library

/-- The libraries made by filing adapters and setting precedences, in any order. -/
inductive Built : Library → Prop
  | empty : Built empty
  | insert {library : Library} (adapter : Descriptor) :
    Built library → Built (library.insert adapter)
  | withPrecedence {library : Library} (precedence : Precedence) :
    Built library → Built (library.withPrecedence precedence)

/-- Each adapter is filed under its own name. -/
def WellFiled (library : Library) : Prop :=
  ∀ name adapter, library.get? name = some adapter → adapter.name = name

theorem Built.ofList (adapters : List Descriptor) : Built (ofList adapters) := by
  have filed : ∀ (rest : List Descriptor) (library : Library), Built library →
      Built (rest.foldl Library.insert library) := by
    intro rest
    induction rest with
    | nil => exact fun _ built => built
    | cons head tail ih => exact fun _ built => ih _ (built.insert head)
  exact filed adapters _ .empty

theorem WellFiled.insert {library : Library} (filed : library.WellFiled) (adapter : Descriptor) :
    (library.insert adapter).WellFiled := by
  intro name other found
  rw [get?_insert] at found
  split at found
  next same => rw [same, ← Option.some.inj found]
  next => exact filed name other found

theorem Built.wellFiled {library : Library} (built : library.Built) : library.WellFiled := by
  induction built with
  | empty => exact fun name adapter found => by simp at found
  | insert adapter _ ih => exact ih.insert adapter
  | withPrecedence _ _ ih => exact ih

namespace WellFiled

variable {library : Library}

/-- The adapters come in the order of the names that they are filed under. -/
theorem map_name_descriptors (filed : library.WellFiled) :
    library.descriptors.map (·.name) = library.names.toList := by
  rw [descriptors, NameMap.values, List.map_map]
  show _ = library.adapters.entries.map Prod.fst
  refine List.map_congr_left fun entry member => ?_
  exact filed entry.1 entry.2 (NameMap.mem_entries_iff.1 member)

/-- So their own names come in increasing order. -/
theorem pairwise_names (filed : library.WellFiled) :
    (library.descriptors.map (·.name)).Pairwise (· < ·) := by
  rw [filed.map_name_descriptors]
  exact library.names.sorted

variable {adapter other : Descriptor}

/-- A well-filed library files each of its adapters under the adapter's name. -/
theorem get?_name (filed : library.WellFiled) (member : adapter ∈ library.descriptors) :
    library.get? adapter.name = some adapter := by
  obtain ⟨name, found⟩ := NameMap.mem_values.1 member
  rw [filed name adapter found]
  exact found

theorem contains (filed : library.WellFiled) (member : adapter ∈ library.descriptors) :
    library.contains adapter.name = true :=
  Option.isSome_iff_exists.2 ⟨adapter, filed.get?_name member⟩

/-- Its adapters are told apart by their names. -/
theorem eq_of_name (filed : library.WellFiled) (member : adapter ∈ library.descriptors)
    (alsoMember : other ∈ library.descriptors) (same : adapter.name = other.name) :
    adapter = other := by
  have found := filed.get?_name member
  rw [same, filed.get?_name alsoMember, Option.some.injEq] at found
  exact found.symm

end WellFiled

/-! ## The description -/

/-- The adapters that fit: they can be built from a type or one of its ancestors, and have the
wanted type among their own. -/
def fitting (library : Library) (lookup : Lookup) (source wanted : String) : Set Descriptor :=
  {adapter | adapter ∈ library.descriptors ∧
    (∃ type ∈ adapter.adaptsFrom, lookup.Reaches source type) ∧
    ∃ level ∈ adapter.adaptsTo, wanted ∈ level}

/-- The adapters at the least distance. -/
def nearest (levels : Levels) (wanted : String) (adapters : Set Descriptor) : Set Descriptor :=
  {adapter ∈ adapters | ∀ other ∈ adapters,
    adapter.distance levels wanted ≤ other.distance levels wanted}

/-- The adapters to which none of the others is preferred, nor they to themselves. -/
def unpreceded (precedence : Precedence) (adapters : Set Descriptor) : Set Descriptor :=
  {adapter ∈ adapters | ∀ other ∈ adapters, other.name ∉ precedence.preceding adapter.name}

/-- A set of names is that of the names of adapters. -/
def Names (names : NameSet) (adapters : Set Descriptor) : Prop :=
  ∀ name, name ∈ names ↔ ∃ adapter ∈ adapters, adapter.name = name

/-- The verdict by the adapters that fit: those at the least distance compete, and precedence counts
only where there are several of them. -/
inductive Decides (precedence : Precedence) (levels : Levels) (wanted : String)
    (fit : Set Descriptor) : Verdict → Prop
  | notFound : fit = ∅ → Decides precedence levels wanted fit .notFound
  | only {adapter : Descriptor} : nearest levels wanted fit = {adapter} →
    Decides precedence levels wanted fit (.resolved adapter.name)
  | cyclic {involved : NameSet} : (nearest levels wanted fit).Nontrivial →
    unpreceded precedence (nearest levels wanted fit) = ∅ →
    Names involved (nearest levels wanted fit) →
    Decides precedence levels wanted fit (.cyclicPrecedence involved)
  | preferred {adapter : Descriptor} : (nearest levels wanted fit).Nontrivial →
    unpreceded precedence (nearest levels wanted fit) = {adapter} →
    Decides precedence levels wanted fit (.resolved adapter.name)
  | ambiguous {candidates : NameSet} : (nearest levels wanted fit).Nontrivial →
    (unpreceded precedence (nearest levels wanted fit)).Nontrivial →
    Names candidates (unpreceded precedence (nearest levels wanted fit)) →
    Decides precedence levels wanted fit (.ambiguous candidates)

theorem Names.unique {first second : NameSet} {adapters : Set Descriptor}
    (isFirst : Names first adapters) (isSecond : Names second adapters) : first = second :=
  NameSet.ext fun name => (isFirst name).trans (isSecond name).symm

/-- There is at most one verdict by the description. -/
theorem Decides.unique {precedence : Precedence} {levels : Levels} {wanted : String}
    {fit : Set Descriptor} {first second : Verdict}
    (isFirst : Decides precedence levels wanted fit first)
    (isSecond : Decides precedence levels wanted fit second) : first = second := by
  have inside : nearest levels wanted fit ⊆ fit := fun _ member => member.1
  have some_of_single {adapter : Descriptor} (single : nearest levels wanted fit = {adapter}) :
      fit ≠ ∅ := fun none => by
    have member : adapter ∈ fit := inside (by rw [single]; rfl)
    simp [none] at member
  have some_of_several (several : (nearest levels wanted fit).Nontrivial) : fit ≠ ∅ :=
    fun none => (none ▸ several.nonempty.mono inside).ne_empty rfl
  have not_both {adapters : Set Descriptor} {adapter : Descriptor} (single : adapters = {adapter})
      (several : adapters.Nontrivial) : False :=
    Set.not_nontrivial_singleton (single ▸ several)
  cases isFirst with
  | notFound none =>
    cases isSecond with
    | notFound _ => rfl
    | only single => exact absurd none (some_of_single single)
    | cyclic several _ _ => exact absurd none (some_of_several several)
    | preferred several _ => exact absurd none (some_of_several several)
    | ambiguous several _ _ => exact absurd none (some_of_several several)
  | only single =>
    cases isSecond with
    | notFound none => exact absurd none (some_of_single single)
    | only single' =>
      rw [single, Set.singleton_eq_singleton_iff] at single'
      rw [single']
    | cyclic several _ _ => exact (not_both single several).elim
    | preferred several _ => exact (not_both single several).elim
    | ambiguous several _ _ => exact (not_both single several).elim
  | cyclic several none names =>
    cases isSecond with
    | notFound none => exact absurd none (some_of_several several)
    | only single => exact (not_both single several).elim
    | cyclic _ _ names' => rw [names.unique names']
    | preferred _ single => simp [single] at none
    | ambiguous _ left _ => exact absurd none left.nonempty.ne_empty
  | preferred several single =>
    cases isSecond with
    | notFound none => exact absurd none (some_of_several several)
    | only single => exact (not_both single several).elim
    | cyclic _ none _ => simp [single] at none
    | preferred _ single' =>
      rw [single, Set.singleton_eq_singleton_iff] at single'
      rw [single']
    | ambiguous _ left _ => exact (not_both single left).elim
  | ambiguous several left names =>
    cases isSecond with
    | notFound none => exact absurd none (some_of_several several)
    | only single => exact (not_both single several).elim
    | cyclic _ none _ => exact absurd none left.nonempty.ne_empty
    | preferred _ single => exact (not_both single left).elim
    | ambiguous _ _ names' => rw [names.unique names']

section

variable {precedence : Precedence} {levels : Levels} {wanted name : String} {fit : Set Descriptor}

theorem unpreceded_subset {adapters : Set Descriptor} : unpreceded precedence adapters ⊆ adapters :=
  fun _ member => member.1

/-- Each adapter that a verdict names is one of those that fit. -/
theorem Decides.mem_of_named {verdict : Verdict}
    (decides : Decides precedence levels wanted fit verdict) (isNamed : name ∈ verdict.named) :
    ∃ adapter ∈ fit, adapter.name = name := by
  have fits {adapters : Set Descriptor} {names : NameSet} (areNames : Names names adapters)
      (inside : adapters ⊆ nearest levels wanted fit) (member : name ∈ names) :
      ∃ adapter ∈ fit, adapter.name = name := by
    obtain ⟨adapter, isOne, named⟩ := (areNames name).1 member
    exact ⟨adapter, (inside isOne).1, named⟩
  have single {adapter : Descriptor} : Names (.singleton adapter.name) {adapter} := by
    intro other
    simp [eq_comm]
  cases decides with
  | notFound _ => exact absurd isNamed (NameSet.not_mem_empty name)
  | only isOnly => exact fits (isOnly ▸ single) Set.Subset.rfl isNamed
  | cyclic _ _ names => exact fits names Set.Subset.rfl isNamed
  | preferred _ isOnly => exact fits (isOnly ▸ single) unpreceded_subset isNamed
  | ambiguous _ _ names => exact fits names unpreceded_subset isNamed

end

/-! ## Early exits -/

variable {library : Library} {levels : Levels} {wanted : String}

/-- The candidates left by both passes. -/
def narrowed (library : Library) (levels : Levels) (wanted : String) : List Descriptor :=
  closestTo wanted (closestFrom levels (library.eligible levels wanted))

theorem mem_eligible {adapter : Descriptor} :
    adapter ∈ library.eligible levels wanted ↔ adapter ∈ library.descriptors ∧
      adapter.acceptsAny levels.all = true ∧ adapter.provides wanted = true := by
  simp [eligible]

theorem narrowed_sublist : (library.narrowed levels wanted).Sublist library.descriptors :=
  (narrow_sublist ..).trans ((narrow_sublist ..).trans List.filter_sublist)

/-- A pass over a single candidate keeps it. -/
theorem narrow_singleton (tests : List (Descriptor → Bool)) (adapter : Descriptor) :
    narrow tests [adapter] = [adapter] := by
  have kept := List.length_pos_iff.2 (narrow_ne_nil tests (List.cons_ne_nil adapter []))
  exact (narrow_sublist tests [adapter]).eq_of_length_le kept

/-- Candidates that settle the matter are those that a further pass leaves. -/
theorem narrow_of_settled {candidates : List Descriptor} {verdict : Verdict}
    (settled : settled? candidates = some verdict) (tests : List (Descriptor → Bool)) :
    narrow tests candidates = candidates := by
  match candidates, settled with
  | [], _ => exact List.sublist_nil.1 (narrow_sublist tests [])
  | [only], _ => exact narrow_singleton tests only

/-- **Early exits** never change the verdict: it is the one on the candidates that both passes
leave. -/
theorem verdict_eq_narrowed : library.verdict levels wanted =
    (settled? (library.narrowed levels wanted)).getD
      (library.byPrecedence (library.narrowed levels wanted)) := by
  simp only [verdict, narrowed]
  cases first : settled? (library.eligible levels wanted) with
  | some found =>
    -- a pass changes nothing once the matter is settled
    rw [Option.getD_some, closestFrom, narrow_of_settled first, closestTo,
      narrow_of_settled first, first, Option.getD_some]
  | none =>
    rw [Option.getD_none]
    cases second : settled? (closestFrom levels (library.eligible levels wanted)) with
    | some found =>
      rw [Option.getD_some, closestTo, narrow_of_settled second, second, Option.getD_some]
    | none => rw [Option.getD_none]

/-! ## The verdict -/

/-- The names to which none of the names is preferred. -/
def unbeaten (precedence : Precedence) (names : NameSet) : NameSet :=
  names.filter fun name => !(precedence.preceding name).meets names

theorem mem_unbeaten {precedence : Precedence} {names : NameSet} {name : String} :
    name ∈ unbeaten precedence names ↔
      name ∈ names ∧ ∀ other ∈ names, other ∉ precedence.preceding name := by
  rw [unbeaten, NameSet.mem_filter, Bool.not_eq_true', Bool.eq_false_iff, ne_eq, NameSet.meets_iff]
  refine and_congr_right fun _ => not_exists.trans (forall_congr' fun other => ?_)
  rw [not_and', Not]

/-- The verdict on candidates goes by how many of their names are unbeaten among them. -/
theorem byPrecedence_eq_unbeaten (candidates : List Descriptor) :
    library.byPrecedence candidates =
      let closest := NameSet.ofList (candidates.map (·.name))
      match (unbeaten library.precedence closest).toList with
      | [] => .cyclicPrecedence closest
      | [only] => .resolved only
      | _ => .ambiguous (unbeaten library.precedence closest) := rfl

/-- The candidates to which none of the candidates is preferred. -/
def survivors (precedence : Precedence) (candidates : List Descriptor) : List Descriptor :=
  candidates.filter fun adapter =>
    candidates.all fun other => other.name ∉ precedence.preceding adapter.name

theorem mem_survivors {precedence : Precedence} {candidates : List Descriptor}
    {adapter : Descriptor} : adapter ∈ survivors precedence candidates ↔
      adapter ∈ candidates ∧
        ∀ other ∈ candidates, other.name ∉ precedence.preceding adapter.name := by
  simp [survivors]

/-- The verdict on candidates whose names come in increasing order, by the survivors among them. -/
theorem byPrecedence_eq {candidates : List Descriptor}
    (increasing : (candidates.map (·.name)).Pairwise (· < ·)) :
    library.byPrecedence candidates =
      match survivors library.precedence candidates with
      | [] => .cyclicPrecedence (.ofList (candidates.map (·.name)))
      | [only] => .resolved only.name
      | several => .ambiguous (.ofList (several.map (·.name))) := by
  have left : unbeaten library.precedence (.ofList (candidates.map (·.name))) =
      .ofList ((survivors library.precedence candidates).map (·.name)) := by
    ext name
    simp only [mem_unbeaten, NameSet.mem_ofList, List.mem_map, mem_survivors]
    constructor
    · rintro ⟨⟨adapter, member, rfl⟩, none⟩
      exact ⟨adapter, ⟨member, fun other isOther => none other.name ⟨other, isOther, rfl⟩⟩, rfl⟩
    · rintro ⟨adapter, ⟨member, none⟩, rfl⟩
      refine ⟨⟨adapter, member, rfl⟩, ?_⟩
      rintro _ ⟨other, isOther, rfl⟩
      exact none other isOther
  have sorted : ((survivors library.precedence candidates).map (·.name)).Pairwise (· < ·) :=
    increasing.sublist (List.filter_sublist.map _)
  simp only [byPrecedence_eq_unbeaten, left, NameSet.toList_ofList sorted]
  cases survivors library.precedence candidates with
  | nil => rfl
  | cons first rest =>
    cases rest with
    | nil => rfl
    | cons second rest => rfl

/-- Candidates in the order of their names are without repetitions. -/
theorem nodup_of_increasing {candidates : List Descriptor}
    (increasing : (candidates.map (·.name)).Pairwise (· < ·)) : candidates.Nodup :=
  List.Pairwise.of_map (·.name) (fun _ _ different same => different (congrArg _ same))
    (SortedNames.nodup increasing)

/-- A set that a list describes is empty, has one member or has several, as the list does. -/
theorem eq_empty_of_mem_iff {adapters : Set Descriptor}
    (members : ∀ adapter, adapter ∈ adapters ↔ adapter ∈ []) : adapters = ∅ :=
  Set.eq_empty_of_forall_notMem fun adapter member => by simpa using (members adapter).1 member

theorem eq_singleton_of_mem_iff {adapters : Set Descriptor} {only : Descriptor}
    (members : ∀ adapter, adapter ∈ adapters ↔ adapter ∈ [only]) : adapters = {only} :=
  Set.ext fun adapter => by simpa using members adapter

theorem nontrivial_of_mem_iff {adapters : Set Descriptor} {first second : Descriptor}
    {rest : List Descriptor} (members : ∀ adapter, adapter ∈ adapters ↔
      adapter ∈ first :: second :: rest) (nodup : (first :: second :: rest).Nodup) :
    adapters.Nontrivial := by
  refine ⟨first, (members first).2 (by simp), second, (members second).2 (by simp),
    fun same => ?_⟩
  simp [same] at nodup

theorem Names.ofList {adapters : Set Descriptor} {listed : List Descriptor}
    (members : ∀ adapter, adapter ∈ adapters ↔ adapter ∈ listed) :
    Names (.ofList (listed.map (·.name))) adapters := by
  intro name
  simp [members]

/-- The verdict on a list of the nearest adapters in the order of their names. -/
theorem decides_of_nearest {fit : Set Descriptor} {best : List Descriptor}
    (members : ∀ adapter, adapter ∈ nearest levels wanted fit ↔ adapter ∈ best)
    (increasing : (best.map (·.name)).Pairwise (· < ·)) (none : best = [] → fit = ∅) :
    Decides library.precedence levels wanted fit
      ((settled? best).getD (library.byPrecedence best)) := by
  have left (adapter : Descriptor) :
      adapter ∈ unpreceded library.precedence (nearest levels wanted fit) ↔
        adapter ∈ survivors library.precedence best := by
    rw [mem_survivors, ← members]
    simp only [← members]
    rfl
  have nodup := nodup_of_increasing increasing
  match best with
  | [] => exact .notFound (none rfl)
  | [only] => exact .only (eq_singleton_of_mem_iff members)
  | first :: second :: rest =>
    have several := nontrivial_of_mem_iff members nodup
    have leftNodup : (survivors library.precedence (first :: second :: rest)).Nodup :=
      nodup.sublist List.filter_sublist
    have unsettled : settled? (first :: second :: rest) = Option.none := rfl
    rw [unsettled, Option.getD_none, byPrecedence_eq increasing]
    -- precedence is asked only here, where several are nearest
    generalize survivors library.precedence (first :: second :: rest) = kept at left leftNodup
    match kept with
    | [] => exact .cyclic several (eq_empty_of_mem_iff left) (.ofList members)
    | [only] => exact .preferred several (eq_singleton_of_mem_iff left)
    | one :: other :: others =>
      exact .ambiguous several (nontrivial_of_mem_iff left leftNodup) (.ofList left)

/-- **The verdict.** In a well-filed library resolution decides as described, on the adapters that
fit. -/
theorem decides_verdict (filed : library.WellFiled) {fit : Set Descriptor}
    (fits : ∀ adapter, adapter ∈ fit ↔ adapter ∈ library.eligible levels wanted) :
    Decides library.precedence levels wanted fit (library.verdict levels wanted) := by
  have provided : ∀ other ∈ library.eligible levels wanted, other.provides wanted = true :=
    fun other member => (mem_eligible.1 member).2.2
  rw [verdict_eq_narrowed]
  refine decides_of_nearest (fun adapter => ?_) ?_ fun none => ?_
  · rw [narrowed, mem_narrowed provided]
    simp only [← fits]
    rfl
  · exact filed.pairwise_names.sublist (narrowed_sublist.map _)
  · have noneEligible : library.eligible levels wanted = [] := by
      by_contra some
      exact narrow_ne_nil _ (narrow_ne_nil _ some) none
    exact eq_empty_of_mem_iff fun adapter => by rw [fits, noneEligible]

/-! ## Queries -/

variable {oracle : Oracle} {source : String}

/-- The adapters that fit are the eligible ones. -/
theorem mem_fitting_iff {found : Levels} (levelsOk : oracle.levels source = .ok found)
    (wanted : String) (adapter : Descriptor) :
    adapter ∈ library.fitting oracle.lookup source wanted ↔
      adapter ∈ library.eligible (.singleton source :: found) wanted := by
  have accepted (type : String) : type ∈ Levels.all (.singleton source :: found) ↔
      oracle.lookup.Reaches source type := by
    rw [Lookup.reaches_iff_eq_or_above, ← Oracle.mem_levels_iff levelsOk, Levels.mem_all,
      Levels.mem_all]
    simp
  rw [mem_eligible, Descriptor.acceptsAny_iff, Descriptor.provides_iff]
  simp only [accepted]
  rfl

section Levels

variable {found : Levels} {failure : UnknownType} {name : String}

theorem resolve_of_levels (levelsOk : oracle.levels source = .ok found) :
    (library.resolve oracle.ancestry source wanted).run =
      .ok (library.verdict (.singleton source :: found) wanted) := by
  show ((oracle.levels source).map (.singleton source :: ·)).map (library.verdict · wanted) = _
  rw [levelsOk]
  rfl

theorem resolve_of_unknown (unknown : oracle.levels source = .error failure) :
    (library.resolve oracle.ancestry source wanted).run = .error failure := by
  show ((oracle.levels source).map (.singleton source :: ·)).map (library.verdict · wanted) = _
  rw [unknown]
  rfl

theorem queryEligible_of_levels (levelsOk : oracle.levels source = .ok found) :
    (library.queryEligible oracle.ancestry source wanted).run =
      .ok (library.eligible (.singleton source :: found) wanted) := by
  show ((oracle.levels source).map (.singleton source :: ·)).map (library.eligible · wanted) = _
  rw [levelsOk]
  rfl

theorem queryEligible_of_unknown (unknown : oracle.levels source = .error failure) :
    (library.queryEligible oracle.ancestry source wanted).run = .error failure := by
  show ((oracle.levels source).map (.singleton source :: ·)).map (library.eligible · wanted) = _
  rw [unknown]
  rfl

theorem checkExplicit_of_unknown (contained : library.contains name = true)
    (unknown : oracle.levels source = .error failure) :
    (library.checkExplicit oracle.ancestry name source wanted).run =
      .error (.hierarchy failure) := by
  unfold checkExplicit
  rw [if_pos contained, Id.run_bind, queryEligible_of_unknown unknown]
  rfl

/-- An adapter of the library is found to fit, or not to be eligible. -/
theorem checkExplicit_of_levels (contained : library.contains name = true)
    (levelsOk : oracle.levels source = .ok found) :
    ((library.checkExplicit oracle.ancestry name source wanted).run = .ok () ∧
      ∃ adapter ∈ library.fitting oracle.lookup source wanted, adapter.name = name) ∨
    ((library.checkExplicit oracle.ancestry name source wanted).run =
        .error (.notEligible name source wanted) ∧
      ¬ ∃ adapter ∈ library.fitting oracle.lookup source wanted, adapter.name = name) := by
  have listed : (library.eligible (.singleton source :: found) wanted).any (·.name == name) = true ↔
      ∃ adapter ∈ library.fitting oracle.lookup source wanted, adapter.name = name := by
    simp only [List.any_eq_true, beq_iff_eq, ← mem_fitting_iff levelsOk]
  unfold checkExplicit
  rw [if_pos contained, Id.run_bind, queryEligible_of_levels levelsOk, ← listed]
  dsimp only
  split
  next isListed => exact .inl ⟨rfl, isListed⟩
  next notListed => exact .inr ⟨rfl, notListed⟩

/-- The adapters that the verdict names fit. -/
theorem mem_fitting_of_resolve (filed : library.WellFiled) {verdict : Verdict}
    (ok : (library.resolve oracle.ancestry source wanted).run = .ok verdict)
    (isNamed : name ∈ verdict.named) :
    ∃ adapter ∈ library.fitting oracle.lookup source wanted, adapter.name = name := by
  cases levelsOk : oracle.levels source with
  | error failure => simp [resolve_of_unknown levelsOk] at ok
  | ok found =>
    rw [resolve_of_levels levelsOk, Except.ok.injEq] at ok
    have decides := decides_verdict filed (mem_fitting_iff levelsOk wanted)
    exact decides.mem_of_named (ok ▸ isNamed)

/-- An adapter that was asked for and can be used fits. -/
theorem mem_fitting_of_checkExplicit
    (ok : (library.checkExplicit oracle.ancestry name source wanted).run = .ok ()) :
    ∃ adapter ∈ library.fitting oracle.lookup source wanted, adapter.name = name := by
  by_cases contained : library.contains name = true
  · cases levelsOk : oracle.levels source with
    | error failure => simp [checkExplicit_of_unknown contained levelsOk] at ok
    | ok found =>
      rcases checkExplicit_of_levels contained levelsOk with ⟨_, fits⟩ | ⟨refused, _⟩
      · exact fits
      · simp [refused] at ok
  · unfold checkExplicit at ok
    rw [if_neg contained] at ok
    cases ok

end Levels

/-- Where some adapter is eligible, neither pass runs out of levels without a hit. -/
theorem passes_hit (some : library.eligible levels wanted ≠ []) :
    (∃ level ∈ levels, ∃ adapter ∈ library.eligible levels wanted,
      adapter.acceptsAny level = true) ∧
    ∃ depth, ∃ adapter ∈ closestFrom levels (library.eligible levels wanted),
      adapter.providesAt depth wanted = true := by
  constructor
  · obtain ⟨adapter, member⟩ := List.exists_mem_of_ne_nil _ some
    obtain ⟨level, isLevel, accepted⟩ :=
      Descriptor.acceptsAny_all_iff.1 (mem_eligible.1 member).2.1
    exact ⟨level, isLevel, adapter, member, accepted⟩
  · obtain ⟨adapter, member⟩ := List.exists_mem_of_ne_nil _
      (narrow_ne_nil (levels.map fun level adapter => adapter.acceptsAny level) some)
    obtain ⟨level, isLevel, provided⟩ := Descriptor.provides_iff.1
      (mem_eligible.1 ((narrow_sublist ..).subset member)).2.2
    obtain ⟨depth, inside, atDepth⟩ := List.mem_iff_getElem.1 isLevel
    refine ⟨depth, adapter, member, ?_⟩
    simp [Descriptor.providesAt, List.getElem?_eq_getElem inside, atDepth, provided]

/-- **Resolution.** Let a library be made by its operations and every type reached from `source` be
known. Then a session with any history answers a query for the best adapter with the verdict that
the description gives, and no other. That verdict is the one on the candidates that both passes
leave, whatever exits are taken before, and no pass over eligible adapters ends without a hit. -/
theorem resolve_iff_decides (built : library.Built) (oracle : Oracle) (queries : List Query)
    (source wanted : String) (known : oracle.lookup.KnownFrom source) :
    ∃ levels verdict,
      (oracle.ancestry.selfAndLevels source).run = .ok levels ∧
      ((library.resolve (Session.ancestry oracle) source wanted).run
        (Session.start.asking oracle queries)).1 = .ok verdict ∧
      (∀ other, Decides library.precedence levels wanted
        (library.fitting oracle.lookup source wanted) other ↔ other = verdict) ∧
      verdict = (settled? (library.narrowed levels wanted)).getD
        (library.byPrecedence (library.narrowed levels wanted)) ∧
      (library.eligible levels wanted ≠ [] →
        (∃ level ∈ levels, ∃ adapter ∈ library.eligible levels wanted,
          adapter.acceptsAny level = true) ∧
        ∃ depth, ∃ adapter ∈ closestFrom levels (library.eligible levels wanted),
          adapter.providesAt depth wanted = true) := by
  obtain ⟨found, levelsOk⟩ := Oracle.exists_levels_iff.2 known
  have answered : (oracle.ancestry.selfAndLevels source).run =
      .ok (.singleton source :: found) := by
    show (oracle.levels source).map (.singleton source :: ·) = _
    rw [levelsOk]
    rfl
  have decides := decides_verdict built.wellFiled (mem_fitting_iff levelsOk wanted)
  refine ⟨.singleton source :: found, library.verdict (.singleton source :: found) wanted,
    answered, ?_, fun other => ⟨fun alsoDecides => alsoDecides.unique decides, ?_⟩,
    verdict_eq_narrowed, passes_hit⟩
  · rw [(Session.Answers.resolve library source wanted _ (Session.Faithful.start.asking queries)).1]
    show (oracle.ancestry.selfAndLevels source).run.map (library.verdict · wanted) = _
    rw [answered]
    rfl
  · rintro rfl
    exact decides

/-- Two types each of which is declared above the other. -/
def mutualTypes : NameMap NameSet := .ofList [("A", .singleton "B"), ("B", .singleton "A")]

/-- Two adapters at the same distance, one of them preferred to the other and to itself. -/
def tiedLibrary : Library :=
  (ofList [⟨"X", .singleton "B", [.singleton "A"]⟩, ⟨"Y", .ofList ["A", "B"], [.singleton "A"]⟩])
    |>.withPrecedence ((Precedence.none.declare "Y" "X").declare "Y" "Y")

theorem resolve_iff_decides_tied :
    tiedLibrary.Built ∧ (Oracle.ofTable mutualTypes).lookup.KnownFrom "B" ∧
    ∃ levels verdict,
      ((Oracle.ofTable mutualTypes).ancestry.selfAndLevels "B").run = .ok levels ∧
      ((tiedLibrary.resolve (Session.ancestry (.ofTable mutualTypes)) "B" "A").run
        (Session.start.asking (.ofTable mutualTypes) [.levels "A", .known "B"])).1 = .ok verdict ∧
      ∀ other, Decides tiedLibrary.precedence levels "A"
        (tiedLibrary.fitting (Oracle.ofTable mutualTypes).lookup "B" "A") other ↔
          other = verdict := by
  have built : tiedLibrary.Built := (Built.ofList _).withPrecedence _
  have closed : (Oracle.ofTable mutualTypes).lookup.Closed ["A", "B"] := by
    intro name member supertypes found
    have known : mutualTypes.get? "A" = some (.singleton "B") ∧
        mutualTypes.get? "B" = some (.singleton "A") := by decide
    change mutualTypes.get? name = some supertypes at found
    simp only [List.mem_cons, List.not_mem_nil, or_false] at member
    rcases member with rfl | rfl
    · rw [known.1, Option.some.injEq] at found
      simp [← found]
    · rw [known.2, Option.some.injEq] at found
      simp [← found]
  have known := Lookup.knownFrom_of_closed closed (by decide) (List.mem_cons_of_mem "A" (.head _))
  obtain ⟨levels, verdict, answered, resolved, decides, _⟩ :=
    resolve_iff_decides built (.ofTable mutualTypes) [.levels "A", .known "B"] "B" "A" known
  exact ⟨built, known, levels, verdict, answered, resolved, decides⟩

end Library

end AdapterWiring
