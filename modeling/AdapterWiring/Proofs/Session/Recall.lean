import AdapterWiring.Adapter.Resolution
import AdapterWiring.Hierarchy.Session

/-!
# Sessions over an oracle that does not change

A session answers from what it remembers. While the oracle stays the same, that
makes no difference: whatever was asked before, in whatever order, each query is
answered as the oracle itself would answer it.

* **Query, asking** — the queries, and the session that a history of them leaves.
* **Faithful** — what is remembered is what the oracle says.
* **Answers** — a query with one answer in all faithful sessions, which leaves
  them faithful; closed under composition (`Answers.bind`).
* **Faithful.asking, Answers.asked** — every history leaves a faithful session,
  which gives that answer.
-/

namespace AdapterWiring

/-! ## Histories -/

/-- A query to a session. -/
inductive Query where
  /-- The direct supertypes of a type. -/
  | supertypes (name : String)
  /-- Whether a type is known. -/
  | known (name : String)
  /-- The levels of a type. -/
  | levels (name : String)
  /-- The ancestors of a type. -/
  | ancestors (name : String)
  /-- A type with its levels. -/
  | selfAndLevels (name : String)
  /-- Whether a type is another or below it. -/
  | subtypeOrEqual (lower upper : String)
  /-- The eligible adapters of a library. -/
  | eligible (library : Library) (source wanted : String)
  /-- The best adapter of a library. -/
  | resolve (library : Library) (source wanted : String)
  /-- Whether an adapter of a library can be used. -/
  | explicit (library : Library) (adapter source wanted : String)
  /-- The descriptor of an adapter. -/
  | discover (name : String) (parameters : NameSet)

namespace Query

/-- The session after a query. -/
def ask (oracle : Oracle) (query : Query) (session : Session) : Session :=
  let types := Session.ancestry oracle
  match query with
  | supertypes name => ((Session.supertypes oracle name).run session).2
  | known name => ((Session.isKnown oracle name).run session).2
  | levels name => ((types.levels name).run session).2
  | ancestors name => ((types.ancestors name).run session).2
  | selfAndLevels name => ((types.selfAndLevels name).run session).2
  | subtypeOrEqual lower upper => ((types.isSubtypeOrEqual lower upper).run session).2
  | eligible library source wanted => ((library.queryEligible types source wanted).run session).2
  | resolve library source wanted => ((library.resolve types source wanted).run session).2
  | explicit library adapter source wanted =>
    ((library.checkExplicit types adapter source wanted).run session).2
  | discover name parameters => ((Descriptor.discover types name parameters).run session).2

end Query

namespace Session

variable {oracle : Oracle} {session : Session}

/-- The session after further queries to an oracle that stays the same. -/
def asking (session : Session) (oracle : Oracle) (queries : List Query) : Session :=
  queries.foldl (fun session query => query.ask oracle session) session

/-! ## Faithful sessions -/

/-- What a session remembers is what the oracle says. -/
structure Faithful (oracle : Oracle) (session : Session) : Prop where
  direct : ∀ name supertypes, session.direct.get? name = some supertypes →
    oracle.lookup name = some supertypes
  leveled : ∀ name levels, session.leveled.get? name = some levels →
    oracle.levels name = .ok levels

theorem Faithful.start : start.Faithful oracle where
  direct name supertypes stored := by simp [Session.start] at stored
  leveled name levels stored := by simp [Session.start] at stored

/-- A faithful session sees the oracle as it is. -/
theorem Faithful.view_eq (faithful : session.Faithful oracle) : session.view oracle = oracle := by
  have same : session.lookup oracle = oracle.lookup := by
    funext name
    unfold Session.lookup
    cases stored : session.direct.get? name with
    | none => rfl
    | some supertypes => exact (faithful.direct name supertypes stored).symm
  cases oracle with
  | mk lookup finite => simp only [view, same]

/-- A look at one type keeps a session faithful. -/
theorem Faithful.visit (faithful : session.Faithful oracle) (name : String) :
    (session.visit oracle name).Faithful oracle := by
  unfold Session.visit
  split
  · exact faithful
  cases found : oracle.lookup name with
  | none => exact ⟨faithful.direct, faithful.leveled⟩
  | some supertypes =>
    refine ⟨fun other others stored => ?_, faithful.leveled⟩
    rw [NameMap.get?_insert] at stored
    split at stored
    next same => rw [same, found, stored]
    next => exact faithful.direct other others stored

theorem Faithful.foldl_visit (faithful : session.Faithful oracle) (names : List String) :
    (names.foldl (Session.visit oracle) session).Faithful oracle := by
  induction names generalizing session with
  | nil => exact faithful
  | cons head rest ih => exact ih (faithful.visit head)

/-! ## Answers -/

/-- A query has one answer in all faithful sessions and leaves them faithful. -/
def Answers {α : Type} (oracle : Oracle) (query : StateM Session α) (answer : α) : Prop :=
  ∀ session : Session, session.Faithful oracle →
    (query.run session).1 = answer ∧ (query.run session).2.Faithful oracle

namespace Answers

variable {α β : Type}

theorem pure (answer : α) : Answers oracle (Pure.pure answer) answer :=
  fun _ faithful => ⟨rfl, faithful⟩

theorem bind {query : StateM Session α} {next : α → StateM Session β} {first : α} {second : β}
    (answersFirst : Answers oracle query first) (answersNext : Answers oracle (next first) second) :
    Answers oracle (query >>= next) second := by
  intro session faithful
  obtain ⟨answer, kept⟩ := answersFirst session faithful
  have answered := answersNext _ kept
  rw [← answer] at answered
  exact answered

theorem map {query : StateM Session α} {answer : α} (change : α → β)
    (answers : Answers oracle query answer) :
    Answers oracle (do return change (← query)) (change answer) :=
  answers.bind (.pure _)

/-- The direct supertypes of a type. -/
theorem supertypes (name : String) :
    Answers oracle (Session.supertypes oracle name) (oracle.supertypes name) := by
  intro session faithful
  refine ⟨?_, faithful.visit name⟩
  show (session.view oracle).supertypes name = oracle.supertypes name
  rw [faithful.view_eq]

/-- The levels of a type: those remembered are the oracle's, and a walk in a faithful session is
the oracle's own. -/
theorem levels (name : String) :
    Answers oracle (Session.levels oracle name) (oracle.levels name) := by
  intro session faithful
  show (Session.levels oracle name session).1 = _ ∧
    (Session.levels oracle name session).2.Faithful _
  unfold Session.levels
  cases stored : session.leveled.get? name with
  | some found => exact ⟨(faithful.leveled name found stored).symm, faithful⟩
  | none =>
    rw [faithful.view_eq]
    have kept := faithful.foldl_visit (oracle.walk name).asked
    cases outcome : (oracle.walk name).outcome with
    | error failure =>
      simp only [outcome]
      exact ⟨outcome.symm, kept⟩
    | ok found =>
      simp only [outcome]
      refine ⟨outcome.symm, kept.direct, fun other others isStored => ?_⟩
      -- only the entry of this type is new
      rw [NameMap.get?_insert] at isStored
      split at isStored
      next same =>
        rw [same, ← Option.some.inj isStored]
        exact outcome
      next => exact kept.leveled other others isStored

/-! ### Queries made of others -/

theorem isKnown (name : String) :
    Answers oracle (Session.isKnown oracle name) (oracle.supertypes name).isOk :=
  (supertypes name).map Except.isOk

theorem ancestors (name : String) :
    Answers oracle ((ancestry oracle).ancestors name) (oracle.ancestry.ancestors name).run :=
  (levels name).map (Except.map Levels.all)

theorem selfAndLevels (name : String) :
    Answers oracle ((ancestry oracle).selfAndLevels name)
      (oracle.ancestry.selfAndLevels name).run :=
  (levels name).map (Except.map (NameSet.singleton name :: ·))

theorem isSubtypeOrEqual (lower upper : String) :
    Answers oracle ((ancestry oracle).isSubtypeOrEqual lower upper)
      (oracle.ancestry.isSubtypeOrEqual lower upper).run := by
  unfold Ancestry.isSubtypeOrEqual
  by_cases same : lower = upper
  · rw [if_pos same, if_pos same]
    exact .pure _
  · rw [if_neg same, if_neg same]
    exact (levels lower).map (Except.map (·.any (upper ∈ ·)))

theorem eligible (library : Library) (source wanted : String) :
    Answers oracle (library.queryEligible (ancestry oracle) source wanted)
      (library.queryEligible oracle.ancestry source wanted).run :=
  (selfAndLevels source).map (Except.map (library.eligible · wanted))

theorem resolve (library : Library) (source wanted : String) :
    Answers oracle (library.resolve (ancestry oracle) source wanted)
      (library.resolve oracle.ancestry source wanted).run :=
  (selfAndLevels source).map (Except.map (library.verdict · wanted))

theorem explicit (library : Library) (adapter source wanted : String) :
    Answers oracle (library.checkExplicit (ancestry oracle) adapter source wanted)
      (library.checkExplicit oracle.ancestry adapter source wanted).run := by
  unfold Library.checkExplicit
  by_cases filed : library.contains adapter = true
  · rw [if_pos filed, if_pos filed]
    refine (eligible library source wanted).bind ?_
    rw [Id.run_bind]
    cases (library.queryEligible oracle.ancestry source wanted).run with
    | error failure => exact .pure _
    | ok found =>
      by_cases listed : found.any (·.name == adapter) = true
      · simp only [if_pos listed]
        exact .pure _
      · simp only [if_neg listed]
        exact .pure _
  · rw [if_neg filed, if_neg filed]
    exact .pure _

theorem discover (name : String) (parameters : NameSet) :
    Answers oracle (Descriptor.discover (ancestry oracle) name parameters)
      (Descriptor.discover oracle.ancestry name parameters).run :=
  (levels name).map (Except.map (Descriptor.mk name parameters))

end Answers

/-! ## Every history -/

theorem Faithful.ask (faithful : session.Faithful oracle) (query : Query) :
    (query.ask oracle session).Faithful oracle := by
  cases query with
  | supertypes name => exact (Answers.supertypes name session faithful).2
  | known name => exact (Answers.isKnown name session faithful).2
  | levels name => exact (Answers.levels name session faithful).2
  | ancestors name => exact (Answers.ancestors name session faithful).2
  | selfAndLevels name => exact (Answers.selfAndLevels name session faithful).2
  | subtypeOrEqual lower upper => exact (Answers.isSubtypeOrEqual lower upper session faithful).2
  | eligible library source wanted =>
    exact (Answers.eligible library source wanted session faithful).2
  | resolve library source wanted =>
    exact (Answers.resolve library source wanted session faithful).2
  | explicit library adapter source wanted =>
    exact (Answers.explicit library adapter source wanted session faithful).2
  | discover name parameters => exact (Answers.discover name parameters session faithful).2

/-- Every history of queries to an oracle that stays the same keeps a session faithful. -/
theorem Faithful.asking (faithful : session.Faithful oracle) (queries : List Query) :
    (session.asking oracle queries).Faithful oracle := by
  induction queries generalizing session with
  | nil => exact faithful
  | cons query rest ih => exact ih (faithful.ask query)

/-- So after any history a query has its one answer. -/
theorem Answers.asked {α : Type} {query : StateM Session α} {answer : α}
    (answers : Answers oracle query answer) (queries : List Query) :
    (query.run (start.asking oracle queries)).1 = answer :=
  (answers _ (Faithful.start.asking queries)).1

end Session

end AdapterWiring
