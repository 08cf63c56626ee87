import AdapterWiring.Proofs.Hierarchy.Layers
import Mathlib

/-!
# One snapshot per session

The oracle may say something else at each query. What a session remembers of it
is still one hierarchy: a direct entry stays as it was stored, and the levels
remembered are those of the direct entries remembered.

* **Answer, perform, failed?** — the answer to a query, and the type that it
  fails at.
* **Turn, follow** — a query with the oracle as it stands then; a run of them.
* **Extends** — a session that has gone on: it keeps its direct entries and asks
  for other types only.
* **Consistent** — the levels remembered are those of the direct entries.
* **Advances** — what one query does (`Query.advances`), from what it asks for
  (`Query.perform_cases`); `follow_extends`, `Consistent.follow` what a run does.
* **Complete** — all that is reached from a type is remembered; queries about it
  go by without a question (`Complete.quiet`).
-/

namespace AdapterWiring

/-! ## Answers and failures -/

namespace Query

/-- What a query is answered with. -/
def Answer : Query → Type
  | supertypes _ => Except UnknownType NameSet
  | known _ => Bool
  | levels _ => Except UnknownType Levels
  | ancestors _ => Except UnknownType NameSet
  | selfAndLevels _ => Except UnknownType Levels
  | subtypeOrEqual .. => Except UnknownType Bool
  | eligible .. => Except UnknownType (List Descriptor)
  | resolve .. => Except UnknownType Verdict
  | explicit .. => Except ExplicitError Unit
  | discover .. => Except UnknownType Descriptor

/-- Put a query to a session. -/
def perform (oracle : Oracle) : (query : Query) → StateM Session query.Answer
  | supertypes name => Session.supertypes oracle name
  | known name => Session.isKnown oracle name
  | levels name => (Session.ancestry oracle).levels name
  | ancestors name => (Session.ancestry oracle).ancestors name
  | selfAndLevels name => (Session.ancestry oracle).selfAndLevels name
  | subtypeOrEqual lower upper => (Session.ancestry oracle).isSubtypeOrEqual lower upper
  | eligible library source wanted =>
    library.queryEligible (Session.ancestry oracle) source wanted
  | resolve library source wanted => library.resolve (Session.ancestry oracle) source wanted
  | explicit library adapter source wanted =>
    library.checkExplicit (Session.ancestry oracle) adapter source wanted
  | discover name parameters => Descriptor.discover (Session.ancestry oracle) name parameters

/-- The type that a query is about. -/
def subject : Query → String
  | supertypes name => name
  | known name => name
  | levels name => name
  | ancestors name => name
  | selfAndLevels name => name
  | subtypeOrEqual lower _ => lower
  | eligible _ source _ => source
  | resolve _ source _ => source
  | explicit _ _ source _ => source
  | discover name _ => name

end Query

/-- The type that a result fails at. -/
def unknownOf {α : Type} : Except UnknownType α → Option String
  | .ok _ => none
  | .error failure => some failure.name

namespace Query

/-- The type that an answer fails at. A type that is said not to be known is one; an adapter that
cannot be used is not. -/
def unknown? : (query : Query) → query.Answer → Option String
  | supertypes _, answer => unknownOf answer
  | known name, (isKnown : Bool) => if isKnown then none else some name
  | levels _, answer => unknownOf answer
  | ancestors _, answer => unknownOf answer
  | selfAndLevels _, answer => unknownOf answer
  | subtypeOrEqual .., answer => unknownOf answer
  | eligible .., answer => unknownOf answer
  | resolve .., answer => unknownOf answer
  | explicit .., answer =>
    match answer with
    | .error (.hierarchy failure) => some failure.name
    | _ => none
  | discover .., answer => unknownOf answer

/-- The type that a query to a session fails at. -/
def failed? (query : Query) (oracle : Oracle) (session : Session) : Option String :=
  query.unknown? ((query.perform oracle).run session).1

theorem ask_eq (query : Query) (oracle : Oracle) (session : Session) :
    query.ask oracle session = ((query.perform oracle).run session).2 := by
  cases query <;> rfl

end Query

theorem unknownOf_map {α β : Type} (change : α → β) (result : Except UnknownType α) :
    unknownOf (result.map change) = unknownOf result := by
  cases result <;> rfl

/-! ## Queries by what they ask -/

/-- What becomes of the eligible adapters when one of them is asked for. -/
def explicitOf (adapter source wanted : String) :
    Except UnknownType (List Descriptor) → Except ExplicitError Unit
  | .error failure => .error (.hierarchy failure)
  | .ok eligible =>
    if eligible.any (·.name == adapter) then .ok ()
    else .error (.notEligible adapter source wanted)

theorem Library.checkExplicit_of_contains {library : Library} {adapter : String}
    (filed : library.contains adapter = true) (types : Ancestry (StateM Session))
    (source wanted : String) :
    library.checkExplicit types adapter source wanted = (do
      return explicitOf adapter source wanted (← library.queryEligible types source wanted)) := by
  rw [checkExplicit, if_pos filed]
  refine bind_congr fun result => ?_
  cases result with
  | error failure => rfl
  | ok eligible =>
    unfold explicitOf
    dsimp only
    split <;> rfl

namespace Query

/-- A query asks for nothing, for the direct supertypes of the type that it is about, or for its
levels. Where it asks it fails just if what it asks for is not there. -/
theorem perform_cases (query : Query) (oracle : Oracle) :
    (∃ answer, query.perform oracle = pure answer ∧ query.unknown? answer = none) ∨
    (∃ change : Except UnknownType NameSet → query.Answer,
      query.perform oracle = (do return change (← Session.supertypes oracle query.subject)) ∧
      (∀ found, query.unknown? (change (.ok found)) = none) ∧
      query.unknown? (change (.error ⟨query.subject⟩)) = some query.subject) ∨
    ∃ change : Except UnknownType Levels → query.Answer,
      query.perform oracle = (do return change (← Session.levels oracle query.subject)) ∧
      ∀ result, query.unknown? (change result) = unknownOf result := by
  cases query with
  | supertypes name => exact .inr (.inl ⟨id, rfl, fun _ => rfl, rfl⟩)
  | known name => exact .inr (.inl ⟨Except.isOk, rfl, fun _ => rfl, rfl⟩)
  | levels name => exact .inr (.inr ⟨id, rfl, fun _ => rfl⟩)
  | ancestors name => exact .inr (.inr ⟨_, rfl, fun _ => unknownOf_map _ _⟩)
  | selfAndLevels name => exact .inr (.inr ⟨_, rfl, fun _ => unknownOf_map _ _⟩)
  | subtypeOrEqual lower upper =>
    by_cases same : lower = upper
    · refine .inl ⟨.ok true, ?_, rfl⟩
      rw [perform, Ancestry.isSubtypeOrEqual, if_pos same]
      rfl
    · refine .inr (.inr ⟨Except.map (·.any (upper ∈ ·)), ?_, fun _ => unknownOf_map _ _⟩)
      rw [perform, Ancestry.isSubtypeOrEqual, if_neg same]
      rfl
  | eligible library source wanted =>
    exact .inr (.inr ⟨_, rfl, fun _ => (unknownOf_map _ _).trans (unknownOf_map _ _)⟩)
  | resolve library source wanted =>
    exact .inr (.inr ⟨_, rfl, fun _ => (unknownOf_map _ _).trans (unknownOf_map _ _)⟩)
  | explicit library adapter source wanted =>
    by_cases filed : library.contains adapter = true
    · refine .inr (.inr ⟨fun result => explicitOf adapter source wanted
        ((result.map (.singleton source :: ·)).map (library.eligible · wanted)), ?_, ?_⟩)
      · exact library.checkExplicit_of_contains filed (Session.ancestry oracle) source wanted
      · intro result
        cases result with
        | error failure => rfl
        | ok levels =>
          simp only [Except.map, explicitOf]
          split <;> rfl
    · refine .inl ⟨.error (.unknownAdapter adapter), ?_, rfl⟩
      rw [perform, Library.checkExplicit, if_neg filed]
      rfl
  | discover name parameters =>
    exact .inr (.inr ⟨_, rfl, fun _ => unknownOf_map _ _⟩)

/-- What is left of that in the session and in the failure. -/
theorem ask_cases (query : Query) (oracle : Oracle) (session : Session) :
    (query.ask oracle session = session ∧ query.failed? oracle session = none) ∨
    (query.ask oracle session = session.visit oracle query.subject ∧
      query.failed? oracle session =
        unknownOf ((session.view oracle).supertypes query.subject)) ∨
    (query.ask oracle session = (Session.levels oracle query.subject session).2 ∧
      query.failed? oracle session =
        unknownOf (Session.levels oracle query.subject session).1) := by
  rw [ask_eq, failed?]
  rcases query.perform_cases oracle with
    ⟨answer, asks, known⟩ | ⟨change, asks, known, unknown⟩ | ⟨change, asks, unknown⟩
  · rw [asks]
    exact .inl ⟨rfl, known⟩
  · rw [asks]
    refine .inr (.inl ⟨rfl, ?_⟩)
    show query.unknown? (change ((session.view oracle).supertypes query.subject)) = _
    unfold Oracle.supertypes
    cases (session.view oracle).lookup query.subject with
    | some supertypes => exact known supertypes
    | none => exact unknown
  · rw [asks]
    exact .inr (.inr ⟨rfl, unknown _⟩)

end Query

/-! ## Single steps -/

namespace Session

variable {oracle : Oracle} {session : Session} {name : String}

/-- A session that has gone on: its direct entries are as they were, and it has asked only for types
without one. -/
structure Extends (earlier later : Session) : Prop where
  kept : ∀ name supertypes, earlier.direct.get? name = some supertypes →
    later.direct.get? name = some supertypes
  asked : ∃ fresh, later.asked = earlier.asked ++ fresh ∧
    ∀ name ∈ fresh, earlier.direct.get? name = none

theorem Extends.refl (session : Session) : session.Extends session :=
  ⟨fun _ _ stored => stored, [], by simp, by simp⟩

theorem Extends.trans {first second third : Session} (before : first.Extends second)
    (after : second.Extends third) : first.Extends third := by
  obtain ⟨fresh, asked, absent⟩ := before.asked
  obtain ⟨fresh', asked', absent'⟩ := after.asked
  refine ⟨fun name supertypes stored => after.kept _ _ (before.kept _ _ stored),
    fresh ++ fresh', by rw [asked', asked, List.append_assoc], fun name member => ?_⟩
  rcases List.mem_append.1 member with early | late
  · exact absent name early
  · cases stored : first.direct.get? name with
    | none => rfl
    | some supertypes =>
      have kept := before.kept name supertypes stored
      rw [absent' name late] at kept
      cases kept

/-! ### A look at one type -/

theorem visit_of_stored {supertypes : NameSet}
    (stored : session.direct.get? name = some supertypes) :
    session.visit oracle name = session := by
  rw [visit, if_pos (by simp [NameMap.contains, stored])]

/-- After a look at a type its entry is what the session saw of it. -/
theorem get?_visit (other : String) : (session.visit oracle name).direct.get? other =
    if other = name then session.lookup oracle name else session.direct.get? other := by
  unfold visit lookup
  cases stored : session.direct.get? name with
  | some supertypes =>
    rw [if_pos (by simp [NameMap.contains, stored])]
    split
    next same => simp [same, stored]
    next => rfl
  | none =>
    rw [if_neg (by simp [NameMap.contains, stored])]
    cases found : oracle.lookup name with
    | some supertypes => simp
    | none =>
      show session.direct.get? other = if other = name then none else session.direct.get? other
      split
      next same => rw [same, stored]
      next => rfl

theorem leveled_visit : (session.visit oracle name).leveled = session.leveled := by
  unfold visit
  split
  · rfl
  · split <;> rfl

theorem lookup_visit : (session.visit oracle name).lookup oracle = session.lookup oracle := by
  funext other
  show ((session.visit oracle name).direct.get? other).or (oracle.lookup other) = _
  rw [get?_visit]
  split
  next same =>
    subst same
    unfold lookup
    cases session.direct.get? other <;> cases oracle.lookup other <;> rfl
  next => rfl

theorem extends_visit : session.Extends (session.visit oracle name) := by
  cases stored : session.direct.get? name with
  | some supertypes =>
    rw [visit_of_stored stored]
    exact .refl session
  | none =>
    refine ⟨fun other others isStored => ?_, [name], ?_, by simpa using stored⟩
    · have different : other ≠ name := by
        rintro rfl
        simp [stored] at isStored
      rw [get?_visit, if_neg different, isStored]
    · rw [visit, if_neg (by simp [NameMap.contains, stored])]
      cases oracle.lookup name <;> rfl

/-! ### Looks at several types -/

variable {names : List String}

theorem extends_foldl_visit : session.Extends (names.foldl (visit oracle) session) := by
  induction names generalizing session with
  | nil => exact .refl session
  | cons head rest ih => exact extends_visit.trans ih

theorem leveled_foldl_visit : (names.foldl (visit oracle) session).leveled = session.leveled := by
  induction names generalizing session with
  | nil => rfl
  | cons head rest ih => rw [List.foldl_cons, ih, leveled_visit]

theorem get?_foldl_visit (other : String) :
    (names.foldl (visit oracle) session).direct.get? other =
      if other ∈ names then session.lookup oracle other else session.direct.get? other := by
  induction names generalizing session with
  | nil => simp
  | cons head rest ih =>
    rw [List.foldl_cons, ih, lookup_visit, get?_visit]
    by_cases same : other = head
    · simp [same]
    · simp [same]

theorem foldl_visit_of_stored
    (stored : ∀ name ∈ names, ∃ supertypes, session.direct.get? name = some supertypes) :
    names.foldl (visit oracle) session = session := by
  induction names with
  | nil => rfl
  | cons head rest ih =>
    obtain ⟨supertypes, isStored⟩ := stored head (List.mem_cons_self ..)
    rw [List.foldl_cons, visit_of_stored isStored]
    exact ih fun name later => stored name (List.mem_cons_of_mem _ later)

/-! ### A query for levels -/

theorem levels_of_stored {levels : Levels} (stored : session.leveled.get? name = some levels) :
    Session.levels oracle name session = (.ok levels, session) := by
  simp only [Session.levels, stored]

theorem levels_of_ok {levels : Levels} (absent : session.leveled.get? name = none)
    (ok : ((session.view oracle).walk name).outcome = .ok levels) :
    Session.levels oracle name session =
      let visited := ((session.view oracle).walk name).asked.foldl (visit oracle) session
      (.ok levels, { visited with leveled := visited.leveled.insert name levels }) := by
  simp only [Session.levels, absent, ok]

theorem levels_of_error {failure : UnknownType} (absent : session.leveled.get? name = none)
    (error : ((session.view oracle).walk name).outcome = .error failure) :
    Session.levels oracle name session =
      (.error failure, ((session.view oracle).walk name).asked.foldl (visit oracle) session) := by
  simp only [Session.levels, absent, error]

/-! ## Consistency -/

/-- The levels remembered are those of the direct entries remembered. -/
def Consistent (session : Session) : Prop :=
  ∀ name levels, session.leveled.get? name = some levels →
    (Oracle.ofTable session.direct).levels name = .ok levels

/-- All that is reached from a type by direct entries has a direct entry. -/
def Complete (session : Session) (name : String) : Prop :=
  (Oracle.ofTable session.direct).lookup.KnownFrom name

theorem Consistent.complete {levels : Levels} (consistent : session.Consistent)
    (stored : session.leveled.get? name = some levels) : session.Complete name :=
  Oracle.exists_levels_iff.1 ⟨levels, consistent name levels stored⟩

theorem Complete.exists_direct (complete : session.Complete name) {other : String}
    (reached : (Oracle.ofTable session.direct).lookup.Reaches name other) :
    ∃ supertypes, session.direct.get? other = some supertypes :=
  Option.ne_none_iff_exists'.1 (complete other reached)

/-- Where all is remembered, whoever agrees with it finds the same levels. -/
theorem Complete.walk_eq (complete : session.Complete name) (later : Oracle)
    (keeps : ∀ other supertypes, session.direct.get? other = some supertypes →
      later.lookup other = some supertypes) :
    later.walk name = (Oracle.ofTable session.direct).walk name := by
  refine Lookup.walk_congr _ _ fun other reached => ?_
  obtain ⟨supertypes, stored⟩ := complete.exists_direct reached
  exact (keeps other supertypes stored).trans stored.symm

theorem Complete.levels_extends {later : Session} (complete : session.Complete name)
    (extends' : session.Extends later) :
    (Oracle.ofTable later.direct).levels name = (Oracle.ofTable session.direct).levels name :=
  congrArg Lookup.Walk.outcome (complete.walk_eq (.ofTable later.direct) extends'.kept)

theorem Complete.extend {later : Session} (complete : session.Complete name)
    (extends' : session.Extends later) : later.Complete name := by
  obtain ⟨levels, ok⟩ := Oracle.exists_levels_iff.2 complete
  exact Oracle.exists_levels_iff.1 ⟨levels, (complete.levels_extends extends').trans ok⟩

theorem Complete.reached (complete : session.Complete name) {other : String}
    (reached : (Oracle.ofTable session.direct).lookup.Reaches name other) :
    session.Complete other :=
  fun third further => complete third (reached.trans further)

theorem Consistent.extend {later : Session} (consistent : session.Consistent)
    (extends' : session.Extends later) (leveled : later.leveled = session.leveled) :
    later.Consistent := by
  intro name levels stored
  rw [leveled] at stored
  have complete := consistent.complete stored
  exact (complete.levels_extends extends').trans (consistent name levels stored)

/-! ## What one query does -/

/-- What a query does to a session: it goes on and stays consistent, and where it fails it stores
no levels and nothing of the type that it fails at. -/
structure Advances (before after : Session) (failed? : Option String) : Prop where
  extends' : before.Extends after
  consistent : before.Consistent → after.Consistent
  failed : ∀ name, failed? = some name →
    after.leveled = before.leveled ∧ after.direct.get? name = none

theorem Advances.idle (session : Session) : Advances session session none :=
  ⟨.refl session, id, by simp⟩

theorem Advances.visit (oracle : Oracle) (session : Session) (name : String) :
    Advances session (session.visit oracle name)
      (unknownOf ((session.view oracle).supertypes name)) := by
  refine ⟨extends_visit, fun consistent => consistent.extend extends_visit leveled_visit, ?_⟩
  intro failed isFailed
  refine ⟨leveled_visit, ?_⟩
  have seen : (session.view oracle).lookup name = session.lookup oracle name := rfl
  unfold Oracle.supertypes at isFailed
  cases found : session.lookup oracle name with
  | some supertypes => simp [seen, found, unknownOf] at isFailed
  | none =>
    simp only [seen, found, unknownOf, Option.some.injEq] at isFailed
    rw [get?_visit, if_pos isFailed.symm, found]

/-- The walk of a session asks for what is reached, and then the entries of all that is there. -/
theorem levels_of_asked {levels : Levels}
    (ok : ((session.view oracle).walk name).outcome = .ok levels) :
    (Oracle.ofTable (((session.view oracle).walk name).asked.foldl (Session.visit oracle)
      session).direct).levels name = .ok levels := by
  refine Eq.trans ?_ ok
  refine congrArg Lookup.Walk.outcome (Lookup.walk_congr _ _ fun other reached => ?_)
  have asked := (Lookup.mem_asked_iff ok other).2 reached
  show (((session.view oracle).walk name).asked.foldl (Session.visit oracle)
    session).direct.get? other = session.lookup oracle other
  rw [get?_foldl_visit]
  exact if_pos asked

theorem Advances.levels (oracle : Oracle) (session : Session) (name : String) :
    Advances session (Session.levels oracle name session).2
      (unknownOf (Session.levels oracle name session).1) := by
  cases stored : session.leveled.get? name with
  | some levels =>
    rw [levels_of_stored stored]
    exact .idle session
  | none =>
    have visited : session.Extends
        (((session.view oracle).walk name).asked.foldl (Session.visit oracle) session) :=
      extends_foldl_visit
    have kept (consistent : session.Consistent) :=
      consistent.extend visited leveled_foldl_visit
    cases outcome : ((session.view oracle).walk name).outcome with
    | error failure =>
      rw [levels_of_error stored outcome]
      refine ⟨visited, kept, fun failed isFailed => ⟨leveled_foldl_visit, ?_⟩⟩
      cases isFailed
      obtain ⟨unknown, _⟩ := Lookup.walk_error outcome
      have absent : session.direct.get? failure.name = none :=
        (Option.or_eq_none_iff.1 unknown).1
      rw [get?_foldl_visit]
      split
      · exact unknown
      · exact absent
    | ok levels =>
      rw [levels_of_ok stored outcome]
      refine ⟨⟨visited.kept, visited.asked⟩, fun consistent => ?_, by simp [unknownOf]⟩
      intro other others isStored
      -- only the entry of this type is new
      rw [NameMap.get?_insert] at isStored
      split at isStored
      next same =>
        rw [same, ← Option.some.inj isStored]
        exact levels_of_asked outcome
      next => exact kept consistent other others isStored

end Session

theorem Query.advances (query : Query) (oracle : Oracle) (session : Session) :
    Session.Advances session (query.ask oracle session) (query.failed? oracle session) := by
  rcases query.ask_cases oracle session with ⟨after, failed⟩ | ⟨after, failed⟩ | ⟨after, failed⟩
  · rw [after, failed]
    exact .idle session
  · rw [after, failed]
    exact .visit oracle session query.subject
  · rw [after, failed]
    exact .levels oracle session query.subject

/-! ## Runs -/

/-- A query, with the oracle as it stands then. -/
structure Turn where
  /-- The oracle. -/
  oracle : Oracle
  /-- The query. -/
  query : Query

namespace Session

variable {oracle : Oracle} {session : Session} {name : String}

/-- The session after a run of queries. -/
def follow (session : Session) (turns : List Turn) : Session :=
  turns.foldl (fun session turn => turn.query.ask turn.oracle session) session

theorem follow_extends (session : Session) (turns : List Turn) :
    session.Extends (session.follow turns) := by
  induction turns generalizing session with
  | nil => exact .refl session
  | cons turn rest ih => exact (turn.query.advances turn.oracle session).extends'.trans (ih _)

theorem Consistent.follow (consistent : session.Consistent) (turns : List Turn) :
    (session.follow turns).Consistent := by
  induction turns generalizing session with
  | nil => exact consistent
  | cons turn rest ih =>
    exact ih ((turn.query.advances turn.oracle session).consistent consistent)

theorem Consistent.start : start.Consistent := by
  intro name levels stored
  simp [Session.start] at stored

/-! ## Queries that go by without a question -/

theorem Complete.quiet (complete : session.Complete name) {query : Query}
    (about : query.subject = name) (oracle : Oracle) :
    (query.ask oracle session).asked = session.asked ∧ query.failed? oracle session = none := by
  subst about
  obtain ⟨supertypes, stored⟩ := complete.exists_direct .refl
  have view (other : String) (others : NameSet)
      (isStored : session.direct.get? other = some others) :
      (session.view oracle).lookup other = some others := by
    show (session.direct.get? other).or _ = _
    rw [isStored, Option.some_or]
  rcases query.ask_cases oracle session with ⟨after, failed⟩ | ⟨after, failed⟩ | ⟨after, failed⟩
  · exact ⟨congrArg Session.asked after, failed⟩
  · rw [after, failed, visit_of_stored stored]
    refine ⟨rfl, ?_⟩
    unfold Oracle.supertypes
    rw [view _ _ stored]
    rfl
  · rw [after, failed]
    cases found : session.leveled.get? query.subject with
    | some levels =>
      rw [levels_of_stored found]
      exact ⟨rfl, rfl⟩
    | none =>
      have sameWalk := complete.walk_eq (session.view oracle) view
      obtain ⟨levels, ok⟩ := Oracle.exists_levels_iff.2 complete
      have ok' : ((session.view oracle).walk query.subject).outcome = .ok levels := by
        rw [sameWalk]
        exact ok
      rw [levels_of_ok found ok', sameWalk, foldl_visit_of_stored]
      · exact ⟨rfl, rfl⟩
      · intro other asked
        exact complete.exists_direct ((Lookup.mem_asked_iff ok other).1 asked)

/-! ## The snapshot -/

/-- Levels of a type that stand on direct entries: the type and all above it have one, and the
levels are the layers that these entries give. -/
structure Stands (session : Session) (name : String) (levels : Levels) : Prop where
  self : ∃ supertypes, session.direct.get? name = some supertypes
  above : ∀ level ∈ levels, ∀ other ∈ level, ∃ supertypes,
    session.direct.get? other = some supertypes
  computed : (Oracle.ofTable session.direct).levels name = .ok levels
  layered : (Oracle.ofTable session.direct).lookup.Layered name levels

theorem Consistent.stands {levels : Levels} (consistent : session.Consistent)
    (stored : session.leveled.get? name = some levels) : session.Stands name levels := by
  have complete := consistent.complete stored
  have layered := Lookup.layered_of_walk (consistent name levels stored)
  refine ⟨complete.exists_direct .refl, ?_, consistent name levels stored, layered⟩
  intro level member other inLevel
  have above := (layered.exists_mem_iff other).1 ⟨level, member, inLevel⟩
  exact complete.exists_direct above.to_reflTransGen

/-- A type that is settled: no query about it asks the oracle or fails, and no query at all asks for
it or fails at it. -/
structure Settled (session : Session) (name : String) : Prop where
  quiet : ∀ (oracle : Oracle) (query : Query), query.subject = name →
    (query.ask oracle session).asked = session.asked ∧ query.failed? oracle session = none
  unasked : ∀ (oracle : Oracle) (query : Query),
    (∃ fresh, (query.ask oracle session).asked = session.asked ++ fresh ∧ name ∉ fresh) ∧
    query.failed? oracle session ≠ some name

theorem Complete.settled (complete : session.Complete name) : session.Settled name := by
  refine ⟨fun oracle query about => complete.quiet about oracle, fun oracle query => ?_⟩
  obtain ⟨supertypes, stored⟩ := complete.exists_direct .refl
  have advances := query.advances oracle session
  obtain ⟨fresh, asked, absent⟩ := advances.extends'.asked
  constructor
  · refine ⟨fresh, asked, fun isFresh => ?_⟩
    rw [absent name isFresh] at stored
    cases stored
  · intro failed
    have kept := advances.extends'.kept name supertypes stored
    rw [(advances.failed name failed).2] at kept
    cases kept

theorem get?_leveled_of_ok {levels : Levels}
    (ok : (Session.levels oracle name session).1 = .ok levels) :
    (Session.levels oracle name session).2.leveled.get? name = some levels := by
  cases stored : session.leveled.get? name with
  | some found =>
    rw [levels_of_stored stored] at ok ⊢
    cases ok
    exact stored
  | none =>
    cases outcome : ((session.view oracle).walk name).outcome with
    | error failure =>
      rw [levels_of_error stored outcome] at ok
      cases ok
    | ok found =>
      rw [levels_of_ok stored outcome] at ok ⊢
      cases ok
      exact (NameMap.get?_insert ..).trans (if_pos rfl)

/-- Once the levels of a type were found, it and all above it are settled for ever. -/
theorem Consistent.settled_of_ok {levels : Levels} (consistent : session.Consistent)
    (ok : (Session.levels oracle name session).1 = .ok levels) (later : List Turn) :
    ((Session.levels oracle name session).2.follow later).Settled name ∧
    ∀ level ∈ levels, ∀ other ∈ level,
      ((Session.levels oracle name session).2.follow later).Settled other := by
  let found := (Session.levels oracle name session).2
  have consistent' : found.Consistent := (Advances.levels oracle session name).consistent consistent
  have stored : found.leveled.get? name = some levels := get?_leveled_of_ok ok
  have complete := consistent'.complete stored
  have goesOn := follow_extends found later
  refine ⟨(complete.extend goesOn).settled, fun level member other inLevel => ?_⟩
  have above := ((consistent'.stands stored).layered.exists_mem_iff other).1
    ⟨level, member, inLevel⟩
  exact ((complete.reached above.to_reflTransGen).extend goesOn).settled

/-- A query that fails leaves nothing of the type that it fails at. -/
theorem Consistent.nothing_of_failed (consistent : session.Consistent) {query : Query}
    {unknown : String} (failed : query.failed? oracle session = some unknown) :
    (query.ask oracle session).leveled = session.leveled ∧
    (query.ask oracle session).direct.get? unknown = none ∧
    (query.ask oracle session).leveled.get? unknown = none := by
  have advances := query.advances oracle session
  obtain ⟨kept, absent⟩ := advances.failed unknown failed
  refine ⟨kept, absent, ?_⟩
  cases stored : (query.ask oracle session).leveled.get? unknown with
  | none => rfl
  | some levels =>
    obtain ⟨supertypes, isStored⟩ := ((advances.consistent consistent).stands stored).self
    rw [absent] at isStored
    cases isStored

end Session

/-- Every query has one answer in all sessions that remember what the oracle says. -/
theorem Query.answers (query : Query) (oracle : Oracle) :
    ∃ answer, Session.Answers oracle (query.perform oracle) answer := by
  cases query with
  | supertypes name => exact ⟨_, .supertypes name⟩
  | known name => exact ⟨_, .isKnown name⟩
  | levels name => exact ⟨_, .levels name⟩
  | ancestors name => exact ⟨_, .ancestors name⟩
  | selfAndLevels name => exact ⟨_, .selfAndLevels name⟩
  | subtypeOrEqual lower upper => exact ⟨_, .isSubtypeOrEqual lower upper⟩
  | eligible library source wanted => exact ⟨_, .eligible library source wanted⟩
  | resolve library source wanted => exact ⟨_, .resolve library source wanted⟩
  | explicit library adapter source wanted => exact ⟨_, .explicit library adapter source wanted⟩
  | discover name parameters => exact ⟨_, .discover name parameters⟩

namespace Session

/-- **One snapshot.** After any run of queries, with an oracle that may be another at each: the
session goes on from there without losing a direct entry or asking for one again, the levels that it
remembers stand on direct entries, and a query that fails leaves no levels and nothing of the type
that it fails at. With an oracle that stays the same every history is as good as none, and once the
levels of a type were found, it and all above it are settled. -/
theorem snapshot (turns : List Turn) :
    let now := start.follow turns
    (∀ later, now.Extends (now.follow later)) ∧
    (∀ name levels, now.leveled.get? name = some levels → now.Stands name levels) ∧
    (∀ (oracle : Oracle) (query : Query) (unknown : String),
      query.failed? oracle now = some unknown →
        (query.ask oracle now).leveled = now.leveled ∧
        (query.ask oracle now).direct.get? unknown = none ∧
        (query.ask oracle now).leveled.get? unknown = none) ∧
    (∀ (oracle : Oracle) (queries : List Query) (query : Query),
      ((query.perform oracle).run (start.asking oracle queries)).1 =
        ((query.perform oracle).run start).1) ∧
    ∀ (oracle : Oracle) (name : String) (levels : Levels),
      (Session.levels oracle name now).1 = .ok levels → ∀ later : List Turn,
        ((Session.levels oracle name now).2.follow later).Settled name ∧
        ∀ level ∈ levels, ∀ other ∈ level,
          ((Session.levels oracle name now).2.follow later).Settled other := by
  intro now
  have consistent : now.Consistent := Consistent.start.follow turns
  refine ⟨follow_extends now, fun name levels => consistent.stands,
    fun oracle query unknown => consistent.nothing_of_failed, fun oracle queries query => ?_,
    fun oracle name levels => consistent.settled_of_ok⟩
  obtain ⟨answer, answers⟩ := query.answers oracle
  have fresh : start.Faithful oracle := .start
  exact (answers _ (fresh.asking queries)).1.trans (answers _ fresh).1.symm

/-- An oracle that has forgotten two types and learnt of one below them. -/
def changed : Oracle := .ofTable (.ofList [("C", .ofList ["A", "D"])])

/-- The levels of a type are asked for and then, when the oracle has changed, those of a type below
it, which is also below one that nobody knows. -/
def forgetful : List Turn :=
  [⟨.ofTable (.ofList [("A", .singleton "B"), ("B", ∅)]), .levels "A"⟩, ⟨changed, .levels "C"⟩]

theorem snapshot_forgetful :
    let now := start.follow forgetful
    (now.leveled.get? "A" = some [.singleton "B"] ∧ now.Stands "A" [.singleton "B"]) ∧
    ((Query.levels "C").failed? changed now = some "D" ∧
      ((Query.levels "C").ask changed now).direct.get? "D" = none) ∧
    (Session.levels changed "A" now).1 = .ok [.singleton "B"] ∧
    ((Session.levels changed "A" now).2.follow forgetful).Settled "B" := by
  obtain ⟨_, stands, failed, _, settled⟩ := snapshot forgetful
  have remembered : (start.follow forgetful).leveled.get? "A" = some [.singleton "B"] := by cbv
  have fails : (Query.levels "C").failed? changed (start.follow forgetful) = some "D" := by cbv
  have finds : (Session.levels changed "A" (start.follow forgetful)).1 = .ok [.singleton "B"] := by
    cbv
  refine ⟨⟨remembered, stands _ _ remembered⟩, ⟨fails, (failed _ _ _ fails).2.1⟩, finds, ?_⟩
  exact (settled _ _ _ finds forgetful).2 _ (List.mem_singleton_self _) "B" (by decide)

end Session

end AdapterWiring
