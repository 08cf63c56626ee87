import AdapterWiring.Hierarchy.Ancestry

/-!
# Sessions

A session remembers the direct supertypes it was told and the levels it worked
out, so that it asks for each type at most once. The oracle may change from
one query to the next; a session goes by what it remembers.

* **Session** — what is remembered, and the names asked for so far.
* **view** — the oracle as the session sees it.
* **supertypes, levels** — queries; a failed one leaves the direct supertypes
  it was told before the failure.
* **ancestry** — the session as a source of levels.
-/

namespace AdapterWiring

/-- What is remembered of a type hierarchy. -/
structure Session where
  /-- The direct supertypes of types asked for. -/
  direct : NameMap NameSet
  /-- The levels of types worked out. -/
  leveled : NameMap Levels
  /-- The names asked of the oracle, in order. -/
  asked : List String
deriving Inhabited

namespace Session

/-- A session that remembers nothing. -/
def start : Session := ⟨∅, ∅, []⟩

/-- The direct supertypes as the session sees them: what it remembers goes first. -/
def lookup (session : Session) (oracle : Oracle) : Lookup := fun name =>
  (session.direct.get? name).or (oracle.lookup name)

/-- What a session remembers adds finitely many names to what can be reached. -/
theorem finiteFrom_lookup (session : Session) (oracle : Oracle) (name : String) :
    (session.lookup oracle).FiniteFrom name := by
  let remembered := session.direct.values.flatMap NameSet.toList
  let bound := fun start => Lookup.reachBound (oracle.finite start)
  refine ⟨(name :: remembered).flatMap bound, ?_, ?_⟩
  · exact List.mem_flatMap.2
      ⟨name, List.mem_cons_self .., Lookup.start_mem_reachBound (oracle.finite name)⟩
  intro other member supertypes found supertype isSupertype
  rw [List.mem_flatMap] at member ⊢
  obtain ⟨start, isStart, reached⟩ := member
  unfold lookup at found
  cases stored : session.direct.get? other with
  | some supertypes' =>
    simp only [stored, Option.some_or, Option.some.injEq] at found
    subst found
    refine ⟨supertype, List.mem_cons_of_mem _ ?_, Lookup.start_mem_reachBound _⟩
    refine List.mem_flatMap.2 ⟨supertypes', ?_, isSupertype⟩
    exact List.mem_map.2 ⟨_, NameMap.mem_entries_of_get?_eq_some stored, rfl⟩
  | none =>
    simp only [stored, Option.none_or] at found
    exact ⟨start, isStart, Lookup.closed_reachBound (oracle.finite start) other reached
      supertypes found supertype isSupertype⟩

/-- The oracle as the session sees it. -/
def view (session : Session) (oracle : Oracle) : Oracle :=
  ⟨session.lookup oracle, session.finiteFrom_lookup oracle⟩

/-- Look at one type: nothing happens if it is remembered, otherwise the oracle is asked and its
answer remembered, if it has one. -/
def visit (oracle : Oracle) (session : Session) (name : String) : Session :=
  if session.direct.contains name then session
  else
    let asked := session.asked ++ [name]
    match oracle.lookup name with
    | some supertypes =>
      { session with direct := session.direct.insert name supertypes, asked }
    | none => { session with asked }

/-- Query the direct supertypes of a type. -/
def supertypes (oracle : Oracle) (name : String) :
    StateM Session (Except UnknownType NameSet) := fun session =>
  ((session.view oracle).supertypes name, session.visit oracle name)

/-- Query whether a type is known. -/
def isKnown (oracle : Oracle) (name : String) : StateM Session Bool := do
  return (← supertypes oracle name).isOk

/-- Query the levels of a type. -/
def levels (oracle : Oracle) (name : String) :
    StateM Session (Except UnknownType Levels) := fun session =>
  match session.leveled.get? name with
  | some levels => (.ok levels, session)
  | none =>
    let walk := (session.view oracle).walk name
    let visited := walk.asked.foldl (visit oracle) session
    match walk.outcome with
    | .ok levels => (.ok levels, { visited with leveled := visited.leveled.insert name levels })
    | .error failure => (.error failure, visited)

/-- The session as a source of levels. -/
def ancestry (oracle : Oracle) : Ancestry (StateM Session) := ⟨levels oracle⟩

end Session

end AdapterWiring
