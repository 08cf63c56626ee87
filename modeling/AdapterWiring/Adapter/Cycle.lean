import AdapterWiring.Adapter.Precedence

/-!
# Cycles of precedence

A depth-first search follows preferences from each adapter to those preferred
to it. Where it meets a name of its own path, the path from there on is a
cycle. A name that the search has left is never entered again.

* **Cycle** — the names of a cycle, each but the last followed by one
  preferred to it, and the last by the first.
* **explore** — the search from the end of a path.
* **cycles** — the cycles found from all names in order.
-/

namespace AdapterWiring

/-- A cycle of preferences, its first name not repeated at the end. -/
structure Cycle where
  /-- The names, each preferred to the one before. -/
  members : List String
deriving DecidableEq, Inhabited

/-- The text of a cycle; it ends with the name it starts with. -/
def Cycle.render (cycle : Cycle) : String :=
  " → ".intercalate (cycle.members ++ cycle.members.take 1)

namespace Precedence

/-- The state of a search. -/
structure Search where
  /-- The names that were not entered yet. -/
  unvisited : NameSet
  /-- The cycles found, in order. -/
  cycles : List Cycle
deriving Inhabited

/-- The cycle that closes at a name of the path. -/
def closedAt (path : List String) (name : String) : Cycle := ⟨path.dropWhile (· ≠ name)⟩

/-- Search on from the last name of `path`, along the preferences to the names `todo`. -/
def explore (precedence : Precedence) (path todo : List String) (search : Search) :
    { after : Search // after.unvisited.size ≤ search.unvisited.size } :=
  match todo with
  | [] => ⟨search, Nat.le_refl _⟩
  | name :: rest =>
    if name ∈ path then
      let found : Search := { search with cycles := search.cycles ++ [closedAt path name] }
      let ⟨after, le⟩ := explore precedence path rest found
      ⟨after, le⟩
    else if fresh : name ∈ search.unvisited then
      let entered : Search := { search with unvisited := search.unvisited.erase name }
      have smaller : entered.unvisited.size < search.unvisited.size := NameSet.size_erase_lt fresh
      let ⟨inner, le⟩ :=
        explore precedence (path ++ [name]) (precedence.preceding name).toList entered
      let ⟨after, le'⟩ := explore precedence path rest inner
      ⟨after, Nat.le_trans le' (Nat.le_trans le (Nat.le_of_lt smaller))⟩
    else explore precedence path rest search
termination_by (search.unvisited.size, todo.length)

/-- The cycles that a search from each name in order finds. -/
def cycles (precedence : Precedence) : List Cycle :=
  (explore precedence [] precedence.names.toList ⟨precedence.names, []⟩).1.cycles

end Precedence

end AdapterWiring
