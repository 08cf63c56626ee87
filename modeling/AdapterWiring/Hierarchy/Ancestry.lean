import AdapterWiring.Hierarchy.Oracle

/-!
# Questions about ancestors

All questions about a type hierarchy are answered from the levels of types.
Where the levels come from is left open: from an oracle directly, or through a
session that remembers what it asked.

* **Ancestry** — a way to ask for levels.
* **ancestors, selfAndLevels, isSubtypeOrEqual** — what follows from them.
-/

namespace AdapterWiring

/-- A way to ask for the levels of types, with effects in `m`. -/
structure Ancestry (m : Type → Type) where
  /-- Ask for the levels of a type. -/
  levels : String → m (Except UnknownType Levels)

/-- The union of all levels. -/
def Levels.all (levels : Levels) : NameSet := levels.foldl NameSet.union ∅

namespace Ancestry

variable {m : Type → Type} [Monad m]

/-- Every ancestor of a type. -/
def ancestors (types : Ancestry m) (name : String) : m (Except UnknownType NameSet) := do
  return (← types.levels name).map Levels.all

/-- The type itself, then its levels: the order in which the most specific accepted type is
searched for. -/
def selfAndLevels (types : Ancestry m) (name : String) : m (Except UnknownType Levels) := do
  return (← types.levels name).map (.singleton name :: ·)

/-- Whether a type is another or has it as an ancestor. Nothing is asked about a type and itself. -/
def isSubtypeOrEqual (types : Ancestry m) (lower upper : String) :
    m (Except UnknownType Bool) := do
  if lower = upper then return .ok true
  return (← types.levels lower).map (·.any (upper ∈ ·))

end Ancestry

/-- The levels as the oracle gives them. -/
def Oracle.ancestry (oracle : Oracle) : Ancestry Id := ⟨oracle.levels⟩

end AdapterWiring
