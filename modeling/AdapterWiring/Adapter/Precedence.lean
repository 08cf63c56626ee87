import AdapterWiring.Declaration.Basic
import AdapterWiring.NameMap

/-!
# Precedence between adapters

* **Precedence** — for each adapter, the adapters preferred to it.
* **declare** — one more preference.
* **ofDeclarations** — the preferences that declarations state.
-/

namespace AdapterWiring

/-- For each adapter, the adapters preferred to it. -/
structure Precedence where
  /-- The preferred adapters, by the adapter they are preferred to. -/
  highers : NameMap NameSet
deriving DecidableEq, Inhabited

namespace Precedence

/-- No preferences. -/
def none : Precedence := ⟨∅⟩

/-- The adapters preferred to `name`, if any preference over it was declared. -/
def preceding? (precedence : Precedence) (name : String) : Option NameSet :=
  precedence.highers.get? name

/-- The adapters preferred to `name`. -/
def preceding (precedence : Precedence) (name : String) : NameSet :=
  (precedence.preceding? name).getD ∅

/-- Prefer `higher` to `lower`. -/
def declare (precedence : Precedence) (higher lower : String) : Precedence :=
  ⟨precedence.highers.insert lower ((precedence.preceding lower).insert higher)⟩

/-- The preferences of a list of rankings. -/
def ofRankings (rankings : List Ranking) : Precedence :=
  rankings.foldl (fun precedence ranking =>
    precedence.declare ranking.higher.name ranking.lower.name) none

/-- The preferences that declarations state. -/
def ofDeclarations (declarations : List Declaration) : Precedence :=
  ofRankings (declarations.filterMap Declaration.ranking?)

/-- Whether nothing is listed. -/
def isEmpty (precedence : Precedence) : Bool := precedence.highers.isEmpty

/-- All names that occur. -/
def names (precedence : Precedence) : NameSet :=
  precedence.highers.values.foldl NameSet.union precedence.highers.keys

/-- One declaration adds one preference and keeps the others. -/
theorem mem_preceding_declare {precedence : Precedence} {higher lower name other : String} :
    other ∈ (precedence.declare higher lower).preceding name ↔
      (name = lower ∧ other = higher) ∨ other ∈ precedence.preceding name := by
  unfold declare preceding preceding?
  rw [NameMap.get?_insert]
  split
  next same => subst same; simp
  next different => simp [different]

end Precedence

end AdapterWiring
