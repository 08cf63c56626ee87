import AdapterWiring.Adapter.Library

/-!
# Resolving adapters

To put an object of one type where another is asked for, the best adapter is
picked among those that are eligible:

1. **eligible** — it can be built from the type or one of its ancestors, and
   has the wanted type among its own ancestors.
2. **closestFrom** — it accepts the most specific type in the order of
   `Ancestry.selfAndLevels`.
3. **closestTo** — it has the wanted type at the least depth.
4. **byPrecedence** — no other adapter still in the running is preferred to it.

A step that leaves one adapter settles the matter. **Verdict** is the outcome,
**resolve** and **checkExplicit** ask a hierarchy for the levels.
-/

namespace AdapterWiring

/-! ## Verdicts -/

/-- The outcome of a resolution. -/
inductive Verdict where
  /-- One adapter is best. -/
  | resolved (adapter : String)
  /-- Several adapters are equally good. -/
  | ambiguous (candidates : NameSet)
  /-- No adapter is eligible. -/
  | notFound
  /-- Each of the best adapters has another one preferred to it. -/
  | cyclicPrecedence (involved : NameSet)
deriving DecidableEq, Inhabited

namespace Verdict

/-- The adapter of a resolved verdict. -/
def adapter? : Verdict → Option String
  | resolved adapter => some adapter
  | _ => none

/-- The wording of a verdict. -/
def message : Verdict → String
  | resolved adapter => "resolved to " ++ adapter
  | ambiguous candidates => "ambiguous adapters: " ++ ", ".intercalate candidates.toList
  | notFound => "no suitable adapter found"
  | cyclicPrecedence involved =>
    "cyclic precedence between adapters: " ++ ", ".intercalate involved.toList

end Verdict

/-! ## Narrowing -/

namespace Library

/-- The adapters that turn a type, given with its levels, into something assignable to `wanted`. -/
def eligible (library : Library) (selfAndLevels : Levels) (wanted : String) : List Descriptor :=
  let accepted := selfAndLevels.all
  library.descriptors.filter fun adapter => adapter.acceptsAny accepted && adapter.provides wanted

/-- The candidates that pass the first test which any of them passes; all of them if none does. -/
def narrow (tests : List (Descriptor → Bool)) (candidates : List Descriptor) : List Descriptor :=
  match tests with
  | [] => candidates
  | test :: others =>
    match candidates.filter test with
    | [] => narrow others candidates
    | hit :: hits => hit :: hits

/-- The candidates that accept the most specific type. -/
def closestFrom (selfAndLevels : Levels) (candidates : List Descriptor) : List Descriptor :=
  narrow (selfAndLevels.map fun level adapter => adapter.acceptsAny level) candidates

/-- The candidates that have the wanted type at the least depth. -/
def closestTo (wanted : String) (candidates : List Descriptor) : List Descriptor :=
  let depths := candidates.foldl (fun depth adapter => max depth adapter.adaptsTo.length) 0
  narrow ((List.range depths).map fun depth adapter => adapter.providesAt depth wanted) candidates

/-- The verdict on candidates none of which is closer than another. -/
def byPrecedence (library : Library) (candidates : List Descriptor) : Verdict :=
  let closest := NameSet.ofList (candidates.map (·.name))
  let survivors := closest.filter fun name => !(library.precedence.preceding name).meets closest
  match survivors.toList with
  | [] => .cyclicPrecedence closest
  | [only] => .resolved only
  | _ => .ambiguous survivors

/-- The verdict on candidates that leave no choice. -/
def settled? : List Descriptor → Option Verdict
  | [] => some .notFound
  | [only] => some (.resolved only.name)
  | _ => none

/-- The verdict on putting a type, given with its levels, where `wanted` is asked for. -/
def verdict (library : Library) (selfAndLevels : Levels) (wanted : String) : Verdict :=
  let candidates := library.eligible selfAndLevels wanted
  (settled? candidates).getD <|
    let candidates := closestFrom selfAndLevels candidates
    (settled? candidates).getD <|
      let candidates := closestTo wanted candidates
      (settled? candidates).getD (library.byPrecedence candidates)

end Library

/-! ## Queries -/

/-- Why an adapter that was asked for cannot be used. -/
inductive ExplicitError where
  /-- There is no such adapter. -/
  | unknownAdapter (adapter : String)
  /-- The adapter is not eligible. -/
  | notEligible (adapter source wanted : String)
  /-- An ancestor of the type to adapt is not known. -/
  | hierarchy (failure : UnknownType)
deriving DecidableEq, Inhabited

/-- The wording of an error. -/
def ExplicitError.message : ExplicitError → String
  | unknownAdapter adapter => "adapter '" ++ adapter ++ "' not found"
  | notEligible adapter source wanted =>
    "adapter '" ++ adapter ++ "' cannot adapt '" ++ source ++ "' to '" ++ wanted ++ "'"
  | hierarchy failure => failure.message

namespace Library

variable {m : Type → Type} [Monad m]

/-- The adapters that turn `source` into something assignable to `wanted`. -/
def queryEligible (library : Library) (types : Ancestry m) (source wanted : String) :
    m (Except UnknownType (List Descriptor)) := do
  return (← types.selfAndLevels source).map (library.eligible · wanted)

/-- The best adapter that turns `source` into something assignable to `wanted`. -/
def resolve (library : Library) (types : Ancestry m) (source wanted : String) :
    m (Except UnknownType Verdict) := do
  return (← types.selfAndLevels source).map (library.verdict · wanted)

/-- Check an adapter that was asked for. Nothing is asked of the hierarchy if there is no such
adapter. -/
def checkExplicit (library : Library) (types : Ancestry m) (adapter source wanted : String) :
    m (Except ExplicitError Unit) := do
  if library.contains adapter then
    match ← library.queryEligible types source wanted with
    | .error failure => return .error (.hierarchy failure)
    | .ok eligible =>
      if eligible.any (·.name == adapter) then return .ok ()
      else return .error (.notEligible adapter source wanted)
  else return .error (.unknownAdapter adapter)

end Library

end AdapterWiring
