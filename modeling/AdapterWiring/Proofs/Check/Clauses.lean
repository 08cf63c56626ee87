import AdapterWiring.Proofs.Check.Wiring
import AdapterWiring.Proofs.Session.Check
import Mathlib

/-!
# What it takes to wire an association

A check asks about each clause twice, first for what is wrong with it and then
for its type. Where nothing is wrong there is a type, so an association is wired
exactly if its clauses are in order and there is a route between their types.

* **Target.AsksFor, Source.Produces** — clauses that are in order, with their
  types.
* **Checker.Connects** — an association that is wired as it should be.
* **Checker.wire_ok_iff_connects** — the two rounds of questions as one.
* **Checker.wire_exactly** — through a session with any history, too; and a type
  is never missing.
-/

namespace AdapterWiring

/-! ## Clauses in order -/

/-- A target is in order if it is a field of a class, and asks for the type of the field. -/
inductive Target.AsksFor (model : ClassModel Id) : Target → String → Prop
  | field {operand : MemberOperand} {field : FieldInfo} :
    (model.hasClass operand.owner).run = true →
    (model.field? operand.owner operand.member).run = some field →
      AsksFor model (.field operand) field.type

/-- A source is in order if it is a static field of a class, a class, or a static method of a class
that takes no arguments, and produces the type of the field, the class, or what the method
returns. -/
inductive Source.Produces (model : ClassModel Id) : Source → String → Prop
  | field {operand : MemberOperand} {field : FieldInfo} :
    (model.hasClass operand.owner).run = true →
    (model.field? operand.owner operand.member).run = some field → field.isStatic = true →
      Produces model (.field operand) field.type
  | fresh {operand : ClassOperand} : (model.hasClass operand.name).run = true →
      Produces model (.fresh operand) operand.name
  | call {operand : MemberOperand} {method : MethodInfo} :
    (model.hasClass operand.owner).run = true →
    (model.method? operand.owner operand.member).run = some method → method.isStatic = true →
    method.arity = 0 → Produces model (.call operand) method.returns
  | single {operand : ClassOperand} : (model.hasClass operand.name).run = true →
      Produces model (.single operand) operand.name

section Clauses

variable {model : ClassModel Id} {target : Target} {source : Source} {type : String}

/-- Nothing is wrong with a target in order, and its type is found. -/
theorem Target.AsksFor.found (asks : target.AsksFor model type) :
    (target.problems model).run = [] ∧ (target.type? model).run = some type := by
  cases asks with
  | field known isField =>
    refine ⟨MemberOperand.fieldProblems_eq_nil_iff.2 ⟨known, _, isField, nofun⟩, ?_⟩
    simp [type?, isField]

/-- A target with which nothing is wrong is in order. -/
theorem Target.exists_asksFor (clean : (target.problems model).run = []) :
    ∃ type, target.AsksFor model type := by
  cases target with
  | field operand =>
    obtain ⟨known, field, isField, _⟩ := MemberOperand.fieldProblems_eq_nil_iff.1 clean
    exact ⟨field.type, .field known isField⟩

/-- Nothing is wrong with a source in order, and its type is found. -/
theorem Source.Produces.found (produces : source.Produces model type) :
    (source.problems model).run = [] ∧ (source.type? model).run = some type := by
  cases produces with
  | field known isField static =>
    refine ⟨MemberOperand.fieldProblems_eq_nil_iff.2 ⟨known, _, isField, fun _ => static⟩, ?_⟩
    simp [type?, isField]
  | fresh known =>
    refine ⟨ClassOperand.problems_eq_nil_iff.2 known, ?_⟩
    simp [type?, known]
  | call known isMethod static none =>
    refine ⟨MemberOperand.callProblems_eq_nil_iff.2 ⟨known, _, isMethod, static, none⟩, ?_⟩
    simp [type?, isMethod]
  | single known =>
    refine ⟨ClassOperand.problems_eq_nil_iff.2 known, ?_⟩
    simp [type?, known]

/-- A source with which nothing is wrong is in order. -/
theorem Source.exists_produces (clean : (source.problems model).run = []) :
    ∃ type, source.Produces model type := by
  cases source with
  | field operand =>
    obtain ⟨known, field, isField, static⟩ := MemberOperand.fieldProblems_eq_nil_iff.1 clean
    exact ⟨field.type, .field known isField (static rfl)⟩
  | fresh operand =>
    exact ⟨operand.name, .fresh (ClassOperand.problems_eq_nil_iff.1 clean)⟩
  | call operand =>
    obtain ⟨known, method, isMethod, static, none⟩ :=
      MemberOperand.callProblems_eq_nil_iff.1 clean
    exact ⟨method.returns, .call known isMethod static none⟩
  | single operand =>
    exact ⟨operand.name, .single (ClassOperand.problems_eq_nil_iff.1 clean)⟩

/-- A target is in order if nothing is wrong with it and its type is found. -/
theorem Target.asksFor_iff : target.AsksFor model type ↔
    (target.problems model).run = [] ∧ (target.type? model).run = some type := by
  refine ⟨AsksFor.found, fun ⟨clean, found⟩ => ?_⟩
  obtain ⟨other, asks⟩ := exists_asksFor clean
  -- the second round of questions finds the one type that the first has made sure of
  obtain rfl := Option.some.inj (asks.found.2.symm.trans found)
  exact asks

theorem Source.produces_iff : source.Produces model type ↔
    (source.problems model).run = [] ∧ (source.type? model).run = some type := by
  refine ⟨Produces.found, fun ⟨clean, found⟩ => ?_⟩
  obtain ⟨other, produces⟩ := exists_produces clean
  obtain rfl := Option.some.inj (produces.found.2.symm.trans found)
  exact produces

end Clauses

/-- Whether a problem is that nothing is known of a type. -/
def WiringProblem.IsUntyped : WiringProblem → Prop
  | untypedTarget _ => True
  | untypedSource _ => True
  | _ => False

namespace Checker

/-! ## Associations -/

/-- An association wired as it should be: its clauses are in order, its types are theirs, and its
wiring is the route between them. -/
structure Connects (model : ClassModel Id) (types : Ancestry Id) (library : Library)
    (association : Association) (outcome : WiredAssociation) : Prop where
  same : outcome.association = association
  target : association.target.AsksFor model outcome.targetType
  source : association.source.Produces model outcome.sourceType
  route : Routes types library outcome.sourceType outcome.targetType association.using?
    outcome.wiring

variable {checker : Checker Id} {library : Library} {association : Association}

theorem wire_ok_iff_connects {outcome : WiredAssociation} :
    (checker.wire library association).run = .ok outcome ↔
      Connects checker.model checker.types library association outcome := by
  rw [wire_ok_iff]
  constructor
  · intro ⟨same, cleanTarget, cleanSource, target, source, route⟩
    exact ⟨same, Target.asksFor_iff.2 ⟨cleanTarget, target⟩,
      Source.produces_iff.2 ⟨cleanSource, source⟩, route⟩
  · intro ⟨same, asks, produces, route⟩
    exact ⟨same, asks.found.1, produces.found.1, asks.found.2, produces.found.2, route⟩

/-- The wiring of types is never at fault for a type that is missing. -/
theorem wireTypes_typed {types : Ancestry Id} {sourceType targetType : String}
    {located : Located WiringProblem}
    (fails : (wireTypes types library association sourceType targetType).run = .error located) :
    ¬ located.problem.IsUntyped := by
  unfold wireTypes at fails
  cases chosen : association.using? with
  | some adapter =>
    simp only [chosen, Id.run_bind] at fails
    split at fails
    · cases fails
    · cases fails
      exact id
  | none =>
    simp only [chosen, Id.run_bind] at fails
    split at fails
    · cases fails
      exact id
    · cases fails
    · simp only [Id.run_bind] at fails
      split at fails
      · cases fails
        exact id
      · cases fails
      · cases fails
        exact id

/-- **No gap.** Where the first round of questions finds nothing wrong, the second finds types. -/
theorem wire_typed {problems : List (Located WiringProblem)}
    (fails : (checker.wire library association).run = .error problems) :
    ∀ located ∈ problems, ¬ located.problem.IsUntyped := by
  unfold wire at fails
  simp only [Id.run_bind] at fails
  split at fails
  · cases fails
    intro located member
    obtain ⟨clause, _, rfl⟩ := List.mem_map.1 member
    exact id
  next clean =>
    rw [List.append_eq_nil_iff] at clean
    obtain ⟨targetType, asks⟩ := Target.exists_asksFor clean.1
    obtain ⟨sourceType, produces⟩ := Source.exists_produces clean.2
    simp only [Id.run_bind, asks.found.2, produces.found.2] at fails
    split at fails
    next problem wired =>
      cases fails
      intro located member
      rw [List.mem_singleton.1 member]
      exact wireTypes_typed wired
    · cases fails

/-- **Wiring.** Let a class model answer the same at all times, and so an oracle, which may have
been asked anything before. An association is wired exactly if its target is a field of a class, its
source is in order for its kind, and there is a route between their types: the adapter asked for can
be used, or, where none is asked for, the one type is assignable to the other, or it is not and
resolution picks an adapter. The outcome has these types and this route. And no problem of an
association that cannot be wired is a missing type. -/
theorem wire_exactly (model : ClassModel Id) (oracle : Oracle) (before : List Query)
    (filed library : Library) (overlap : Overlap Id) (association : Association) :
    let result := (((inSession model oracle filed overlap).wire library association).run
      (Session.start.asking oracle before)).1
    (∀ outcome, result = .ok outcome ↔
      Connects model oracle.ancestry library association outcome) ∧
    ∀ problems, result = .error problems →
      ∀ located ∈ problems, ¬ located.problem.IsUntyped := by
  intro result
  have answer : result = ((overOracle model oracle filed overlap).wire library association).run :=
    (Session.Answers.wire library overlap filed association).asked before
  refine ⟨fun outcome => ?_, fun problems fails => ?_⟩
  · rw [answer]
    exact wire_ok_iff_connects
  · rw [answer] at fails
    exact wire_typed fails

/-- A class with one field, and a class of a type that fits. -/
def deskModel : ClassModel Id where
  hasClass name := pure (["Desk", "Bulb"].contains name)
  field? _ member := pure (if member = "light" then some ⟨"Light", false⟩ else none)
  method? _ _ := pure none

/-- The supertypes of the types. -/
def deskTypes : Oracle := .ofTable (.ofList [("Bulb", .ofList ["Light"]), ("Light", ∅)])

/-- An association for the field. -/
def lit : Association := ⟨.field ⟨"Desk", "light", 1⟩, .fresh ⟨"Bulb", 1⟩, none, ⟨"main.gluer", 1⟩⟩

/-- An association for a field that there is not. -/
def unlit : Association :=
  ⟨.field ⟨"Desk", "shade", 2⟩, .fresh ⟨"Bulb", 2⟩, none, ⟨"main.gluer", 2⟩⟩

/-- An association wired without adapters, in a session that was asked something before. -/
def wireDesk (association : Association) :
    Except (List (Located WiringProblem)) WiredAssociation :=
  (((inSession deskModel deskTypes (.ofList []) .never).wire (.ofList []) association).run
    (Session.start.asking deskTypes [.levels "Bulb"])).1

theorem wire_exactly_desk :
    (Connects deskModel deskTypes.ancestry (.ofList []) lit ⟨lit, "Light", "Bulb", .direct⟩ ∧
      wireDesk lit = .ok ⟨lit, "Light", "Bulb", .direct⟩) ∧
    wireDesk unlit = .error [⟨2, .clause (.fieldNotFound "Desk" "shade")⟩] ∧
    ∀ located ∈ ([⟨2, .clause (.fieldNotFound "Desk" "shade")⟩] : List (Located WiringProblem)),
      ¬ located.problem.IsUntyped := by
  have asks : lit.target.AsksFor deskModel (FieldInfo.mk "Light" false).type := .field rfl rfl
  have fits : (deskTypes.ancestry.isSubtypeOrEqual "Bulb" "Light").run = .ok true := by cbv
  have connects : Connects deskModel deskTypes.ancestry (.ofList []) lit
      ⟨lit, "Light", "Bulb", .direct⟩ :=
    ⟨rfl, asks, .fresh rfl, .direct fits⟩
  have fails : wireDesk unlit = .error [⟨2, .clause (.fieldNotFound "Desk" "shade")⟩] := by rfl
  obtain ⟨exactly, _⟩ := wire_exactly deskModel deskTypes [.levels "Bulb"] (.ofList [])
    (.ofList []) .never lit
  obtain ⟨_, typed⟩ := wire_exactly deskModel deskTypes [.levels "Bulb"] (.ofList [])
    (.ofList []) .never unlit
  exact ⟨⟨connects, (exactly _).2 connects⟩, fails, typed _ fails⟩

end Checker

end AdapterWiring
