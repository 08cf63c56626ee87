import AdapterWiring.Pattern.Reader
import AdapterWiring.Proofs.Pattern.Search

/-!
# Patterns that are read

A search is exact for expressions whose repetitions have their bounds in order.
The reader refuses a text that gives them the other way round, and puts
expressions together from parts that it has read before; so every pattern that
can be read is searched for exactly.

* **Bounded** — parts, groups in progress and readers that hold only such
  expressions.
* **Reader.Bounded.step?** — each step of the reader keeps to them.
* **compile?_bounded, accepts_iff_occurs** — and therefore patterns do.
-/

namespace AdapterWiring.Pattern

namespace Expr

theorem bounded_concat {parts : List Expr} (each : ∀ part ∈ parts, part.Bounded) :
    (concat parts).Bounded := by
  fun_induction concat parts with
  | case1 => trivial
  | case2 only => exact each only (List.mem_singleton.2 rfl)
  | case3 first rest _ ih =>
    exact ⟨each first (List.mem_cons_self ..),
      ih fun part member => each part (List.mem_cons_of_mem _ member)⟩

theorem bounded_choice {first : Expr} {rest : List Expr} (isFirst : first.Bounded)
    (each : ∀ part ∈ rest, part.Bounded) : (choice first rest).Bounded := by
  induction rest generalizing first with
  | nil => exact isFirst
  | cons next rest ih =>
    obtain ⟨isNext, others⟩ := List.forall_mem_cons.1 each
    exact ⟨isFirst, ih isNext others⟩

end Expr

/-! ## Parts -/

namespace Part

/-- The expression of a part has its bounds in order. -/
def Bounded (part : Part) : Prop := part.expr.Bounded

theorem bounded_empty : empty.Bounded := trivial

theorem bounded_ofAssertion (condition : Assertion) : (ofAssertion condition).Bounded := trivial

theorem bounded_ofSet (set : CharSet) (height : Nat) : (ofSet set height).Bounded := trivial

theorem bounded_ofChar (flags : Flags) (c : Char) : (ofChar flags c).Bounded := by
  unfold ofChar
  split <;> trivial

theorem bounded_row {parts : List Part} (each : ∀ part ∈ parts, part.Bounded) :
    (row parts).Bounded := by
  fun_cases row parts with
  | case1 => trivial
  | case2 only => exact each only (List.mem_singleton.2 rfl)
  | case3 => exact Expr.bounded_concat (List.forall_mem_map.2 each)

theorem bounded_choice {first : Part} {rest : List Part} (isFirst : first.Bounded)
    (each : ∀ part ∈ rest, part.Bounded) : (choice first rest).Bounded := by
  fun_cases choice first rest with
  | case1 => exact isFirst
  | case2 => exact Expr.bounded_choice isFirst (List.forall_mem_map.2 each)

theorem Bounded.group {body : Part} (bounded : body.Bounded) (number : Option Nat) :
    (body.group number).Bounded := bounded

theorem Bounded.times {body : Part} (bounded : body.Bounded) {least : Nat} {most : Option Nat}
    (inOrder : ∀ bound ∈ most, least ≤ bound) (lazy : Bool) :
    (body.times least most lazy).Bounded := ⟨bounded, inOrder⟩

end Part

/-! ## Groups in progress -/

namespace Level

/-- All parts of a group in progress have their bounds in order. -/
structure Bounded (level : Level) : Prop where
  alternatives : ∀ part ∈ level.alternatives, part.Bounded
  parts : ∀ part ∈ level.parts, part.Bounded

variable {level : Level}

theorem bounded_start : start.Bounded := ⟨by simp [start], by simp [start]⟩

theorem Bounded.add (bounded : level.Bounded) {part : Part} (isPart : part.Bounded) :
    (level.add part).Bounded :=
  ⟨bounded.alternatives, List.forall_mem_cons.2 ⟨isPart, bounded.parts⟩⟩

theorem Bounded.repeat? (bounded : level.Bounded) {least : Nat} {most : Option Nat}
    (inOrder : ∀ bound ∈ most, least ≤ bound) {lazy : Bool} {next : Level}
    (repeats : level.repeat? least most lazy = some next) : next.Bounded := by
  unfold Level.repeat? at repeats
  split at repeats
  · cases repeats
  next last before found =>
    have parts := bounded.parts
    rw [found] at parts
    obtain ⟨isLast, others⟩ := List.forall_mem_cons.1 parts
    split at repeats
    · obtain rfl := Option.some.inj repeats
      exact ⟨bounded.alternatives, List.forall_mem_cons.2 ⟨isLast.times inOrder lazy, others⟩⟩
    · cases repeats

theorem Bounded.nextAlternative (bounded : level.Bounded) : level.nextAlternative.Bounded := by
  refine ⟨List.forall_mem_cons.2 ⟨Part.bounded_row fun part member => ?_, bounded.alternatives⟩,
    by simp [Level.nextAlternative]⟩
  exact bounded.parts part (List.mem_reverse.1 member)

theorem Bounded.close (bounded : level.Bounded) : level.close.Bounded := by
  have each := bounded.nextAlternative.alternatives
  unfold Level.close
  split
  · trivial
  next first rest reversed =>
    have forward : ∀ part ∈ first :: rest, part.Bounded := fun part member =>
      each part (List.mem_reverse.1 (reversed ▸ member))
    exact Part.bounded_choice (List.forall_mem_cons.1 forward).1 (List.forall_mem_cons.1 forward).2

end Level

/-- A count that is read has its bounds in order. -/
theorem count?_inOrder {flags : Flags} {text rest : List Char} {least : Nat} {most : Option Nat}
    (counted : count? flags text = some ((least, most), rest)) : ∀ bound ∈ most, least ≤ bound := by
  unfold count? at counted
  obtain ⟨⟨number, after⟩, -, counted⟩ := Option.bind_eq_some_iff.1 counted
  split at counted
  · cases counted
    simp
  · split at counted
    · cases counted
      simp
    · obtain ⟨⟨upper, later⟩, -, counted⟩ := Option.bind_eq_some_iff.1 counted
      split at counted
      · split at counted
        next inOrder =>
          cases counted
          simpa using inOrder
        · cases counted
      · cases counted
  · cases counted

/-! ## Readers -/

namespace Reader

/-- All groups in progress have their bounds in order. -/
structure Bounded (reader : Reader) : Prop where
  level : reader.level.Bounded
  outer : ∀ group ∈ reader.outer, group.level.Bounded

variable {reader next : Reader} {text rest : List Char}

theorem bounded_start : start.Bounded := ⟨Level.bounded_start, by simp [start]⟩

theorem Bounded.add (bounded : reader.Bounded) {part : Part} (isPart : part.Bounded) :
    (reader.add part).Bounded := ⟨bounded.level.add isPart, bounded.outer⟩

theorem Bounded.enter (bounded : reader.Bounded) (flags : Flags) (number : Option Nat) :
    (reader.enter flags number).Bounded :=
  ⟨Level.bounded_start, List.forall_mem_cons.2 ⟨bounded.level, bounded.outer⟩⟩

theorem Bounded.capture (bounded : reader.Bounded) : reader.capture.Bounded :=
  let entered := bounded.enter reader.flags (some (reader.captures + 1))
  ⟨entered.level, entered.outer⟩

theorem Bounded.captureNamed? (bounded : reader.Bounded) {name : String}
    (captured : reader.captureNamed? name = some next) : next.Bounded := by
  unfold Reader.captureNamed? at captured
  split at captured
  · cases captured
  · obtain rfl := Option.some.inj captured
    exact ⟨bounded.capture.level, bounded.capture.outer⟩

theorem Bounded.open? (bounded : reader.Bounded) (opened : reader.open? text = some (next, rest)) :
    next.Bounded := by
  unfold Reader.open? at opened
  split at opened
  · obtain ⟨_, _, opened⟩ := Option.bind_eq_some_iff.1 opened
    obtain ⟨_, captured, same⟩ := Option.bind_eq_some_iff.1 opened
    cases same
    exact bounded.captureNamed? captured
  · obtain ⟨_, _, opened⟩ := Option.bind_eq_some_iff.1 opened
    obtain ⟨_, captured, same⟩ := Option.bind_eq_some_iff.1 opened
    cases same
    exact bounded.captureNamed? captured
  · cases opened
  · obtain ⟨_, _, opened⟩ := Option.bind_eq_some_iff.1 opened
    split at opened <;> cases opened
    · exact bounded.enter _ _
    · exact ⟨bounded.level.add Part.bounded_empty, bounded.outer⟩
  · cases opened
    exact bounded.capture

theorem Bounded.close? (bounded : reader.Bounded) (closed : reader.close? = some next) :
    next.Bounded := by
  unfold Reader.close? at closed
  split at closed
  · cases closed
  next parent others found =>
    have outer := bounded.outer
    rw [found] at outer
    obtain ⟨isParent, isOther⟩ := List.forall_mem_cons.1 outer
    dsimp only at closed
    split at closed
    · obtain rfl := Option.some.inj closed
      exact ⟨isParent.add (bounded.level.close.group _), isOther⟩
    · cases closed

theorem Bounded.repeat? (bounded : reader.Bounded) {least : Nat} {most : Option Nat}
    (inOrder : ∀ bound ∈ most, least ≤ bound)
    (repeats : reader.repeat? least most text = some (next, rest)) : next.Bounded := by
  unfold Reader.repeat? at repeats
  split at repeats
  obtain ⟨level, repeated, same⟩ := Option.map_eq_some_iff.1 repeats
  cases same
  exact ⟨bounded.level.repeat? inOrder repeated, bounded.outer⟩

/-- Each step keeps the bounds in order. -/
theorem Bounded.step? (bounded : reader.Bounded) {c : Char}
    (steps : reader.step? c text = some (next, rest)) : next.Bounded := by
  unfold Reader.step? at steps
  split at steps
  · exact bounded.open? steps
  · obtain ⟨_, closed, same⟩ := Option.map_eq_some_iff.1 steps
    cases same
    exact bounded.close? closed
  · cases steps
    exact ⟨bounded.level.nextAlternative, bounded.outer⟩
  · exact bounded.repeat? (by simp) steps
  · exact bounded.repeat? (by simp) steps
  · exact bounded.repeat? (by simp) steps
  · obtain ⟨⟨⟨least, most⟩, after⟩, counted, repeats⟩ := Option.bind_eq_some_iff.1 steps
    exact bounded.repeat? (count?_inOrder counted) repeats
  · obtain ⟨⟨item, after⟩, _, steps⟩ := Option.bind_eq_some_iff.1 steps
    dsimp only at steps
    split at steps <;> cases steps
    exact bounded.add (Part.bounded_ofSet ..)
  · obtain ⟨escape, _, steps⟩ := Option.bind_eq_some_iff.1 steps
    split at steps <;> cases steps
    · exact bounded.add (Part.bounded_ofChar ..)
    · exact bounded.add (Part.bounded_ofSet ..)
    · exact bounded.add (Part.bounded_ofAssertion _)
  · obtain ⟨set, _, same⟩ := Option.map_eq_some_iff.1 steps
    cases same
    exact bounded.add (Part.bounded_ofSet ..)
  · cases steps
    exact bounded.add (Part.bounded_ofAssertion _)
  · cases steps
    exact bounded.add (Part.bounded_ofAssertion _)
  · cases steps
    exact bounded.add (Part.bounded_ofChar ..)

/-- A whole run keeps the bounds in order. -/
theorem Bounded.run? (bounded : reader.Bounded) {most : Nat}
    (runs : reader.run? most text = some next) : next.Bounded := by
  fun_induction Reader.run? most reader text with
  | case1 => cases runs; exact bounded
  | case2 => cases runs
  | case3 => cases runs
  | case4 _ _ _ _ _ _ _ _ steps ih => exact ih (bounded.step? steps) runs

end Reader

/-! ## Patterns -/

/-- A pattern has its bounds in order. -/
theorem compile?_bounded {source : String} {pattern : Pattern}
    (compiled : compile? source = some pattern) : pattern.expr.Bounded := by
  obtain ⟨part, parsed, compiled⟩ := Option.bind_eq_some_iff.1 compiled
  obtain ⟨reader, runs, closed⟩ := Option.bind_eq_some_iff.1 parsed
  split at closed <;> cases closed
  split at compiled <;> cases compiled
  exact (Reader.bounded_start.run? runs).level.close

/-- **Patterns.** A word is accepted exactly if the expression of the pattern occurs in it. -/
theorem accepts_iff_occurs {source : String} {pattern : Pattern}
    (compiled : compile? source = some pattern) (word : String) :
    pattern.accepts word = true ↔ pattern.expr.Occurs word.toList :=
  Expr.search_iff_occurs (compile?_bounded compiled) word.toList

end AdapterWiring.Pattern
