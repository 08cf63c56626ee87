import AdapterWiring.Pattern.Reader

/-!
# Patterns that are small enough

The exact size of the automata for a pattern depends on the states that can be
shared. An outline has a weight, a sum over its parts that leaves sharing out. An
outline whose weight is within the limit is small enough, in whichever direction
its words are read.

* **Affords** — a step is taken, at a cost, unless it goes beyond the limit.
* **potential** — what the states in progress may still cost.
* **weight** — what the states for an outline cost without sharing.
* **affords_grow** — the states for an outline cost no more than its weight.
* **fits_of_weight_le** — an outline of little weight is small enough.
* **compile?_eq_some** — a text whose part is light and not too deep is a pattern.
-/

namespace AdapterWiring.Pattern

open Text

namespace Footprint

/-! ## Steps at a cost -/

/-- A step costs at most a number of bytes, and is taken unless they go beyond the limit. -/
def Affords (step : Footprint → Option Footprint) (cost : Nat) : Prop :=
  ∀ size : Footprint, size.bytes + cost ≤ limit →
    ∃ next, step size = some next ∧ next.bytes ≤ size.bytes + cost

theorem affords_some : Affords some 0 := fun size _ => ⟨size, rfl, Nat.le_refl _⟩

theorem affords_add (states edges : Nat) : Affords (add states edges) (32 * states + edges) := by
  intro size room
  have isSize : (Footprint.mk (size.states + states) (size.edges + edges)).bytes =
      size.bytes + (32 * states + edges) := by
    simp only [bytes, stateSize]
    omega
  exact ⟨_, if_pos (isSize ▸ room), Nat.le_of_eq isSize⟩

namespace Affords

variable {step first next : Footprint → Option Footprint} {cost more : Nat}

theorem mono (affords : Affords step cost) (le : cost ≤ more) : Affords step more := by
  intro size room
  obtain ⟨after, taken, bound⟩ := affords size (by omega)
  exact ⟨after, taken, by omega⟩

theorem bind (one : Affords first cost) (other : Affords next more) :
    Affords (fun size => first size >>= next) (cost + more) := by
  intro size room
  obtain ⟨middle, taken, bound⟩ := one size (by omega)
  obtain ⟨after, takenNext, boundNext⟩ := other middle (by omega)
  refine ⟨after, ?_, by omega⟩
  dsimp only
  rw [taken]
  exact takenNext

theorem replicate (each : Affords step cost) (times : Nat) :
    Affords (replicate step times) (times * cost) := by
  induction times with
  | zero => exact affords_some.mono (Nat.zero_le _)
  | succ times ih => exact (each.bind ih).mono (by rw [Nat.succ_mul]; omega)

end Affords

end Footprint

open Footprint

/-! ## Sets read forwards -/

theorem Memory.exists_state (memory : Memory) (key : List Nat) (edges : Nat) (size : Footprint)
    (room : size.bytes + (32 + edges) ≤ limit) :
    ∃ number after next, memory.state key edges size = some (number, after, next) ∧
      next.bytes ≤ size.bytes + (32 + edges) := by
  obtain ⟨next, taken, bound⟩ := affords_add 1 edges size room
  have made (place : Nat) : ∃ number after next,
      memory.fresh place key edges size = some (number, after, next) ∧
        next.bytes ≤ size.bytes + (32 + edges) := by
    simp only [Memory.fresh, taken, Option.map_some]
    exact ⟨_, _, _, rfl, bound⟩
  unfold Memory.state
  dsimp only
  split
  · split
    · exact ⟨_, _, _, rfl, Nat.le_add_right _ _⟩
    · exact made _
  · exact made _

/-- What it costs to complete the states on a path. -/
def potential : List Branching → Nat
  | [] => 0
  | first :: path => 32 + 8 * (first.edges.length + 1) + potential path

theorem potential_fresh (row : List ByteRange) :
    potential (row.map (⟨[], ·⟩)) = 40 * row.length := by
  induction row with
  | nil => rfl
  | cons range row ih =>
    rw [List.map_cons, potential, ih, List.length_cons, List.length_nil]
    omega

theorem exists_complete (target : Nat) (path : List Branching) (memory : Memory)
    (size : Footprint) (room : size.bytes + potential path ≤ limit) :
    ∃ number after next, complete target path memory size = some (number, after, next) ∧
      next.bytes ≤ size.bytes + potential path := by
  induction path with
  | nil => exact ⟨_, _, _, rfl, Nat.le_refl _⟩
  | cons first path ih =>
    rw [potential] at room ⊢
    obtain ⟨number, later, middle, completed, bound⟩ := ih (by omega)
    obtain ⟨last, after, next, stored, boundNext⟩ :=
      later.exists_state _ (8 * (first.edges.length + 1)) middle (by omega)
    refine ⟨last, after, next, ?_, by omega⟩
    rw [complete, completed]
    simpa [rangeSize] using stored

/-- Of what the states in progress may cost, a further row of byte ranges adds what new states for
it would. -/
theorem exists_extend (target : Nat) (path : List Branching) (row : List ByteRange)
    (memory : Memory) (size : Footprint)
    (room : size.bytes + potential path + 40 * row.length ≤ limit) :
    ∃ path' after next, extend target path row memory size = some (path', after, next) ∧
      next.bytes + potential path' ≤ size.bytes + potential path + 40 * row.length := by
  induction path generalizing row with
  | nil =>
    refine ⟨_, _, _, rfl, ?_⟩
    rw [potential_fresh]
    exact Nat.le_refl _
  | cons first path ih =>
    cases row with
    | nil => exact ⟨_, _, _, rfl, Nat.le_refl _⟩
    | cons range row =>
      rw [potential, List.length_cons] at room ⊢
      rw [extend]
      split
      · obtain ⟨path', after, next, extended, bound⟩ := ih row (by omega)
        refine ⟨first :: path', after, next, ?_, ?_⟩
        · rw [extended]
          rfl
        · rw [potential]
          omega
      · obtain ⟨number, after, next, completed, bound⟩ :=
          exists_complete target path memory size (by omega)
        refine ⟨_, after, next, by rw [completed]; rfl, ?_⟩
        rw [potential, potential_fresh, List.length_cons]
        omega

/-- The number of byte ranges in some rows. -/
def rangeCount : List (List ByteRange) → Nat
  | [] => 0
  | row :: rows => row.length + rangeCount rows

theorem exists_extendAll (target : Nat) (rows : List (List ByteRange)) (path : List Branching)
    (memory : Memory) (size : Footprint)
    (room : size.bytes + potential path + 40 * rangeCount rows ≤ limit) :
    ∃ path' after next, rows.foldlM (fun (path, memory, size) row =>
        extend target path row memory size) (path, memory, size) = some (path', after, next) ∧
      next.bytes + potential path' ≤ size.bytes + potential path + 40 * rangeCount rows := by
  induction rows generalizing path memory size with
  | nil => exact ⟨_, _, _, rfl, Nat.le_refl _⟩
  | cons row rows ih =>
    rw [rangeCount] at room ⊢
    obtain ⟨path', middle, next, extended, bound⟩ :=
      exists_extend target path row memory size (by omega)
    obtain ⟨path'', after, last, extendedAll, boundLast⟩ := ih path' middle next (by omega)
    refine ⟨path'', after, last, ?_, by omega⟩
    rw [List.foldlM_cons]
    dsimp only
    rw [extended]
    exact extendedAll

theorem affords_readForwards (rows : List (List ByteRange)) :
    Affords (readForwards rows) (32 + 40 * rangeCount rows) := by
  intro size room
  obtain ⟨start, started, boundStart⟩ := affords_add 1 0 size (by omega)
  obtain ⟨path, memory, middle, extended, bound⟩ :=
    exists_extendAll size.states rows [] (.empty 10000) start (by rw [potential]; omega)
  rw [potential] at bound
  obtain ⟨number, after, next, completed, boundNext⟩ :=
    exists_complete size.states path memory middle (by omega)
  refine ⟨next, ?_, by omega⟩
  simp only [readForwards, started, extended, completed, Option.bind_eq_bind, Option.bind_some,
    Option.pure_def]

/-! ## Sets read backwards -/

theorem exists_row (row : List ByteRange) (target : Nat) (memory : Memory) (size : Footprint)
    (room : size.bytes + 32 * row.length ≤ limit) :
    ∃ number after next, row.foldlM (fun (next, memory, size) (low, high) =>
        Memory.state memory [next, low, high] 0 size) (target, memory, size) =
          some (number, after, next) ∧
      next.bytes ≤ size.bytes + 32 * row.length := by
  induction row generalizing target memory size with
  | nil => exact ⟨_, _, _, rfl, Nat.le_refl _⟩
  | cons range row ih =>
    rw [List.length_cons] at room ⊢
    obtain ⟨number, middle, next, stored, bound⟩ :=
      memory.exists_state [target, range.1, range.2] 0 size (by omega)
    obtain ⟨last, after, final, storedAll, boundFinal⟩ := ih number middle next (by omega)
    refine ⟨last, after, final, ?_, by omega⟩
    rw [List.foldlM_cons]
    dsimp only
    rw [stored]
    exact storedAll

theorem exists_rows (target : Nat) (rows : List (List ByteRange)) (memory : Memory)
    (size : Footprint)
    (room : size.bytes + 32 * rangeCount rows + 4 * rows.length ≤ limit) :
    ∃ after next, rows.foldlM (fun (memory, size) row => do
        let (_, memory, size) ← row.foldlM (fun (next, memory, size) (low, high) =>
          Memory.state memory [next, low, high] 0 size) (target, memory, size)
        return (memory, ← size.add 0 linkSize)) (memory, size) = some (after, next) ∧
      next.bytes ≤ size.bytes + 32 * rangeCount rows + 4 * rows.length := by
  induction rows generalizing memory size with
  | nil => exact ⟨_, _, rfl, Nat.le_refl _⟩
  | cons row rows ih =>
    rw [rangeCount, List.length_cons] at room ⊢
    obtain ⟨number, middle, next, stored, bound⟩ := exists_row row target memory size (by omega)
    obtain ⟨linked, isLinked, boundLinked⟩ := affords_add 0 linkSize next (by
      rw [linkSize]
      omega)
    rw [linkSize] at boundLinked
    obtain ⟨after, last, storedAll, boundLast⟩ := ih middle linked (by omega)
    refine ⟨after, last, ?_, by omega⟩
    rw [List.foldlM_cons]
    dsimp only
    rw [stored]
    simpa [isLinked] using storedAll

theorem affords_readBackwards (rows : List (List ByteRange)) :
    Affords (readBackwards rows) (64 + 32 * rangeCount rows + 4 * rows.length) := by
  intro size room
  obtain ⟨start, started, boundStart⟩ := affords_add 2 0 size (by omega)
  obtain ⟨after, next, stored, bound⟩ :=
    exists_rows (size.states + 1) rows (.empty 1000) start (by omega)
  refine ⟨next, ?_, by omega⟩
  rw [readBackwards, started]
  change Option.bind (List.foldlM _ _ _) _ = _
  rw [stored]
  rfl

namespace Outline

/-! ## The weight of an outline -/

/-- What the states for a set cost. -/
def setWeight (ranges : List CharRange) : Nat :=
  if ranges.all fun (_, high) => high < 0x80 then 64 + 8 * ranges.length
  else
    let rows := ranges.flatMap fun (low, high) => byteRows (ofRank low, ofRank high)
    64 + 40 * rangeCount rows + 4 * rows.length

/-- What the states for a choice of words cost. -/
def wordsWeight (backwards : Bool) (words : List (List Char)) : Nat :=
  let trie := trieOf backwards words
  32 * (1 + trie.fork.1 + trie.beneath.1) + (trie.fork.2 + trie.beneath.2)

/-- What the states for an outline cost, in either direction. A body that is repeated is counted for
each time that its states stand in a row. -/
def weight : Outline → Nat
  | empty => 32
  | word chars => 32 * (bytesOf chars).length
  | set ranges => setWeight ranges
  | assertion _ => 32
  | repeated body least most _ => (max least (most.getD 0) + 1) * (body.weight + 44) + 112
  | capture _ body => body.weight + 68
  | seq first rest => first.weight + rest.weight + 4
  | alt first rest => first.weight + rest.weight + 144 +
    (alt first rest).words?.elim 0 fun words => wordsWeight false words + wordsWeight true words

/-- What outlines cost one after another, each with a link to the next. -/
def rowWeight : List Outline → Nat
  | [] => 0
  | first :: rest => first.weight + 4 + rowWeight rest

theorem rowWeight_append (front back : List Outline) :
    rowWeight (front ++ back) = rowWeight front + rowWeight back := by
  induction front with
  | nil => exact (Nat.zero_add _).symm
  | cons first front ih =>
    rw [List.cons_append, rowWeight, rowWeight, ih]
    omega

theorem weight_row_le (outlines : List Outline) :
    (row outlines).weight ≤ 32 + rowWeight outlines := by
  induction outlines with
  | nil => exact Nat.le_refl 32
  | cons first rest ih =>
    rw [rowWeight]
    cases rest with
    | nil =>
      rw [row]
      omega
    | cons next others =>
      change first.weight + (row (next :: others)).weight + 4 ≤ _
      omega

theorem tie_le (backwards : Bool) (outline : Outline) : outline.tie backwards ≤ 4 := by
  induction outline with
  | repeated body least most lazy ih =>
    cases most with
    | none =>
      rw [tie]
      split
      · exact Nat.le_refl 4
      · exact Nat.zero_le 4
    | some bound =>
      rw [tie]
      split
      · exact ih
      · exact Nat.zero_le 4
  | capture number body ih =>
    rw [tie]
    split
    · exact ih
    · exact Nat.zero_le 4
  | seq first rest ihFirst ihRest =>
    rw [tie]
    split
    · exact ihFirst
    · exact ihRest
  | empty | word | set | assertion | alt => exact Nat.zero_le 4

theorem affords_growWords (backwards : Bool) (words : List (List Char)) :
    Affords (growWords backwards words) (wordsWeight backwards words) :=
  affords_add _ _

theorem affords_growSet (backwards : Bool) (ranges : List CharRange) :
    Affords (growSet backwards ranges) (setWeight ranges) := by
  unfold growSet setWeight
  split
  · exact affords_add 2 _
  · dsimp only
    split
    · exact (affords_readBackwards _).mono (by omega)
    · exact (affords_readForwards _).mono (by omega)

section Repetitions

variable {body : Footprint → Option Footprint} {cost tie : Nat}

/-- Each time that the body stands in the row, there is at most one edge by itself behind it. -/
theorem affords_tied (each : Affords body cost) (small : tie ≤ 4) :
    Affords (fun size => body size >>= add 0 tie) (cost + 4) :=
  (each.bind (affords_add 0 tie)).mono (by omega)

theorem affords_unbounded (each : Affords body cost) (small : tie ≤ 4) (consumes : Bool)
    (least : Nat) :
    Affords (growRepeated body tie consumes least none) (max least 1 * (cost + 44) + 112) := by
  have tied := affords_tied each small
  have row : least * (cost + 4) ≤ max least 1 * (cost + 44) := Nat.mul_le_mul (by omega) (by omega)
  have single : 1 * (cost + 4) ≤ max least 1 * (cost + 44) := Nat.mul_le_mul (by omega) (by omega)
  unfold growRepeated
  dsimp only
  by_cases again : 0 < least
  · simp only [again, if_true]
    refine ((tied.replicate least).bind (affords_add 1 linkSize)).mono ?_
    rw [linkSize]
    omega
  · simp only [again, if_false]
    by_cases reads : consumes = true
    · simp only [reads, if_true]
      refine ((affords_add 1 0).bind (tied.bind (affords_add 0 linkSize))).mono ?_
      rw [linkSize]
      omega
    · simp only [reads]
      refine (tied.bind (affords_add 3 (4 * linkSize))).mono ?_
      rw [linkSize]
      omega

theorem affords_exact (each : Affords body cost) (small : tie ≤ 4) (consumes : Bool)
    (count : Nat) :
    Affords (growRepeated body tie consumes count (some count))
      (count * (cost + 44) + cost) := by
  have row : (count - 1) * (cost + 4) ≤ count * (cost + 44) :=
    Nat.mul_le_mul (by omega) (by omega)
  unfold growRepeated
  simp only [if_true]
  exact (((affords_tied each small).replicate (count - 1)).bind each).mono (by omega)

theorem affords_between (each : Affords body cost) (small : tie ≤ 4) (consumes : Bool)
    {least most : Nat} (differ : least ≠ most) :
    Affords (growRepeated body tie consumes least (some most))
      (max least most * (cost + 44) + 96) := by
  have tied := affords_tied each small
  have further : Affords (fun size => add 1 0 size >>= fun size =>
      (body size >>= add 0 tie) >>= add 0 (2 * linkSize)) (cost + 44) := by
    refine ((affords_add 1 0).bind (tied.bind (affords_add 0 (2 * linkSize)))).mono ?_
    rw [linkSize]
    omega
  have atMostOne {states : Nat} (few : states ≤ 1) : Affords (add states 0) 32 :=
    (affords_add states 0).mono (by omega)
  have row : least * (cost + 4) + (most - least) * (cost + 44) ≤ max least most * (cost + 44) := by
    calc least * (cost + 4) + (most - least) * (cost + 44)
        ≤ least * (cost + 44) + (most - least) * (cost + 44) :=
          Nat.add_le_add_right (Nat.mul_le_mul_left _ (by omega)) _
      _ = (least + (most - least)) * (cost + 44) := (Nat.add_mul ..).symm
      _ ≤ max least most * (cost + 44) := Nat.mul_le_mul_right _ (by omega)
  unfold growRepeated
  simp only [differ, if_false]
  refine ((atMostOne ?_).bind ((tied.replicate least).bind ((atMostOne ?_).bind
    ((further.replicate (most - least)).bind (atMostOne ?_))))).mono ?_
  · split <;> omega
  · split <;> omega
  · split <;> omega
  · omega

/-- The states for a repetition: those of the body for each time that it stands in the row, each
with what leads on from it or out of the row. -/
theorem affords_growRepeated (each : Affords body cost) (small : tie ≤ 4) (consumes : Bool)
    (least : Nat) (most : Option Nat) :
    Affords (growRepeated body tie consumes least most)
      ((max least (most.getD 0) + 1) * (cost + 44) + 112) := by
  rw [Nat.add_one_mul]
  cases most with
  | none =>
    refine (affords_unbounded each small consumes least).mono ?_
    have more : max least 1 * (cost + 44) ≤ (max least 0 + 1) * (cost + 44) :=
      Nat.mul_le_mul_right _ (by omega)
    rw [Nat.add_one_mul] at more
    exact Nat.add_le_add_right more 112
  | some most =>
    rw [Option.getD_some]
    by_cases same : least = most
    · rw [same, Nat.max_self]
      exact (affords_exact each small consumes most).mono (by omega)
    · exact (affords_between each small consumes same).mono (by omega)

end Repetitions

theorem affords_grow (backwards : Bool) (branch : Nat) (outline : Outline) :
    Affords (grow backwards branch outline) outline.weight := by
  induction outline generalizing branch with
  | empty => exact affords_add 1 0
  | word chars => exact affords_add _ 0
  | set ranges => exact affords_growSet backwards ranges
  | assertion condition => exact affords_add 1 0
  | repeated body least most lazy ih =>
    exact affords_growRepeated (ih 0) (tie_le backwards body) _ least most
  | capture number body ih =>
    have small := tie_le backwards body
    rw [weight]
    cases backwards with
    | true =>
      change Affords (grow true 0 body) (body.weight + 68)
      exact (ih 0).mono (Nat.le_add_right _ _)
    | false =>
      exact ((affords_add 1 0).bind ((ih 0).bind (affords_add 1 _))).mono (by omega)
  | seq first rest ihFirst ihRest =>
    have smallFirst := tie_le backwards first
    have smallRest := tie_le backwards rest
    rw [weight]
    cases backwards with
    | true =>
      exact ((ihRest 0).bind ((affords_add 0 _).bind (ihFirst 0))).mono (by omega)
    | false =>
      exact ((ihFirst 0).bind ((affords_add 0 _).bind (ihRest 0))).mono (by omega)
  | alt first rest ihFirst ihRest =>
    have smallFirst := tie_le backwards first
    have smallRest := tie_le backwards rest
    rw [weight]
    cases choice : if branch = 0 then (alt first rest).words? else none with
    | some words =>
      have isWords : (alt first rest).words? = some words := by
        split at choice
        · exact choice
        · cases choice
      have same : grow backwards branch (alt first rest) = growWords backwards words := by
        funext size
        rw [grow, choice]
      rw [same, isWords]
      refine (affords_growWords backwards words).mono ?_
      dsimp only [Option.elim_some]
      cases backwards <;> omega
    | none =>
      intro size room
      rw [grow, choice]
      refine ((ihFirst 0).bind ((affords_add _ _).bind
        (@Affords.bind _ _ _ 72 (ihRest _) ?_))).mono ?_ size room
      · split
        · exact affords_some.mono (Nat.zero_le _)
        · refine (affords_add _ _).mono ?_
          rw [linkSize]
          split <;> omega
      · rw [linkSize]
        split <;> omega

theorem automaton?_isSome (backwards : Bool) {outline : Outline}
    (light : outline.weight + 216 ≤ limit) : (automaton? backwards outline).isSome = true := by
  have small := tie_le backwards outline
  have opens (skips : Bool) : Affords (add (if skips then 3 else 1)
      (if skips then rangeSize + 2 * linkSize else 0)) 112 :=
    (affords_add _ _).mono (by rw [rangeSize, linkSize]; split <;> omega)
  have body := affords_grow backwards 0 (if backwards then outline else capture 0 outline)
  have closes := affords_add 1 (if backwards then outline.tie backwards else 0)
  obtain ⟨next, made, _⟩ := ((opens _).bind (body.bind closes)) ⟨0, 0⟩ (by
    simp only [bytes, stateSize]
    cases backwards <;> simp only [weight, if_true, if_false, Bool.false_eq_true] <;> omega)
  exact Option.isSome_iff_exists.2 ⟨next, made⟩

/-- An outline of little weight is small enough. -/
theorem fits_of_weight_le {outline : Outline} (light : outline.weight + 216 ≤ limit) :
    outline.fits = true := by
  rw [fits, automaton?_isSome false light, automaton?_isSome true light]
  rfl

end Outline

/-- A text that can be read with its anchors is a pattern where what it writes is neither too deep
nor too heavy. -/
theorem compile?_eq_some {source : String} {part : Part}
    (parsed : Part.parse? (anchored source).toList = some part)
    (shallow : part.height ≤ Part.heightLimit) (light : part.outline.weight + 216 ≤ limit) :
    compile? source = some ⟨anchored source, part.expr⟩ := by
  have admissible : part.admissible = true := by
    rw [Part.admissible, Outline.fits_of_weight_le light, decide_eq_true shallow]
    rfl
  rw [compile?, parsed]
  exact if_pos admissible

end AdapterWiring.Pattern
