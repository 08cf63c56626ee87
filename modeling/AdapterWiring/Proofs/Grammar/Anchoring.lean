import AdapterWiring.Proofs.Grammar.Building
import AdapterWiring.Proofs.Pattern.Steps

/-!
# Patterns match whole words

The source of a pattern is put between two anchors, into a group, as text. Where
it can be read by itself, reading it within the group makes the same parts, and
the parenthesis behind it closes the group, unless it is part of a comment. Where
it cannot, it may still be read there, since it may close the group itself; then
the anchors are not those of the whole.

* **Reader.within, step?_within** — the machine with one more group around all
  others; a step does not see that group, unless it closes it.
* **Reads, finish?** — the steps over a text, and the machine at its end.
* **Reads.grows, Reads.front** — from a text by itself to the text in the group,
  and back.
* **EndsInComment, compile?_eq** — which sources are patterns, and of what.
* **patterns_match_whole_words** — which sources are accepted, and which words
  their rules take.
-/

namespace AdapterWiring

namespace Pattern

variable {reader next final : Reader} {text after tail : List Char}

/-! ## One more group -/

namespace Reader

variable {base : Outer}

/-- The machine with one more group around all others. -/
def within (base : Outer) (reader : Reader) : Reader :=
  { reader with outer := reader.outer ++ [base] }

/-- The result of a step with one more group around. -/
def framed (base : Outer) (found : Reader × List Char) : Reader × List Char :=
  (found.1.within base, found.2)

theorem named?_within :
    (reader.within base).named? text = (reader.named? text).map (framed base) := by
  unfold named? captureNamed?
  change ((groupName? text).bind fun found => (if reader.names.contains found.1 then none
    else some _).map (·, found.2)) = _
  cases groupName? text with
  | none => rfl
  | some found =>
    rw [Option.bind_some, Option.bind_some]
    split <;> rfl

theorem flagged?_within :
    (reader.within base).flagged? text = (reader.flagged? text).map (framed base) := by
  cases text with
  | nil => rfl
  | cons c rest =>
    rw [flagged?, flagged?, apply_ite (Option.map _), Option.map_map]
    have same : (fun found : (Flags × Char) × List Char =>
        ((reader.within base).flagged found.1, found.2)) =
        framed base ∘ fun found => (reader.flagged found.1, found.2) := by
      funext found
      dsimp only [flagged, framed, Function.comp_apply]
      split <;> rfl
    rw [same]
    rfl

theorem open?_within : (reader.within base).open? text = (reader.open? text).map (framed base) := by
  simp only [open?_eq, onSign_map, ← named?_within, ← flagged?_within]
  rfl

theorem repeat?_within (least : Nat) (most : Option Nat) :
    (reader.within base).repeat? least most text =
      (reader.repeat? least most text).map (framed base) := by
  unfold Reader.repeat?
  rw [Option.map_map]
  rfl

/-- Only the outermost group is not closed alike. -/
theorem close?_within (inner : reader.outer ≠ []) :
    (reader.within base).close? = reader.close?.map (within base) := by
  obtain ⟨parent, others, split⟩ := List.exists_cons_of_ne_nil inner
  unfold close? within
  rw [split]
  dsimp only [List.cons_append]
  split <;> rfl

/-- A step does not see a group around all others, unless it closes it. -/
theorem step?_within {c : Char} (inner : c = ')' → reader.outer ≠ []) :
    (reader.within base).step? c text = (reader.step? c text).map (framed base) := by
  by_cases isSign : c ∈ signs
  · simp only [signs, List.mem_cons, List.not_mem_nil, or_false] at isSign
    rcases isSign with rfl | rfl | rfl | rfl | rfl | rfl | rfl | rfl | rfl | rfl | rfl | rfl
    · exact open?_within
    · change (reader.within base).close?.map (·, text) = (reader.close?.map (·, text)).map _
      rw [close?_within (inner rfl), Option.map_map, Option.map_map]
      rfl
    · rfl
    · exact repeat?_within 0 none
    · exact repeat?_within 1 none
    · exact repeat?_within 0 (some 1)
    · change ((count? reader.flags text).bind fun found => (reader.within base).repeat?
        found.1.1 found.1.2 (reader.flags.skip found.2)) = Option.map _ (Option.bind _ _)
      rw [Option.map_bind]
      exact congrArg _ (funext fun found => repeat?_within ..)
    · change Option.bind (class? reader.flags text) _ = Option.map _ (Option.bind _ _)
      rw [Option.map_bind]
      refine congrArg _ (funext fun found => ?_)
      dsimp only [Function.comp_apply]
      split <;> rfl
    · change Option.bind (escape? reader.flags text) _ = Option.map _ (Option.bind _ _)
      rw [Option.map_bind]
      refine congrArg _ (funext fun found => ?_)
      dsimp only [Function.comp_apply]
      split <;> rfl
    · change reader.flags.dot?.map _ = (reader.flags.dot?.map _).map _
      rw [Option.map_map]
      rfl
    · rfl
    · rfl
  · rw [step?_of_notMem _ isSign, step?_of_notMem _ isSign]
    rfl

theorem next?_of_counts {c : Char} {rest : List Char}
    (counts : reader.flags.skip text = c :: rest) : reader.next? text = reader.step? c rest := by
  rw [next?, counts]

theorem next?_of_idle (idle : reader.flags.skip text = []) : reader.next? text = none := by
  rw [next?, idle]

/-- Outside of all groups, none can be closed. -/
theorem next?_of_outermost (outermost : reader.outer = []) {rest : List Char}
    (counts : reader.flags.skip text = ')' :: rest) : reader.next? text = none := by
  rw [next?_of_counts counts]
  change reader.close?.map _ = none
  rw [close?, outermost]
  rfl

theorem next?_within
    (inner : ∀ rest, reader.flags.skip text = ')' :: rest → reader.outer ≠ []) :
    (reader.within base).next? text = (reader.next? text).map (framed base) := by
  have sameFlags : (reader.within base).flags = reader.flags := rfl
  cases counts : reader.flags.skip text with
  | nil =>
    rw [next?_of_idle counts, next?_of_idle (sameFlags ▸ counts)]
    rfl
  | cons c rest =>
    rw [next?_of_counts counts, next?_of_counts (sameFlags ▸ counts)]
    exact step?_within fun isEnd => inner rest (by rw [counts, isEnd])

end Reader

/-! ## Runs -/

/-- The steps of the machine over a text. -/
inductive Reads : Reader → List Char → Reader → List Char → Prop
  | done {reader : Reader} {text : List Char} : Reads reader text reader text
  | step {reader next final : Reader} {text after rest : List Char} :
    reader.next? text = some (next, after) → Reads next after final rest →
      Reads reader text final rest

/-- The machine at the end of a text. -/
def Reader.finish? (reader : Reader) (text : List Char) : Option Reader :=
  reader.run? text.length text

namespace Reader

theorem exists_of_next? (steps : reader.next? text = some (next, after)) :
    ∃ c rest, reader.flags.skip text = c :: rest ∧ reader.step? c rest = some (next, after) := by
  cases counts : reader.flags.skip text with
  | nil => cases (next?_of_idle counts).symm.trans steps
  | cons c rest => exact ⟨c, rest, rfl, (next?_of_counts counts).symm.trans steps⟩

theorem next?_shorter (steps : reader.next? text = some (next, after)) :
    after.length < text.length := by
  obtain ⟨c, rest, counts, step⟩ := exists_of_next? steps
  have shorter := (skip_suffix reader.flags text).length_le
  have notLonger := ((local_step? reader c).leaves step).length_le
  rw [counts, List.length_cons] at shorter
  omega

theorem run?_succ (most : Nat) : reader.run? (most + 1) text =
    if reader.flags.skip text = [] then some reader
    else (reader.next? text).bind fun found => found.1.run? most found.2 := by
  rw [next?, run?.eq_def]
  dsimp only
  cases reader.flags.skip text with
  | nil => rfl
  | cons c rest =>
    rw [if_neg (List.cons_ne_nil c rest)]
    dsimp only
    cases reader.step? c rest <;> rfl

theorem run?_of_idle (idle : reader.flags.skip text = []) (most : Nat) :
    reader.run? most text = some reader := by
  unfold run?
  rw [idle]

/-- As many steps as a text has characters are enough. -/
theorem run?_congr {most other : Nat} (enough : text.length ≤ most)
    (alsoEnough : text.length ≤ other) : reader.run? most text = reader.run? other text := by
  induction most generalizing other reader text with
  | zero =>
    obtain rfl := List.length_eq_zero_iff.1 (Nat.le_zero.1 enough)
    have idle : reader.flags.skip [] = [] := List.suffix_nil.1 (skip_suffix reader.flags [])
    rw [run?_of_idle idle, run?_of_idle idle]
  | succ most ih =>
    by_cases idle : reader.flags.skip text = []
    · rw [run?_of_idle idle, run?_of_idle idle]
    cases other with
    | zero =>
      obtain rfl := List.length_eq_zero_iff.1 (Nat.le_zero.1 alsoEnough)
      exact absurd (List.suffix_nil.1 (skip_suffix reader.flags [])) idle
    | succ other =>
      rw [run?_succ, run?_succ, if_neg idle, if_neg idle]
      refine Option.bind_congr fun found steps => ?_
      have shorter := next?_shorter steps
      exact ih (by omega) (by omega)

theorem finish?_of_idle (idle : reader.flags.skip text = []) :
    reader.finish? text = some reader := run?_of_idle idle _

theorem finish?_of_counts (counts : reader.flags.skip text ≠ []) :
    reader.finish? text = (reader.next? text).bind fun found => found.1.finish? found.2 := by
  have one : 0 < text.length := by
    refine List.length_pos_of_ne_nil ?_
    rintro rfl
    exact counts (List.suffix_nil.1 (skip_suffix reader.flags []))
  obtain ⟨most, size⟩ := Nat.exists_eq_add_of_le' one
  rw [finish?, size, run?_succ, if_neg counts]
  refine Option.bind_congr fun found steps => ?_
  have shorter := next?_shorter steps
  exact run?_congr (by omega) le_rfl

theorem finish?_of_next? (steps : reader.next? text = some (next, after)) :
    reader.finish? text = next.finish? after := by
  obtain ⟨c, rest, counts, _⟩ := exists_of_next? steps
  rw [finish?_of_counts (by simp [counts]), steps, Option.bind_some]

end Reader

namespace Reads

variable {rest : List Char}

theorem finish?_eq (reads : Reads reader text final rest) :
    reader.finish? text = final.finish? rest := by
  induction reads with
  | done => rfl
  | step steps _ ih => exact (Reader.finish?_of_next? steps).trans ih

theorem within (base : Outer) (reads : Reads reader text final rest) :
    Reads (reader.within base) text (final.within base) rest := by
  induction reads with
  | done => exact .done
  | @step reader next final text after rest steps _ ih =>
    refine .step ?_ ih
    rw [Reader.next?_within, steps]
    · rfl
    · rintro others counts none
      rw [Reader.next?_of_outermost none counts] at steps
      cases steps

end Reads

/-- A text that can be read is read step by step. -/
theorem Reader.exists_reads (finishes : reader.finish? text = some final) :
    ∃ rest, Reads reader text final rest ∧ final.flags.skip rest = [] := by
  generalize size : text.length = length
  induction length using Nat.strong_induction_on generalizing reader text with
  | _ length ih =>
    by_cases idle : reader.flags.skip text = []
    · cases (finish?_of_idle idle).symm.trans finishes
      exact ⟨text, .done, idle⟩
    · rw [finish?_of_counts idle] at finishes
      obtain ⟨⟨next, after⟩, steps, finishes⟩ := Option.bind_eq_some_iff.1 finishes
      obtain ⟨rest, reads, atEnd⟩ := ih after.length (size ▸ next?_shorter steps) finishes rfl
      exact ⟨rest, .step steps reads, atEnd⟩

/-- A text that is read by itself is read alike with a parenthesis and a tail on one line behind it.
These are left over, unless they are part of a comment. -/
theorem Reads.grows {rest : List Char} (reads : Reads reader text final rest)
    (atEnd : final.flags.skip rest = []) :
    (∀ tail, '\n' ∉ tail → ∃ later, Reads reader (text ++ ')' :: tail) final later ∧
      final.flags.skip later = ')' :: tail) ∨
    ∀ tail, '\n' ∉ tail → reader.finish? (text ++ ')' :: tail) = some final := by
  induction reads with
  | @done reader text =>
    rcases skip_cases atEnd with apart | comment
    · exact .inl fun tail _ => ⟨_, .done, apart tail⟩
    · exact .inr fun tail oneLine =>
        Reader.finish?_of_idle ((comment tail).trans (skipSpaced_comment oneLine))
  | @step reader next final text after rest steps reads ih =>
    cases (Reader.local_next? reader).grows text with
    | unread unread => cases steps.symm.trans unread
    | apart here longer =>
      cases steps.symm.trans here
      rcases ih atEnd with apart | comment
      · refine .inl fun tail oneLine => ?_
        obtain ⟨later, readsOn, leaves⟩ := apart tail oneLine
        exact ⟨later, .step (longer tail oneLine) readsOn, leaves⟩
      · exact .inr fun tail oneLine =>
          (Reader.finish?_of_next? (longer tail oneLine)).trans (comment tail oneLine)
    | comment here longer =>
      cases steps.symm.trans here
      -- the comment ends the text, and what was read before is all there is
      have finishes : next.finish? [] = some final :=
        reads.finish?_eq.trans (Reader.finish?_of_idle atEnd)
      exact .inr fun tail oneLine =>
        (Reader.finish?_of_next? (longer tail oneLine)).trans finishes

/-- A machine within one more group that leaves all groups has closed that one, and what was read
before can be read by itself. -/
theorem Reads.front {base : Outer} {rest : List Char} {inner : Reader}
    (reads : Reads (inner.within base) text final rest) (left : final.outer = []) :
    ∃ front back closing, text = front ++ ')' :: back ∧ inner.finish? front = some closing ∧
      closing.outer = [] := by
  generalize same : inner.within base = reader at reads
  induction reads generalizing inner with
  | done =>
    subst same
    exact absurd left (by simp [Reader.within])
  | @step reader next final text after rest steps reads ih =>
    subst same
    -- either this step closes the group, or the machine without it makes the same step
    by_cases closes : ∃ back, inner.flags.skip text = ')' :: back ∧ inner.outer = []
    · obtain ⟨back, counts, outermost⟩ := closes
      obtain ⟨front, split⟩ := skip_suffix inner.flags text
      rw [counts] at split
      subst split
      have idle : some ((), inner.flags.skip front) = some ((), []) :=
        (local_skip inner.flags).stops (congrArg (fun rest => some ((), rest)) counts)
      exact ⟨front, back, inner, rfl,
        Reader.finish?_of_idle (congrArg Prod.snd (Option.some.inj idle)), outermost⟩
    · have deep : ∀ back, inner.flags.skip text = ')' :: back → inner.outer ≠ [] :=
        fun back counts outermost => closes ⟨back, counts, outermost⟩
      rw [Reader.next?_within deep] at steps
      obtain ⟨⟨found, others⟩, step, same⟩ := Option.map_eq_some_iff.1 steps
      cases same
      obtain ⟨front, back, closing, rfl, finishes, outermost⟩ := ih left rfl
      obtain ⟨start, rfl⟩ := (Reader.local_next? inner).leaves step
      rw [← List.append_assoc] at step
      have first := (Reader.local_next? inner).stops step
      exact ⟨start ++ front, back, closing, (List.append_assoc ..).symm,
        (Reader.finish?_of_next? first).trans finishes, outermost⟩

theorem parse?_eq : Part.parse? text = (Reader.start.finish? text).bind fun reader =>
    if reader.outer.isEmpty then some reader.level.close else none := rfl

theorem parse?_eq_some_iff {part : Part} : Part.parse? text = some part ↔
    ∃ final, Reader.start.finish? text = some final ∧ final.outer = [] ∧
      final.level.close = part := by
  rw [parse?_eq, Option.bind_eq_some_iff]
  refine exists_congr fun final => and_congr_right fun _ => ?_
  rw [← List.isEmpty_iff]
  split <;> simp [*]

/-! ## Anchors -/

/-- The parts of a pattern between its anchors, in a group. -/
def Part.anchored (part : Part) : Part :=
  .row [.ofAssertion .start, part.group none, .ofAssertion .stop]

/-- A text that can be read by itself ends within a comment if a parenthesis behind it, which would
close nothing, is fine. -/
def EndsInComment (text : List Char) : Prop := (Part.parse? (text ++ [')'])).isSome = true

instance (text : List Char) : Decidable (EndsInComment text) := inferInstanceAs (Decidable (_ = _))

/-- The group around the text of a pattern. -/
def anchor : Outer := ⟨Level.start.add (.ofAssertion .start), {}, none⟩

theorem toList_anchored (source : String) : (Pattern.anchored source).toList =
    '^' :: '(' :: '?' :: ':' :: (source.toList ++ [')', '$']) := by
  simp [Pattern.anchored]

theorem finish?_anchored : Reader.start.finish? ('^' :: '(' :: '?' :: ':' :: text) =
    (Reader.start.within anchor).finish? text := by
  have caret : Reader.start.next? ('^' :: '(' :: '?' :: ':' :: text) =
      some (Reader.start.add (.ofAssertion .start), '(' :: '?' :: ':' :: text) := rfl
  have opens : (Reader.start.add (.ofAssertion .start)).next? ('(' :: '?' :: ':' :: text) =
      some (Reader.start.within anchor, text) := rfl
  rw [Reader.finish?_of_next? caret, Reader.finish?_of_next? opens]

/-- The machine after the group around the text of a pattern has been closed. -/
def Reader.closed (final : Reader) : Reader :=
  { final with
    flags := {}
    level := anchor.level.add (final.level.close.group none)
    outer := [] }

theorem finish?_closing (outermost : final.outer = [])
    (counts : final.flags.skip text = [')', '$']) :
    (final.within anchor).finish? text =
      if (final.level.close.group none).height ≤ Part.heightLimit then
        some (final.closed.add (.ofAssertion .stop))
      else none := by
  have closes : (final.within anchor).close? =
      if (final.level.close.group none).height ≤ Part.heightLimit then some final.closed
      else none := by
    rw [Reader.close?, Reader.within, outermost]
    rfl
  have countsWithin : (final.within anchor).flags.skip text = [')', '$'] := counts
  have next : (final.within anchor).next? text = (final.within anchor).close?.map (·, ['$']) :=
    Reader.next?_of_counts countsWithin
  have dollar : final.closed.finish? ['$'] = some (final.closed.add (.ofAssertion .stop)) := rfl
  have notDone : (final.within anchor).flags.skip text ≠ [] := by simp [countsWithin]
  rw [Reader.finish?_of_counts notDone, next, closes]
  split
  · exact dollar
  · rfl

/-- Whether a parenthesis behind a text is left over or swallowed shows with any tail. -/
theorem ends_cases {part : Part} (parsed : Part.parse? text = some part) :
    ∃ final, final.outer = [] ∧ final.level.close = part ∧
      (¬ EndsInComment text ∧ (∃ later, Reads Reader.start (text ++ [')', '$']) final later ∧
          final.flags.skip later = [')', '$']) ∨
        EndsInComment text ∧ Reader.start.finish? (text ++ [')', '$']) = some final) := by
  obtain ⟨final, finishes, outermost, closes⟩ := parse?_eq_some_iff.1 parsed
  obtain ⟨rest, reads, atEnd⟩ := Reader.exists_reads finishes
  refine ⟨final, outermost, closes, ?_⟩
  rcases reads.grows atEnd with apart | comment
  · refine .inl ⟨fun swallowed => ?_, apart ['$'] (by decide)⟩
    obtain ⟨later, readsOn, counts⟩ := apart [] (by simp)
    obtain ⟨_, isPart⟩ := Option.isSome_iff_exists.1 swallowed
    obtain ⟨_, finishes, _⟩ := parse?_eq_some_iff.1 isPart
    rw [readsOn.finish?_eq, Reader.finish?_of_counts (by simp [counts]),
      Reader.next?_of_outermost outermost counts] at finishes
    cases finishes
  · refine .inr ⟨?_, comment ['$'] (by decide)⟩
    exact Option.isSome_iff_exists.2
      ⟨part, parse?_eq_some_iff.2 ⟨final, comment [] (by simp), outermost, closes⟩⟩

/-- A text that does not end in a comment has the same parts between the anchors. -/
theorem parse?_anchored {source : String} {part : Part}
    (parsed : Part.parse? source.toList = some part) (apart : ¬ EndsInComment source.toList) :
    Part.parse? (Pattern.anchored source).toList =
      if (part.group none).height ≤ Part.heightLimit then some part.anchored else none := by
  obtain ⟨final, outermost, rfl, ⟨_, later, reads, counts⟩ | ⟨comment, _⟩⟩ := ends_cases parsed
  · have finishes := (reads.within anchor).finish?_eq.trans (finish?_closing outermost counts)
    rw [toList_anchored, parse?_eq, finish?_anchored, finishes]
    split <;> rfl
  · exact absurd comment apart

/-- In a text that ends in a comment, the group between the anchors is not closed. -/
theorem parse?_anchored_of_comment {source : String} {part : Part}
    (parsed : Part.parse? source.toList = some part) (comment : EndsInComment source.toList) :
    Part.parse? (Pattern.anchored source).toList = none := by
  obtain ⟨final, outermost, rfl, ⟨apart, _⟩ | ⟨_, finishes⟩⟩ := ends_cases parsed
  · exact absurd comment apart
  · obtain ⟨rest, reads, atEnd⟩ := Reader.exists_reads finishes
    have finishesWithin : (Reader.start.within anchor).finish? (source.toList ++ [')', '$']) =
        some (final.within anchor) :=
      (reads.within anchor).finish?_eq.trans (Reader.finish?_of_idle atEnd)
    rw [toList_anchored, parse?_eq, finish?_anchored, finishesWithin]
    simp [Reader.within]

example : EndsInComment "(?x) a # letter".toList := by decide

/-- Between the anchors a text can only be read if a start of it can be read by itself: all of it,
or what stands before a parenthesis. -/
theorem exists_front {source : String} {part : Part}
    (parsed : Part.parse? (Pattern.anchored source).toList = some part) :
    (Part.parse? source.toList).isSome = true ∨
      ∃ front back, source.toList = front ++ ')' :: back ∧ (Part.parse? front).isSome = true := by
  obtain ⟨final, finishes, outermost, _⟩ := parse?_eq_some_iff.1 parsed
  rw [toList_anchored, finish?_anchored] at finishes
  obtain ⟨rest, reads, _⟩ := Reader.exists_reads finishes
  obtain ⟨front, back, closing, split, isFront, closed⟩ := reads.front outermost
  have readable : (Part.parse? front).isSome = true :=
    Option.isSome_iff_exists.2 ⟨_, parse?_eq_some_iff.2 ⟨closing, isFront, closed, rfl⟩⟩
  rcases List.append_eq_append_iff.1 split with ⟨more, rfl, same⟩ | ⟨more, isSource, same⟩
  · -- the parenthesis is the one behind the source
    obtain rfl : more = [] := by
      rcases more with _ | ⟨c, _ | ⟨d, others⟩⟩
      · rfl
      · cases same
      · simp at same
    exact .inl (List.append_nil source.toList ▸ readable)
  · cases more with
    | nil =>
      rw [isSource, List.append_nil]
      exact .inl readable
    | cons c more =>
      obtain ⟨rfl, _⟩ := List.cons.inj same
      exact .inr ⟨front, more, isSource, readable⟩

variable {source : String} {part : Part}

theorem bounded_of_parse? (parsed : Part.parse? text = some part) : part.expr.Bounded := by
  obtain ⟨final, finishes, _, rfl⟩ := parse?_eq_some_iff.1 parsed
  exact (Reader.bounded_start.run? finishes).level.close

/-- With the anchors, a part is deeper by two. -/
theorem Part.height_anchored (part : Part) : part.anchored.height = part.height + 2 := by
  simp [Part.anchored, Part.row, Part.deepest, Part.group, Part.ofAssertion]

/-- A text that can be read by itself is a pattern if it does not end in a comment and is, with the
anchors, neither too deep nor too large. Then the pattern is the whole of it. -/
theorem compile?_eq (parsed : Part.parse? source.toList = some part) :
    compile? source =
      if ¬ EndsInComment source.toList ∧ part.anchored.admissible = true then
        some ⟨Pattern.anchored source, part.expr.whole⟩
      else none := by
  rw [compile?]
  by_cases comment : EndsInComment source.toList
  · rw [parse?_anchored_of_comment parsed comment, if_neg fun both => both.1 comment]
    rfl
  · rw [parse?_anchored parsed comment]
    simp only [comment, not_false_eq_true, true_and]
    split
    next => rfl
    next tooDeep =>
      have refused : part.anchored.admissible = false := by
        have deeper := part.height_anchored
        have group : (part.group none).height = part.height + 1 := rfl
        simp only [Part.admissible, Bool.and_eq_false_iff, decide_eq_false_iff_not]
        exact .inl (by omega)
      rw [if_neg (by simp [refused])]
      rfl

theorem accepts_iff_matches (parsed : Part.parse? source.toList = some part) {pattern : Pattern}
    (compiled : compile? source = some pattern) (word : String) :
    pattern.accepts word = true ↔ part.expr.Matches [] word.toList [] := by
  rw [compile?_eq parsed] at compiled
  split at compiled <;> cases compiled
  exact Expr.search_whole_iff (bounded_of_parse? parsed) word.toList

end Pattern

namespace Grammar

variable {definitions : List (String × Definition)} {grammar : Grammar} {name source : String}
  {part : Pattern.Part}

/-- The rule of a pattern is the pattern of its source. -/
theorem rule?_of_build_pattern (built : build definitions = .ok grammar)
    (member : (name, .pattern source) ∈ definitions) :
    ∃ pattern, Pattern.compile? source = some pattern ∧
      grammar.rule? name = some (.pattern pattern) := by
  obtain ⟨_, _, rule, found⟩ := exists_rule_of_build built member
  obtain ⟨definition, listed, compiled⟩ := definition_of_build built found
  have same := List.inj_on_of_nodup_map (nodup_of_build built) listed member rfl
  obtain rfl : definition = .pattern source := congrArg Prod.snd same
  rw [compileRule] at compiled
  split at compiled <;> cases compiled
  next isPattern => exact ⟨_, isPattern, found⟩

theorem build_pattern_ok_iff : (∃ grammar, build [(name, .pattern source)] = .ok grammar) ↔
    (Pattern.compile? source).isSome = true := by
  change (∃ grammar, ofCalls [.pattern name source] = .ok grammar) ↔ _
  rw [ofCalls_ok_iff]
  simp [Call.WellFormed]

/-- **Whole words.** A source that can be read by itself is accepted as a pattern exactly if it does
not end in a comment and is, with its anchors, neither too deep nor too large. In every grammar that
is built with it, its rule takes the first word exactly if the expression of the source matches all
of that word. A source that cannot be read by itself is only accepted if it closes the group around
it before its end: what stands before that parenthesis can be read by itself. -/
theorem patterns_match_whole_words (name source : String) :
    (∀ part, Pattern.Part.parse? source.toList = some part →
      ((∃ grammar, build [(name, .pattern source)] = .ok grammar) ↔
        ¬ Pattern.EndsInComment source.toList ∧ part.anchored.admissible = true) ∧
      ∀ definitions grammar, (name, .pattern source) ∈ definitions →
        build definitions = .ok grammar → ∀ depth tokens node rest,
          parseRule grammar (depth + 1) name tokens = some (.ok (node, rest)) ↔
            ∃ token, tokens = token :: rest ∧ part.expr.Matches [] token.word.toList [] ∧
              node = .token token) ∧
    (Pattern.Part.parse? source.toList = none →
      (∃ grammar, build [(name, .pattern source)] = .ok grammar) →
        ∃ front back, source.toList = front ++ ')' :: back ∧
          (Pattern.Part.parse? front).isSome = true) := by
  refine ⟨fun part parsed => ⟨?_, ?_⟩, fun unread accepted => ?_⟩
  · rw [build_pattern_ok_iff, Pattern.compile?_eq parsed]
    split <;> simp [*]
  · intro definitions grammar member built depth tokens node rest
    obtain ⟨pattern, compiled, found⟩ := rule?_of_build_pattern built member
    simp only [parseRule_pattern_ok_iff found, Pattern.accepts_iff_matches parsed compiled]
  · obtain ⟨pattern, compiled⟩ := Option.isSome_iff_exists.1 (build_pattern_ok_iff.1 accepted)
    obtain ⟨anchored, parsed, _⟩ := Option.bind_eq_some_iff.1 compiled
    rcases Pattern.exists_front parsed with whole | front
    · rw [unread] at whole
      cases whole
    · exact front

/-- One word or another, and a text that closes the group around it and opens a new one. -/
def choices : List (String × Definition) :=
  [("either", .pattern "a|bc"), ("open", .pattern "a)|(?:b")]

/-- Their grammar. -/
def choiceGrammar : Grammar :=
  ⟨.ofList [
    ("either", .pattern
      ⟨"^(?:a|bc)$", .whole (.alt (.char 'a') (.seq (.char 'b') (.char 'c')))⟩),
    ("open", .pattern ⟨"^(?:a)|(?:b)$",
      .alt (.seq (.assertion .start) (.char 'a')) (.seq (.char 'b') (.assertion .stop))⟩)]⟩

/-- What the first of the texts writes. -/
def choicePart : Pattern.Part :=
  .choice (.ofChar {} 'a') [.row [.ofChar {} 'b', .ofChar {} 'c']]

theorem patterns_match_whole_words_choices :
    Pattern.Part.parse? "a|bc".toList = some choicePart ∧
    ¬ Pattern.EndsInComment "a|bc".toList ∧ choicePart.anchored.admissible = true ∧
    (∃ grammar, build [("either", .pattern "a|bc")] = .ok grammar) ∧
    ("either", .pattern "a|bc") ∈ choices ∧ build choices = .ok choiceGrammar ∧
    choicePart.expr.Matches [] ['b', 'c'] [] ∧ ¬ choicePart.expr.Matches [] ['a', 'x'] [] ∧
    Pattern.Part.parse? "a)|(?:b".toList = none ∧
    (∃ grammar, build [("open", .pattern "a)|(?:b")] = .ok grammar) ∧
    ∃ front back, "a)|(?:b".toList = front ++ ')' :: back ∧
      (Pattern.Part.parse? front).isSome = true := by
  have parsed : Pattern.Part.parse? "a|bc".toList = some choicePart := rfl
  have apart : ¬ Pattern.EndsInComment "a|bc".toList := by decide
  have fits : choicePart.anchored.admissible = true := rfl
  have member : ("either", .pattern "a|bc") ∈ choices := List.mem_cons_self ..
  have built : build choices = .ok choiceGrammar := rfl
  obtain ⟨accepted, taken⟩ := (patterns_match_whole_words "either" "a|bc").1 _ parsed
  have isTaken : parseRule choiceGrammar 1 "either" [⟨"bc", 1⟩] =
      some (.ok (.token ⟨"bc", 1⟩, [])) := by cbv
  have isRefused : parseRule choiceGrammar 1 "either" [⟨"ax", 1⟩] =
      some (.error (.unexpected ⟨"ax", 1⟩ (.rule "either"))) := by cbv
  have takes := taken _ _ member built 0
  obtain ⟨_, same, matched, _⟩ := (takes _ _ _).1 isTaken
  cases same
  have notMatched : ¬ choicePart.expr.Matches [] ['a', 'x'] [] := by
    intro whole
    have ok := (takes [⟨"ax", 1⟩] _ []).2 ⟨⟨"ax", 1⟩, rfl, whole, rfl⟩
    cases isRefused.symm.trans ok
  have unread : Pattern.Part.parse? "a)|(?:b".toList = none := rfl
  have openBuilt : ∃ grammar, build [("open", .pattern "a)|(?:b")] = .ok grammar := ⟨_, rfl⟩
  exact ⟨parsed, apart, fits, accepted.2 ⟨apart, fits⟩, member, built, matched, notMatched, unread,
    openBuilt, (patterns_match_whole_words "open" "a)|(?:b").2 unread openBuilt⟩

/-- A source that closes the group around it can leave the anchors on two sides of a choice. Then a
word is taken for its first letter. -/
theorem part_of_word_matched :
    Pattern.Part.parse? "a)|(?:b".toList = none ∧ build choices = .ok choiceGrammar ∧
    parseRule choiceGrammar 1 "open" [⟨"axe", 1⟩] = some (.ok (.token ⟨"axe", 1⟩, [])) := by
  have matched : parseRule choiceGrammar 1 "open" [⟨"axe", 1⟩] =
      some (.ok (.token ⟨"axe", 1⟩, [])) := by cbv
  exact ⟨rfl, rfl, matched⟩

end Grammar

end AdapterWiring
