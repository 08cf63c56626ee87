import AdapterWiring.Proofs.Pattern.Search

/-!
# Expressions without conditions

An expression that looks at nothing but the characters it matches has a set of
words, whatever stands around them.

* **Denotes** — the words of such an expression, put together from those of its
  parts.
* **Denotes.search_whole_iff** — an anchored search accepts exactly its words.
-/

namespace AdapterWiring.Pattern.Expr

/-- An expression matches the words of a language, wherever they stand. -/
def Denotes (e : Expr) (language : List Char → Prop) : Prop :=
  ∀ before word after, Matches e before word after ↔ language word

namespace Denotes

theorem one (set : CharSet) :
    Denotes (.one set) fun word => ∃ c, word = [c] ∧ set.contains c = true := by
  intro before word after
  constructor
  · intro matched
    cases matched with
    | one member => exact ⟨_, rfl, member⟩
  · rintro ⟨c, rfl, member⟩
    exact .one member

theorem char (c : Char) : Denotes (.char c) (· = [c]) := by
  intro before word after
  rw [Expr.char, one]
  constructor
  · rintro ⟨d, rfl, member⟩
    rw [(CharSet.contains_single c d).1 member]
  · rintro rfl
    exact ⟨c, rfl, (CharSet.contains_single c c).2 rfl⟩

variable {first second body : Expr} {isFirst isSecond isBody : List Char → Prop}

theorem seq (denotesFirst : Denotes first isFirst) (denotesSecond : Denotes second isSecond) :
    Denotes (.seq first second) fun word =>
      ∃ left right, word = left ++ right ∧ isFirst left ∧ isSecond right := by
  intro before word after
  constructor
  · intro matched
    cases matched with
    | seq isLeft isRight =>
      exact ⟨_, _, rfl, (denotesFirst _ _ _).1 isLeft, (denotesSecond _ _ _).1 isRight⟩
  · rintro ⟨left, right, rfl, isLeft, isRight⟩
    exact .seq ((denotesFirst _ _ _).2 isLeft) ((denotesSecond _ _ _).2 isRight)

/-- How expressions in a row are grouped does not matter. -/
theorem regroup {third : Expr} {language : List Char → Prop}
    (denotes : Denotes (.seq (.seq first second) third) language) :
    Denotes (.seq first (.seq second third)) language := by
  intro before word after
  rw [← denotes before word after]
  constructor
  · intro matched
    cases matched with
    | seq isFirst rest =>
      cases rest with
      | seq isSecond isThird =>
        rw [← List.append_assoc]
        rw [List.append_assoc] at isFirst
        exact .seq (.seq isFirst isSecond) (by simpa using isThird)
  · intro matched
    cases matched with
    | seq front isThird =>
      cases front with
      | seq isFirst isSecond =>
        rw [List.append_assoc]
        rw [← List.append_assoc] at isFirst
        exact .seq isFirst (.seq isSecond (by simpa using isThird))

theorem times (denotes : Denotes body isBody) (count : Nat) (before word after : List Char) :
    MatchesTimes body count before word after ↔
      ∃ parts : List (List Char), parts.length = count ∧ (∀ part ∈ parts, isBody part) ∧
        word = parts.flatten := by
  induction count generalizing before word with
  | zero =>
    constructor
    · intro matched
      cases matched
      exact ⟨[], rfl, by simp, rfl⟩
    · rintro ⟨parts, none, -, rfl⟩
      rw [List.length_eq_zero_iff.1 none]
      exact .none
  | succ count ih =>
    constructor
    · intro matched
      cases matched with
      | more once others =>
        obtain ⟨parts, size, each, rfl⟩ := (ih _ _).1 others
        refine ⟨_ :: parts, by rw [List.length_cons, size], ?_, rfl⟩
        exact List.forall_mem_cons.2 ⟨(denotes _ _ _).1 once, each⟩
    · rintro ⟨parts, size, each, rfl⟩
      cases parts with
      | nil => cases size
      | cons part parts =>
        obtain ⟨isPart, others⟩ := List.forall_mem_cons.1 each
        rw [List.length_cons, Nat.add_right_cancel_iff] at size
        exact .more ((denotes _ _ _).2 isPart) ((ih _ _).2 ⟨parts, size, others, rfl⟩)

theorem atLeast (denotes : Denotes body isBody) (least : Nat) :
    Denotes (.repeated body least none) fun word =>
      ∃ parts : List (List Char), least ≤ parts.length ∧ (∀ part ∈ parts, isBody part) ∧
        word = parts.flatten := by
  intro before word after
  constructor
  · intro matched
    cases matched with
    | repeated enough _ inRow =>
      obtain ⟨parts, rfl, each, rfl⟩ := (denotes.times _ _ _ _).1 inRow
      exact ⟨parts, enough, each, rfl⟩
  · rintro ⟨parts, enough, each, rfl⟩
    refine .repeated enough (by simp) ((denotes.times _ _ _ _).2 ⟨parts, rfl, each, rfl⟩)

theorem congr {other : List Char → Prop} (denotes : Denotes body isBody)
    (same : ∀ word, isBody word ↔ other word) : Denotes body other :=
  fun before word after => (denotes before word after).trans (same word)

/-- An anchored search accepts exactly the words of an expression. -/
theorem search_whole_iff (denotes : Denotes body isBody) (bounded : body.Bounded)
    (word : List Char) : (whole body).search word = true ↔ isBody word :=
  (Expr.search_whole_iff bounded word).trans (denotes [] word [])

end Denotes

end AdapterWiring.Pattern.Expr
