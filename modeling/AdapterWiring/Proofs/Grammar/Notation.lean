import AdapterWiring.Grammar.Rule

/-!
# The compact form of elements

The compact form of an element is a reference exactly if it is a name in angle
brackets, followed by nothing, `?`, `*` or `+`. Any other text is the word that it
is.

* **Repeat.suffix** — what asks for a repetition.
* **parse_eq_ref_iff, parse_eq_literal_iff** — what a form is read as.
* **Refers** — a form refers to a rule.
-/

namespace AdapterWiring

/-- What asks for a repetition. -/
def Repeat.suffix : Repeat → String
  | one => ""
  | optional => "?"
  | zeroOrMore => "*"
  | oneOrMore => "+"

namespace Element

/-! ## Suffixes -/

theorem repeatOfSuffix?_eq_some_iff {c : Char} {times : Repeat} :
    repeatOfSuffix? c = some times ↔ times.suffix.toList = [c] := by
  constructor
  · intro found
    unfold repeatOfSuffix? at found
    split at found <;> cases found <;> rfl
  · intro same
    cases times <;> cases same <;> rfl

/-- A form is what is left of it and the suffix. -/
theorem append_suffix_of_suffixed {spec body : List Char} {times : Repeat}
    (cut : suffixed spec = (body, times)) : spec = body ++ times.suffix.toList := by
  unfold suffixed at cut
  split at cut
  next last c before isReverse =>
    have isSpec : spec = (c :: before).reverse ++ [last] := by
      rw [← List.reverse_cons, ← isReverse, List.reverse_reverse]
    split at cut
    next times found =>
      cases cut
      rw [repeatOfSuffix?_eq_some_iff.1 found]
      exact isSpec
    next =>
      cases cut
      exact (List.append_nil spec).symm
  next =>
    cases cut
    exact (List.append_nil spec).symm

/-- A suffix behind a closing bracket is cut off. -/
theorem suffixed_closed (opening : Char) (name : List Char) (times : Repeat) :
    suffixed (opening :: name ++ '>' :: times.suffix.toList) =
      (opening :: name ++ ['>'], times) := by
  rcases List.eq_nil_or_concat name with rfl | ⟨front, last, rfl⟩ <;>
    cases times <;> simp [suffixed, Repeat.suffix, repeatOfSuffix?]

/-! ## Brackets -/

theorem bracketed?_eq_some_iff {body : List Char} {rule : String} :
    bracketed? body = some rule ↔ rule ≠ "" ∧ body = '<' :: rule.toList ++ ['>'] := by
  constructor
  · intro found
    unfold bracketed? at found
    split at found
    next inner =>
      split at found
      next c name isReverse =>
        cases found
        have isInner : inner = (c :: name).reverse ++ ['>'] := by
          rw [← List.reverse_cons, ← isReverse, List.reverse_reverse]
        simp [isInner]
      next => cases found
    next => cases found
  · rintro ⟨isName, rfl⟩
    obtain ⟨c, name, isReverse⟩ : ∃ c name, rule.toList.reverse = c :: name :=
      List.exists_cons_of_ne_nil (by simpa using isName)
    simp only [bracketed?, List.cons_append, List.reverse_append, List.reverse_cons,
      List.reverse_nil, List.nil_append, isReverse]
    rw [← List.reverse_cons, ← isReverse, List.reverse_reverse, String.ofList_toList]

/-! ## Elements -/

variable {spec rule word : String} {times : Repeat}

/-- A form is read as a reference exactly if it is a name in brackets with the suffix of the
repetition. -/
theorem parse_eq_ref_iff : parse spec = .ref rule times ↔
    rule ≠ "" ∧ spec = "<" ++ rule ++ ">" ++ times.suffix := by
  have sameText : spec = "<" ++ rule ++ ">" ++ times.suffix ↔
      spec.toList = '<' :: rule.toList ++ '>' :: times.suffix.toList := by
    rw [← String.toList_inj]
    simp
  rw [sameText]
  constructor
  · intro found
    unfold parse at found
    obtain ⟨body, cut⟩ : ∃ body, suffixed spec.toList = body := ⟨_, rfl⟩
    rw [cut] at found
    dsimp only at found
    split at found <;> cases found
    next inBrackets =>
      obtain ⟨isName, isBody⟩ := bracketed?_eq_some_iff.1 inBrackets
      refine ⟨isName, ?_⟩
      rw [append_suffix_of_suffixed cut, isBody]
      simp
  · rintro ⟨isName, same⟩
    rw [parse, same, suffixed_closed]
    dsimp only
    rw [bracketed?_eq_some_iff.2 ⟨isName, rfl⟩]

/-- A form refers to a rule, by whichever repetition. -/
def Refers (spec rule : String) : Prop :=
  rule ≠ "" ∧ ∃ times : Repeat, spec = "<" ++ rule ++ ">" ++ times.suffix

theorem reference?_parse_eq_some_iff : (parse spec).reference? = some rule ↔ Refers spec rule := by
  constructor
  · intro found
    cases isElement : parse spec with
    | literal word =>
      rw [isElement] at found
      cases found
    | ref other times =>
      rw [isElement] at found
      cases found
      obtain ⟨isName, same⟩ := parse_eq_ref_iff.1 isElement
      exact ⟨isName, times, same⟩
  · rintro ⟨isName, times, same⟩
    rw [parse_eq_ref_iff.2 ⟨isName, same⟩]
    rfl

/-- A form that is read as a word is that word. -/
theorem eq_of_parse_eq_literal (found : parse spec = .literal word) : word = spec := by
  unfold parse at found
  dsimp only at found
  split at found <;> cases found
  rfl

/-- A form is read as a word exactly if it refers to no rule. -/
theorem parse_eq_literal_iff : parse spec = .literal word ↔
    word = spec ∧ ∀ rule, ¬ Refers spec rule := by
  simp only [← reference?_parse_eq_some_iff]
  constructor
  · intro found
    rw [found]
    exact ⟨eq_of_parse_eq_literal found, fun rule refers => nomatch refers⟩
  · rintro ⟨rfl, none⟩
    cases isElement : parse word with
    | literal other => rw [eq_of_parse_eq_literal isElement]
    | ref rule times =>
      rw [isElement] at none
      exact absurd rfl (none rule)

example : ["<a>", "<a>?", "<a?>*", "<>", "<a>>+", "+"].map parse =
    [.ref "a" .one, .ref "a" .optional, .ref "a?" .zeroOrMore, .literal "<>",
      .ref "a>" .oneOrMore, .literal "+"] := by
  rfl

end Element

end AdapterWiring
