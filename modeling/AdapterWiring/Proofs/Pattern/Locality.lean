import AdapterWiring.Pattern.Reader
import Mathlib.Data.List.Infix

/-!
# What readers look at

A pattern is read part by part, and a part ends where its own signs say so. What
stands behind a text, after a closing parenthesis, is therefore only looked at
where the text ends within a part. This holds of every reader of a part, since it
holds of the ways in which they are put together.

* **Local** — a reader of that kind; text behind a parenthesis neither helps nor
  disturbs it, unless a comment is open.
* **Local.bind, map, head, orElse** — readers that are made of such readers.
* **local_skip, local_gather, local_braced** — what blanks and comments are
  skipped with, and what names and numbers are gathered with.
-/

namespace AdapterWiring.Pattern

variable {α β : Type}

/-! ## Readers -/

/-- How a text is read that has a closing parenthesis and a tail on one line behind it. -/
inductive Grows (read : List Char → Option (α × List Char)) (text : List Char) : Prop
  /-- By itself the text is incomplete or wrong. -/
  | unread : read text = none → Grows read text
  /-- The tail is left over. -/
  | apart {value : α} {after : List Char} : read text = some (value, after) →
    (∀ tail, '\n' ∉ tail → read (text ++ ')' :: tail) = some (value, after ++ ')' :: tail)) →
      Grows read text
  /-- The tail is part of a comment. -/
  | comment {value : α} : read text = some (value, []) →
    (∀ tail, '\n' ∉ tail → read (text ++ ')' :: tail) = some (value, [])) → Grows read text

/-- A reader leaves a rest of the text over; if it stops before a closing parenthesis it does not
look at what follows that; and if it does not get as far, then only because of a comment. -/
structure Local (read : List Char → Option (α × List Char)) : Prop where
  leaves {text after : List Char} {value : α} : read text = some (value, after) → after <:+ text
  stops {text tail after : List Char} {value : α} :
    read (text ++ ')' :: tail) = some (value, after ++ ')' :: tail) →
      read text = some (value, after)
  grows (text : List Char) : Grows read text

/-- A text is read as another is, both by itself and with more behind it. -/
theorem Grows.of_eq {read other : List Char → Option (α × List Char)} {text more : List Char}
    (grows : Grows other more) (alone : read text = other more)
    (longer : ∀ tail, '\n' ∉ tail →
      read (text ++ ')' :: tail) = other (more ++ ')' :: tail)) : Grows read text := by
  cases grows with
  | unread here => exact .unread (alone.trans here)
  | apart here apart =>
    exact .apart (alone.trans here) fun tail oneLine =>
      (longer tail oneLine).trans (apart tail oneLine)
  | comment here swallowed =>
    exact .comment (alone.trans here) fun tail oneLine =>
      (longer tail oneLine).trans (swallowed tail oneLine)

/-- A text is no end of its own rest. -/
theorem not_cons_suffix {front rest : List Char} {c : Char} : ¬ front ++ c :: rest <:+ rest := by
  intro suffix
  have shorter := suffix.length_le
  simp only [List.length_append, List.length_cons] at shorter
  omega

/-- What ends a text before some tail is either within the tail or has all of it. -/
theorem suffix_append_cases {after text tail : List Char}
    (suffix : after <:+ text ++ ')' :: tail) :
    after <:+ tail ∨ ∃ rest, after = rest ++ ')' :: tail ∧ rest <:+ text := by
  obtain ⟨front, split⟩ := suffix
  rcases List.append_eq_append_iff.1 split with ⟨rest, rfl, rfl⟩ | ⟨more, rfl, same⟩
  · exact .inr ⟨rest, rfl, List.suffix_append _ _⟩
  · cases more with
    | nil => exact .inr ⟨[], same.symm, List.nil_suffix⟩
    | cons c more =>
      obtain ⟨_, rfl⟩ := List.cons.inj same
      exact .inl (List.suffix_append _ _)

/-- A reader leaves a rest of the text over, and what stands behind a closing parenthesis makes no
difference at all. -/
structure Sharp (read : List Char → Option (α × List Char)) : Prop where
  leaves {text after : List Char} {value : α} : read text = some (value, after) → after <:+ text
  append (text tail : List Char) : read (text ++ ')' :: tail) =
    (read text).map fun found => (found.1, found.2 ++ ')' :: tail)

theorem Sharp.toLocal {read : List Char → Option (α × List Char)} (sharp : Sharp read) :
    Local read where
  leaves := sharp.leaves
  stops {text tail after value} ok := by
    rw [sharp.append] at ok
    obtain ⟨found, here, same⟩ := Option.map_eq_some_iff.1 ok
    have sameValue : found.1 = value := congrArg Prod.fst same
    have sameRest : found.2 = after := List.append_cancel_right (congrArg Prod.snd same)
    rw [here, ← sameValue, ← sameRest]
  grows text := by
    cases alone : read text with
    | none => exact .unread alone
    | some found => exact .apart alone fun tail _ => by rw [sharp.append, alone]; rfl

/-- One reader behind a sign, and another for texts that do not start with it. -/
def onSign (sign : Char) (behind other : List Char → Option (α × List Char)) :
    List Char → Option (α × List Char)
  | [] => other []
  | c :: rest => if c = sign then behind rest else other (c :: rest)

section OnSign

variable {sign : Char} {behind other : List Char → Option (α × List Char)}

theorem onSign_self {rest : List Char} : onSign sign behind other (sign :: rest) = behind rest :=
  if_pos rfl

theorem onSign_other {text : List Char} (elsewhere : ∀ rest, text = sign :: rest → False) :
    onSign sign behind other text = other text := by
  cases text with
  | nil => rfl
  | cons c rest =>
    rw [onSign, if_neg]
    rintro rfl
    exact elsewhere rest rfl

theorem onSign_map {change : α × List Char → β × List Char} {text : List Char} :
    (onSign sign behind other text).map change =
      onSign sign (fun rest => (behind rest).map change) (fun rest => (other rest).map change)
        text := by
  cases text with
  | nil => rfl
  | cons c rest => exact apply_ite (Option.map change) ..

end OnSign

section OrElse

variable {look : List Char → Option (α × List Char)} {here : α → List Char → Option (β × List Char)}
  {others : List Char → Option (β × List Char)} {text : List Char}

/-- One reader with another behind it and, for texts that it does not read, a third. -/
def orElse (look : List Char → Option (α × List Char))
    (here : α → List Char → Option (β × List Char)) (others : List Char → Option (β × List Char))
    (text : List Char) : Option (β × List Char) :=
  match look text with
  | some (value, after) => here value after
  | none => others text

theorem orElse_some {value : α} {after : List Char} (found : look text = some (value, after)) :
    orElse look here others text = here value after := by
  rw [orElse, found]

theorem orElse_none (notFound : look text = none) :
    orElse look here others text = others text := by
  rw [orElse, notFound]

end OrElse

namespace Sharp

theorem fixed (value? : Option α) : Sharp fun text => value?.map (·, text) where
  leaves ok := by
    obtain ⟨_, _, same⟩ := Option.map_eq_some_iff.1 ok
    cases same
    exact List.suffix_rfl
  append text tail := by
    rw [Option.map_map]
    rfl

theorem none : Sharp fun _ => (Option.none : Option (α × List Char)) := ⟨nofun, fun _ _ => rfl⟩

theorem onSign {sign : Char} {behind other : List Char → Option (α × List Char)}
    (noParenthesis : sign ≠ ')') (reads : Sharp behind) (others : Sharp other) :
    Sharp (Pattern.onSign sign behind other) where
  leaves {text after value} ok := by
    cases text with
    | nil => exact others.leaves ok
    | cons c rest =>
      rw [Pattern.onSign] at ok
      split at ok
      · exact (reads.leaves ok).trans (List.suffix_cons c rest)
      · exact others.leaves ok
  append text tail := by
    cases text with
    | nil => exact (if_neg noParenthesis.symm).trans (others.append [] tail)
    | cons c rest =>
      rw [List.cons_append, Pattern.onSign, Pattern.onSign]
      split
      · exact reads.append rest tail
      · exact others.append (c :: rest) tail

end Sharp

namespace Local

variable {read other : List Char → Option (α × List Char)}
  {next : α → List Char → Option (β × List Char)}

theorem pure (value : α) : Local fun text => some (value, text) where
  leaves ok := by cases ok; exact List.suffix_rfl
  stops ok := by
    obtain ⟨rfl, same⟩ := Prod.ext_iff.1 (Option.some.inj ok)
    rw [List.append_cancel_right same]
  grows text := .apart rfl fun _ _ => rfl

theorem none : Local fun _ => (Option.none : Option (α × List Char)) where
  leaves ok := nomatch ok
  stops ok := nomatch ok
  grows _ := .unread rfl

/-- One reader after another. -/
theorem bind (first : Local read) (second : ∀ value, Local (next value)) :
    Local fun text => (read text).bind fun found => next found.1 found.2 where
  leaves ok := by
    obtain ⟨⟨value, between⟩, here, later⟩ := Option.bind_eq_some_iff.1 ok
    exact ((second value).leaves later).trans (first.leaves here)
  stops {text tail after value} ok := by
    obtain ⟨⟨value, between⟩, here, later⟩ := Option.bind_eq_some_iff.1 ok
    -- a first reader that goes beyond the parenthesis leaves too little to stop at it
    rcases suffix_append_cases (first.leaves here) with inside | ⟨rest, rfl, _⟩
    · exact absurd (((second value).leaves later).trans inside) not_cons_suffix
    · exact Option.bind_eq_some_iff.2 ⟨(value, rest), first.stops here, (second value).stops later⟩
  grows text := by
    cases first.grows text with
    | unread here => exact .unread (by rw [here]; rfl)
    | @apart value after here longer =>
      refine ((second value).grows after).of_eq (by rw [here]; rfl) fun tail oneLine => ?_
      rw [longer tail oneLine]
      rfl
    | @comment value here longer =>
      -- the second reader starts where the text ends, with a tail or without
      cases later : next value [] with
      | none => exact .unread (by rw [here]; exact later)
      | some found =>
        obtain ⟨result, after⟩ := found
        obtain rfl := List.suffix_nil.1 ((second value).leaves later)
        refine .comment (by rw [here]; exact later) fun tail oneLine => ?_
        rw [longer tail oneLine]
        exact later

/-- One of two readers, whatever the text is. -/
theorem ite (condition : Prop) [Decidable condition] (yes : Local read) (no : Local other) :
    Local fun text => if condition then read text else other text := by
  by_cases holds : condition
  · simpa only [holds, if_true] using yes
  · simpa only [holds, if_false] using no

/-- Nothing is read, and there may be no value. -/
theorem fixed (value? : Option α) : Local fun text => value?.map (·, text) := by
  cases value? with
  | none => exact .none
  | some value => exact .pure value

/-- What is read may be looked at more closely. -/
theorem choose (first : Local read) (choose? : α → Option β) :
    Local fun text => (read text).bind fun found => (choose? found.1).map (·, found.2) :=
  first.bind fun value => .fixed (choose? value)

theorem map (first : Local read) (change : α → β) :
    Local fun text => (read text).map fun found => (change found.1, found.2) := by
  have looked := first.bind fun value => .pure (change value)
  simpa only [Option.map_eq_bind, Function.comp_def] using looked

/-- A first character, whichever it is, and a reader for what follows it. -/
theorem cons {reads : Char → List Char → Option (α × List Char)} (each : ∀ c, Local (reads c))
    (atStart : ∀ c rest, read (c :: rest) = reads c rest) (atEnd : read [] = .none) :
    Local read where
  leaves {text after value} ok := by
    cases text with
    | nil => rw [atEnd] at ok; cases ok
    | cons c rest =>
      rw [atStart] at ok
      exact ((each c).leaves ok).trans (List.suffix_cons c rest)
  stops {text tail after value} ok := by
    cases text with
    | nil =>
      rw [List.nil_append, atStart] at ok
      exact absurd ((each _).leaves ok) not_cons_suffix
    | cons c rest =>
      rw [List.cons_append, atStart] at ok
      rw [atStart]
      exact (each c).stops ok
  grows text := by
    cases text with
    | nil => exact .unread atEnd
    | cons c rest =>
      exact ((each c).grows rest).of_eq (atStart c rest)
        fun tail _ => atStart c (rest ++ ')' :: tail)

/-- One reader for texts that start with certain characters, and another for all others. -/
theorem head (starts : Char → Bool) (noParenthesis : starts ')' = false)
    {reads : Char → List Char → Option (α × List Char)} (each : ∀ c, Local (reads c))
    (others : Local other)
    (atStart : ∀ c rest, read (c :: rest) = if starts c then reads c rest else other (c :: rest))
    (atEnd : read [] = other []) : Local read where
  leaves {text after value} ok := by
    cases text with
    | nil => exact others.leaves (atEnd.symm.trans ok)
    | cons c rest =>
      rw [atStart] at ok
      split at ok
      · exact ((each c).leaves ok).trans (List.suffix_cons c rest)
      · exact others.leaves ok
  stops {text tail after value} ok := by
    cases text with
    | nil =>
      rw [List.nil_append, atStart, noParenthesis] at ok
      exact atEnd.trans (others.stops ok)
    | cons c rest =>
      rw [List.cons_append, atStart] at ok
      rw [atStart]
      split at ok
      next starts =>
        rw [if_pos starts]
        exact (each c).stops ok
      next notStarts =>
        rw [if_neg notStarts]
        exact others.stops ok
  grows text := by
    cases text with
    | nil =>
      refine (others.grows []).of_eq atEnd fun tail _ => ?_
      rw [List.nil_append, atStart, noParenthesis]
      rfl
    | cons c rest =>
      have longer (tail : List Char) : read ((c :: rest) ++ ')' :: tail) =
          if starts c then reads c (rest ++ ')' :: tail) else other (c :: (rest ++ ')' :: tail)) :=
        atStart c (rest ++ ')' :: tail)
      by_cases isStart : starts c = true
      · simp only [isStart, if_true] at longer
        exact ((each c).grows rest).of_eq (by rw [atStart, if_pos isStart])
          fun tail _ => longer tail
      · simp only [isStart] at longer
        exact (others.grows (c :: rest)).of_eq (by rw [atStart, if_neg isStart])
          fun tail _ => longer tail

theorem onSign {sign : Char} (noParenthesis : sign ≠ ')') (reads : Local read)
    (others : Local other) : Local (Pattern.onSign sign read other) := by
  refine head (· = sign) (by simpa using noParenthesis.symm) (fun _ => reads) others
    (fun c rest => ?_) rfl
  rw [Pattern.onSign]
  simp

/-- Which of two readers it is depends on the text. A look ahead at it is the same with more text
behind, unless the reader that it is for cannot read the text by itself. -/
theorem lookahead {holds : List Char → Prop} [DecidablePred holds] (yes : Local read)
    (no : Local other) (grown : ∀ text tail, holds text → holds (text ++ ')' :: tail))
    (shown : ∀ text tail found, holds (text ++ ')' :: tail) → read text = some found → holds text)
    (oneLine : ∀ text tail, '\n' ∉ tail → holds (text ++ ')' :: tail) → holds text) :
    Local fun text => if holds text then read text else other text where
  leaves {text after value} ok := by
    split at ok
    · exact yes.leaves ok
    · exact no.leaves ok
  stops {text tail after value} ok := by
    split at ok
    next longer =>
      have alone := yes.stops ok
      rw [if_pos (shown text tail _ longer alone)]
      exact alone
    next notLonger =>
      rw [if_neg fun alone => notLonger (grown text tail alone)]
      exact no.stops ok
  grows text := by
    by_cases alone : holds text
    · refine (yes.grows text).of_eq (if_pos alone) fun tail _ => if_pos (grown text tail alone)
    · exact (no.grows text).of_eq (if_neg alone) fun tail isOne =>
        if_neg fun longer => alone (oneLine text tail isOne longer)

/-- A reader may be given up for another if it reads the same whatever stands behind. -/
theorem orElse {look : List Char → Option (α × List Char)}
    {here : α → List Char → Option (β × List Char)} {others : List Char → Option (β × List Char)}
    (sharp : Sharp look) (reads : ∀ value, Local (here value)) (isOther : Local others) :
    Local (Pattern.orElse look here others) where
  leaves {text after value} ok := by
    cases found : look text with
    | none => exact isOther.leaves ((orElse_none found).symm.trans ok)
    | some first =>
      exact ((reads _).leaves ((orElse_some found).symm.trans ok)).trans (sharp.leaves found)
  stops {text tail after value} ok := by
    have longer := sharp.append text tail
    cases found : look text with
    | none =>
      rw [found] at longer
      exact (orElse_none found).trans (isOther.stops ((orElse_none longer).symm.trans ok))
    | some first =>
      rw [found] at longer
      exact (orElse_some found).trans ((reads _).stops ((orElse_some longer).symm.trans ok))
  grows text := by
    have longer := sharp.append text
    cases found : look text with
    | none =>
      simp only [found] at longer
      exact (isOther.grows text).of_eq (orElse_none found) fun tail _ => orElse_none (longer tail)
    | some first =>
      simp only [found] at longer
      exact ((reads first.1).grows first.2).of_eq (orElse_some found)
        fun tail _ => orElse_some (longer tail)

/-- A reader with a limit that is large enough for each text. -/
theorem of_limit (limited : Nat → List Char → Option (α × List Char))
    (each : ∀ most, Local (limited most))
    (enough : ∀ most text, text.length ≤ most → limited most text = limited text.length text) :
    Local fun text => limited text.length text where
  leaves ok := (each _).leaves ok
  stops {text tail after value} ok := by
    rw [← enough (text ++ ')' :: tail).length text (by simp)]
    exact (each _).stops ok
  grows text := by
    cases alone : limited text.length text with
    | none => exact .unread alone
    | some found =>
      obtain ⟨value, after⟩ := found
      by_cases isApart : ∀ tail, '\n' ∉ tail → limited (text ++ ')' :: tail).length
          (text ++ ')' :: tail) = some (value, after ++ ')' :: tail)
      · exact .apart alone isApart
      -- with a limit that is enough for both, what holds of one tail holds of the other
      push Not at isApart
      obtain ⟨tail₀, oneLine₀, notApart⟩ := isApart
      have swallowed (tail : List Char) (oneLine : '\n' ∉ tail) : after = [] ∧
          limited (text ++ ')' :: tail).length (text ++ ')' :: tail) = some (value, []) := by
        let most := (text ++ ')' :: tail).length + (text ++ ')' :: tail₀).length
        have here : limited most text = some (value, after) := by
          rw [enough most text (by simp [most]; omega), alone]
        have longer : limited most (text ++ ')' :: tail) = _ := enough _ _ (by simp [most])
        have longer₀ : limited most (text ++ ')' :: tail₀) = _ := enough _ _ (by simp [most])
        cases (each most).grows text with
        | unread unread => cases here.symm.trans unread
        | apart same apart =>
          cases here.symm.trans same
          exact absurd (longer₀.symm.trans (apart tail₀ oneLine₀)) notApart
        | comment same swallowed =>
          cases here.symm.trans same
          exact ⟨rfl, longer.symm.trans (swallowed tail oneLine)⟩
      obtain ⟨rfl, _⟩ := swallowed tail₀ oneLine₀
      exact .comment alone fun tail oneLine => (swallowed tail oneLine).2

end Local

/-! ## Blanks and comments -/

theorem skipSpaced_suffix (inComment : Bool) (text : List Char) :
    skipSpaced inComment text <:+ text := by
  induction text generalizing inComment with
  | nil => exact List.suffix_rfl
  | cons c rest ih =>
    rw [skipSpaced]
    split
    · exact (ih _).trans (List.suffix_cons c rest)
    · split
      · exact (ih _).trans (List.suffix_cons c rest)
      · split
        · exact (ih _).trans (List.suffix_cons c rest)
        · exact List.suffix_rfl

theorem skip_suffix (flags : Flags) (text : List Char) : flags.skip text <:+ text := by
  rw [Flags.skip]
  split
  · exact skipSpaced_suffix false text
  · exact List.suffix_rfl

/-- What counts is found alike, whatever follows. -/
theorem skipSpaced_append {inComment : Bool} {text : List Char}
    (counts : skipSpaced inComment text ≠ []) (more : List Char) :
    skipSpaced inComment (text ++ more) = skipSpaced inComment text ++ more := by
  induction text generalizing inComment with
  | nil => exact absurd rfl counts
  | cons c rest ih =>
    rw [skipSpaced] at counts
    rw [List.cons_append, skipSpaced, skipSpaced]
    split_ifs at counts ⊢
    · exact ih counts
    · exact ih counts
    · exact ih counts
    · rfl

theorem skip_append {flags : Flags} {text : List Char} (counts : flags.skip text ≠ [])
    (more : List Char) : flags.skip (text ++ more) = flags.skip text ++ more := by
  rw [Flags.skip] at counts
  rw [Flags.skip, Flags.skip]
  split_ifs at counts ⊢
  · exact skipSpaced_append counts more
  · rfl

/-- A comment ends with its line. -/
theorem skipSpaced_comment {text : List Char} (oneLine : '\n' ∉ text) :
    skipSpaced true text = [] := by
  induction text with
  | nil => rfl
  | cons c rest ih =>
    obtain ⟨notBreak, others⟩ := not_or.1 (mt List.mem_cons.2 oneLine)
    rw [skipSpaced, if_pos rfl, decide_eq_true (Ne.symm notBreak)]
    exact ih others

/-- Where nothing counts, what follows does, unless a comment is open. -/
theorem skipSpaced_cases {inComment : Bool} {text : List Char}
    (idle : skipSpaced inComment text = []) :
    (∀ tail, skipSpaced inComment (text ++ ')' :: tail) = ')' :: tail) ∨
    ∀ tail, skipSpaced inComment (text ++ ')' :: tail) = skipSpaced true tail := by
  induction text generalizing inComment with
  | nil =>
    cases inComment with
    | false => exact .inl fun tail => rfl
    | true => exact .inr fun tail => rfl
  | cons c rest ih =>
    rw [skipSpaced] at idle
    simp only [List.cons_append, skipSpaced]
    split_ifs at idle ⊢
    · exact ih idle
    · exact ih idle
    · exact ih idle

theorem skip_cases {flags : Flags} {text : List Char} (idle : flags.skip text = []) :
    (∀ tail, flags.skip (text ++ ')' :: tail) = ')' :: tail) ∨
    ∀ tail, flags.skip (text ++ ')' :: tail) = skipSpaced true tail := by
  unfold Flags.skip at idle ⊢
  split_ifs at idle ⊢
  · exact skipSpaced_cases idle
  · obtain rfl := idle
    exact .inl fun tail => rfl

theorem local_skip (flags : Flags) : Local fun text => some ((), flags.skip text) where
  leaves ok := by
    cases ok
    exact skip_suffix flags _
  stops {text tail after value} ok := by
    have same : flags.skip (text ++ ')' :: tail) = after ++ ')' :: tail :=
      congrArg Prod.snd (Option.some.inj ok)
    by_cases idle : flags.skip text = []
    · rcases skip_cases idle with apart | comment
      · obtain rfl : after = [] := by simpa using (same.symm.trans (apart tail))
        rw [idle]
      · rw [comment tail] at same
        exact absurd (same ▸ skipSpaced_suffix true tail) not_cons_suffix
    · rw [show flags.skip text = after from
        List.append_cancel_right ((skip_append idle _).symm.trans same)]
  grows text := by
    by_cases idle : flags.skip text = []
    · rcases skip_cases idle with apart | comment
      · refine .apart (congrArg _ (congrArg _ idle)) fun tail _ => ?_
        rw [apart tail, List.nil_append]
      · refine .comment (congrArg _ (congrArg _ idle)) fun tail oneLine => ?_
        rw [comment tail, skipSpaced_comment oneLine]
    · refine .apart rfl fun tail _ => ?_
      rw [skip_append idle]

/-- A reader for what counts. -/
theorem Local.afterSkip {read : List Char → Option (α × List Char)} (reads : Local read)
    (flags : Flags) : Local fun text => read (flags.skip text) :=
  (local_skip flags).bind fun _ => reads

/-! ## Names and numbers -/

section Gathering

variable {flags : Flags} {accepts : Char → Bool}

theorem gather_nil (most : Nat) : flags.gather accepts most [] = ([], []) := by
  cases most <;> rfl

theorem gather_cons (most : Nat) (c : Char) (rest : List Char) :
    flags.gather accepts (most + 1) (c :: rest) =
      if accepts c then (c :: (flags.gather accepts most (flags.skip rest)).1,
        (flags.gather accepts most (flags.skip rest)).2)
      else ([], c :: rest) := rfl

/-- Limits that a text does not reach make no difference. -/
theorem gather_congr {most other : Nat} {text : List Char} (enough : text.length ≤ most)
    (alsoEnough : text.length ≤ other) :
    flags.gather accepts most text = flags.gather accepts other text := by
  induction most generalizing text other with
  | zero =>
    obtain rfl := List.length_eq_zero_iff.1 (Nat.le_zero.1 enough)
    rw [gather_nil, gather_nil]
  | succ most ih =>
    cases text with
    | nil => rw [gather_nil, gather_nil]
    | cons c rest =>
      cases other with
      | zero => cases alsoEnough
      | succ other =>
        have shorter := (skip_suffix flags rest).length_le
        rw [List.length_cons] at enough alsoEnough
        rw [gather_cons, gather_cons, ih (by omega) (by omega : _ ≤ other)]

variable (flags accepts)

/-- Characters of a kind that a closing parenthesis is not of. -/
theorem local_gather (noParenthesis : accepts ')' = false) (most : Nat) :
    Local fun text => some (flags.gather accepts most text) := by
  induction most with
  | zero => exact .pure []
  | succ most ih =>
    have each (c : Char) := (ih.map (c :: ·)).afterSkip flags
    refine .head accepts noParenthesis each (.pure []) (fun c rest => ?_) rfl
    rw [gather_cons]
    split <;> rfl

/-- As many characters of such a kind as there are. -/
theorem local_gatherAll (noParenthesis : accepts ')' = false) :
    Local fun text => some (flags.gather accepts text.length text) :=
  .of_limit (fun most text => some (flags.gather accepts most text))
    (local_gather flags accepts noParenthesis)
    fun _ _ enough => congrArg some (gather_congr enough le_rfl)

/-- Characters with a closing brace behind them. -/
def braced? : List Char × List Char → Option (List Char × List Char)
  | (name, '}' :: rest) => some (name, rest)
  | _ => none

theorem braced?_eq_none {found : List Char × List Char}
    (unclosed : ∀ name rest, found = (name, '}' :: rest) → False) : braced? found = none := by
  rw [braced?]
  exact unclosed

theorem braced?_cons (name rest : List Char) (c : Char) :
    braced? (name, c :: rest) = if c = '}' then some (name, rest) else none := by
  by_cases isBrace : c = '}'
  · rw [isBrace]
    rfl
  · rw [if_neg isBrace]
    unfold braced?
    split
    next same =>
      cases same
      exact absurd rfl isBrace
    next => rfl

theorem braced?_more (name rest : List Char) (c : Char) :
    braced? (c :: name, rest) =
      (braced? (name, rest)).map fun found => (c :: found.1, found.2) := by
  cases rest with
  | nil => rfl
  | cons d rest =>
    rw [braced?_cons, braced?_cons]
    split <;> rfl

/-- Characters of a kind up to a closing brace. -/
theorem local_braced (most : Nat) :
    Local fun text => braced? (flags.gather accepts most text) := by
  have local_brace (c : Char) :
      Local fun rest => if c = '}' then some (([] : List Char), rest) else none :=
    .ite _ (.pure []) .none
  induction most with
  | zero => exact .cons local_brace (fun c rest => braced?_cons [] rest c) rfl
  | succ most ih =>
    have each (c : Char) := Local.ite (accepts c = true) ((ih.map (c :: ·)).afterSkip flags)
      (local_brace c)
    refine .cons each (fun c rest => ?_) rfl
    rw [gather_cons]
    split
    · exact braced?_more ..
    · exact braced?_cons ..

/-- The characters of a kind that stand in braces, after the opening one. -/
theorem local_inBraces : Local fun text =>
    braced? (flags.gather accepts text.length (flags.skip text)) := by
  refine .of_limit (fun most text => braced? (flags.gather accepts most (flags.skip text)))
    (fun most => (local_braced flags accepts most).afterSkip flags) fun most text enough => ?_
  have shorter := (skip_suffix flags text).length_le
  rw [gather_congr (shorter.trans enough) shorter]

end Gathering

theorem sharp_blanks : Sharp fun text => some ((), text.dropWhile Text.isBlank) where
  leaves ok := by
    cases ok
    exact List.dropWhile_suffix _
  append text tail := by
    have notBlank : Text.isBlank ')' = false := by decide
    rw [List.dropWhile_append]
    split
    next nothing =>
      rw [List.isEmpty_iff] at nothing
      simp [nothing, notBlank]
    next => rfl

/-- What stands before a sign and after it. -/
def cutAt? (sign : Char) (text : List Char) : Option (List Char × List Char) :=
  match text.dropWhile (· ≠ sign) with
  | _ :: rest => some (text.takeWhile (· ≠ sign), rest)
  | [] => none

theorem cutAt?_append {sign : Char} {front : List Char} (first : sign ∉ front) (back : List Char) :
    cutAt? sign (front ++ sign :: back) = some (front, back) := by
  have others : ∀ c ∈ front, decide (c ≠ sign) = true := fun c member =>
    decide_eq_true (ne_of_mem_of_not_mem member first)
  rw [cutAt?, List.dropWhile_append_of_pos others, List.takeWhile_append_of_pos others]
  simp

theorem cutAt?_eq_none {sign : Char} {text : List Char} (missing : sign ∉ text) :
    cutAt? sign text = none := by
  have others : ∀ c ∈ text, decide (c ≠ sign) = true := fun c member =>
    decide_eq_true (ne_of_mem_of_not_mem member missing)
  rw [cutAt?, ← List.append_nil text, List.dropWhile_append_of_pos others]
  rfl

theorem local_cutAt? {sign : Char} (noParenthesis : sign ≠ ')') : Local (cutAt? sign) where
  leaves {text after value} ok := by
    by_cases member : sign ∈ text
    · obtain ⟨front, back, rfl, first⟩ := List.eq_append_cons_of_mem member
      cases (cutAt?_append first back).symm.trans ok
      exact ⟨value ++ [sign], by simp⟩
    · cases (cutAt?_eq_none member).symm.trans ok
  stops {text tail after value} ok := by
    by_cases member : sign ∈ text
    · obtain ⟨front, back, rfl, first⟩ := List.eq_append_cons_of_mem member
      rw [List.append_assoc, List.cons_append, cutAt?_append first] at ok
      obtain ⟨rfl, same⟩ := Prod.mk.inj (Option.some.inj ok)
      rw [cutAt?_append first, List.append_cancel_right same]
    -- cut in the tail, the text would leave less than what stands behind the parenthesis
    by_cases inTail : sign ∈ tail
    · obtain ⟨front, back, rfl, first⟩ := List.eq_append_cons_of_mem inTail
      have further : sign ∉ text ++ ')' :: front := by simp [member, first, noParenthesis]
      rw [← List.cons_append, ← List.append_assoc, cutAt?_append further] at ok
      have same : back = after ++ ')' :: (front ++ sign :: back) :=
        congrArg Prod.snd (Option.some.inj ok)
      have sameLength := congrArg List.length same
      simp only [List.length_append, List.length_cons] at sameLength
      omega
    · rw [cutAt?_eq_none (by simp [member, inTail, noParenthesis])] at ok
      cases ok
  grows text := by
    by_cases member : sign ∈ text
    · obtain ⟨front, back, rfl, first⟩ := List.eq_append_cons_of_mem member
      refine .apart (cutAt?_append first back) fun tail _ => ?_
      rw [List.append_assoc, List.cons_append, cutAt?_append first]
    · exact .unread (cutAt?_eq_none member)

end AdapterWiring.Pattern
