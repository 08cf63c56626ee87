import AdapterWiring.Proofs.Pattern.Locality

/-!
# What each part of a pattern is read from

Every part of a pattern is read locally: a class up to its bracket, a group up to
what stands after its parenthesis, a repetition up to its sign. So is a step of
the machine.

* **local_count?, local_escape?, local_open?, local_class?** — the readers of the
  parts.
* **Reader.next?, local_next?** — a step, after what does not count.
-/

namespace AdapterWiring.Pattern

/-! ## Counts -/

/-- The number that digits write. -/
def valueOf (digits : List Char) : Nat :=
  digits.foldl (fun value c => 10 * value + (c.toNat - '0'.toNat)) 0

theorem local_number? (flags : Flags) : Local (number? flags) := by
  have afterDigits (digits : List Char) : Local fun text =>
      if digits.isEmpty ∨ 0xFFFFFFFF < valueOf digits then none
      else some (valueOf digits, text.dropWhile Text.isBlank) :=
    .ite _ .none (sharp_blanks.toLocal.map fun _ => valueOf digits)
  have digits : Local fun text => some (flags.gather Char.isDigit text.length text) :=
    local_gatherAll flags _ (by decide)
  exact sharp_blanks.toLocal.bind fun _ => digits.bind afterDigits

theorem count?_eq (flags : Flags) : count? flags = fun text =>
    (number? flags (flags.skip text)).bind fun first =>
      onSign '}' (fun rest => some ((first.1, some first.1), rest))
        (onSign ',' (fun after =>
          onSign '}' (fun rest => some ((first.1, none), rest))
            (fun after => (number? flags after).bind fun second =>
              onSign '}' (fun rest =>
                  if first.1 ≤ second.1 then some ((first.1, some second.1), rest) else none)
                (fun _ => none) second.2)
            (flags.skip after)) fun _ => none) first.2 := by
  funext text
  unfold count?
  refine congrArg _ (funext fun ⟨least, rest⟩ => ?_)
  dsimp only
  split
  next same =>
    cases same
    rw [onSign_self]
    rfl
  next same =>
    cases same
    rw [onSign_other (by simp), onSign_self]
    split
    next same =>
      rw [same, onSign_self]
      rfl
    next notBrace =>
      rw [onSign_other notBrace]
      refine congrArg _ (funext fun ⟨most, rest⟩ => ?_)
      dsimp only
      split
      next same =>
        cases same
        rw [onSign_self]
        rfl
      next notBrace =>
        rw [onSign_other fun _ same => notBrace most _ (congrArg (Prod.mk most) same)]
  next notBrace notComma =>
    rw [onSign_other fun _ same => notBrace least _ (congrArg (Prod.mk least) same),
      onSign_other fun _ same => notComma least _ (congrArg (Prod.mk least) same)]

theorem local_count? (flags : Flags) : Local (count? flags) := by
  rw [count?_eq]
  have noParenthesis : '}' ≠ ')' := by decide
  have upper (least : Nat) := (local_number? flags).bind fun most =>
    Local.onSign noParenthesis (.ite (least ≤ most) (.pure (least, some most)) .none) .none
  have afterComma (least : Nat) :=
    (Local.onSign noParenthesis (.pure (least, none)) (upper least)).afterSkip flags
  have afterLeast (least : Nat) := Local.onSign noParenthesis (.pure (least, some least))
    (Local.onSign (by decide : ',' ≠ ')') (afterComma least) .none)
  exact ((local_number? flags).afterSkip flags).bind afterLeast

/-! ## Escapes -/

section Escapes

variable (flags : Flags)

/-- The character of hexadecimal digits. -/
def hexChar? (width : Nat) (text : List Char) : Option (Escape × List Char) :=
  onSign '{' (fun inner =>
      (braced? (flags.gather (· ≠ '}') inner.length (flags.skip inner))).bind fun found =>
        ((Text.charOfHex? found.1).map Escape.char).map (·, found.2))
    (fun inner => (some (flags.gather (fun c => (Text.hexDigit? c).isSome) width inner)).bind
      fun found => (if found.1.length = width then (Text.charOfHex? found.1).bind fun value =>
        if flags.unicode || width ≠ 2 || value.toNat < 128 then some (Escape.char value) else none
      else none).map (·, found.2)) (flags.skip text)

theorem hex?_eq (width : Nat) (text : List Char) :
    ((hex? flags width text).bind fun found =>
        if isByteAllowed flags width text found.1 then some (Escape.char found.1, found.2)
        else none) = hexChar? flags width text := by
  unfold hex? isByteAllowed hexChar?
  generalize flags.skip text = inner
  split
  next inner =>
    rw [onSign_self]
    generalize flags.gather _ _ _ = found
    split
    next digits rest => cases value : Text.charOfHex? digits <;> simp [braced?, value]
    next notBraced => rw [braced?_eq_none notBraced]; rfl
  next notBrace =>
    rw [onSign_other fun rest same => notBrace rest same]
    have noBrace : inner.head? ≠ some '{' := by
      intro same
      obtain ⟨rest, rfl⟩ := List.head?_eq_some_iff.1 same
      exact notBrace rest rfl
    generalize flags.gather _ _ _ = found
    by_cases full : found.1.length = width
    · cases value : Text.charOfHex? found.1 with
      | none => simp [full, value]
      | some value => simp [full, value, noBrace]
    · simp [full]

theorem local_hexChar? (width : Nat) : Local (hexChar? flags width) := by
  have inBraces := (local_inBraces flags (· ≠ '}')).choose fun digits =>
    (Text.charOfHex? digits).map Escape.char
  have digits := (local_gather flags (fun c => (Text.hexDigit? c).isSome) (by decide) width).choose
    fun digits => if digits.length = width then (Text.charOfHex? digits).bind fun value =>
      if flags.unicode || width ≠ 2 || value.toNat < 128 then some (Escape.char value) else none
    else none
  exact (Local.onSign (by decide) inBraces digits).afterSkip flags

theorem property?_eq : property? flags = fun text =>
    onSign '{' (fun inner =>
        (braced? (flags.gather (· ≠ '}') inner.length (flags.skip inner))).bind fun found =>
          (Property.ofText? found.1).map (·, found.2))
      (fun text => match text with
        | c :: rest => (Property.ofText? [c]).map (·, rest)
        | [] => none) (flags.skip text) := by
  funext text
  unfold property?
  generalize flags.skip text = inner
  split
  next inner =>
    rw [onSign_self]
    generalize flags.gather _ _ _ = found
    split
    next => rfl
    next notBraced => rw [braced?_eq_none notBraced]; rfl
  next c rest notBrace =>
    rw [onSign_other fun _ same => notBrace (List.cons.inj same).1]
  next => rfl

theorem local_property? : Local (property? flags) := by
  rw [property?_eq]
  have inBraces := (local_inBraces flags (· ≠ '}')).choose Property.ofText?
  have letter : Local fun text => match text with
      | c :: rest => (Property.ofText? [c]).map (·, rest)
      | [] => none :=
    .cons (fun c => (Local.pure c).choose fun c => Property.ofText? [c]) (fun _ _ => rfl) rfl
  exact (Local.onSign (by decide) inBraces letter).afterSkip flags

/-- Whether a text has an opening brace and, after what does not count, a character of the name of a
condition. -/
def namesBoundary (flags : Flags) : List Char → Bool
  | '{' :: inner => (flags.skip inner).head?.any isBoundaryNameChar
  | _ => false

theorem boundary?_eq : boundary? flags = fun text =>
    if namesBoundary flags text = true then
      onSign '{' (fun inner => (braced? (flags.gather isBoundaryNameChar inner.length
          (flags.skip inner))).bind fun found =>
        (namedBoundary? flags.wordKind (String.ofList found.1)).map (·, found.2))
        (fun _ => none) text
    else some (.boundary flags.wordKind, text) := by
  funext text
  unfold boundary?
  split
  next inner =>
    rw [onSign_self, namesBoundary]
    have shorter := (skip_suffix flags inner).length_le
    cases counts : flags.skip inner with
    | nil => simp [gather_nil]
    | cons c more =>
      rw [counts, List.length_cons] at shorter
      obtain ⟨most, same⟩ := Nat.exists_eq_add_of_le' (Nat.zero_lt_of_lt shorter)
      rw [same, gather_cons, List.head?_cons, Option.any_some]
      by_cases accepted : isBoundaryNameChar c = true
      · rw [if_pos accepted, if_pos accepted]
        split
        next isEmpty => cases isEmpty
        next named => rw [named]; rfl
        next notBraced => rw [braced?_eq_none notBraced]; rfl
      · rw [if_neg accepted, if_neg accepted]
  next notBrace =>
    rw [if_neg]
    unfold namesBoundary
    split
    next => exact absurd rfl (notBrace _)
    next => exact Bool.false_ne_true

theorem namesBoundary_append {text : List Char}
    (counts : ∀ inner, text = '{' :: inner → flags.skip inner ≠ []) (tail : List Char) :
    namesBoundary flags (text ++ ')' :: tail) = namesBoundary flags text := by
  cases text with
  | nil => rfl
  | cons c inner =>
    by_cases isBrace : c = '{'
    · subst isBrace
      have here := counts inner rfl
      obtain ⟨first, more, split⟩ := List.exists_cons_of_ne_nil here
      simp only [List.cons_append, namesBoundary, skip_append here, split, List.head?_cons]
    · rw [List.cons_append, namesBoundary, namesBoundary]
      all_goals exact fun _ same => isBrace (List.cons.inj same).1

theorem local_boundary? : Local (boundary? flags) := by
  rw [boundary?_eq]
  have inBraces := (local_inBraces flags isBoundaryNameChar).choose fun name =>
    namedBoundary? flags.wordKind (String.ofList name)
  refine .lookahead (Local.onSign (by decide) inBraces .none)
    (.pure (Assertion.boundary flags.wordKind)) (fun text tail here => ?_)
    (fun text tail found longer read => ?_) fun text tail oneLine longer => ?_
  · rw [namesBoundary_append, here]
    rintro inner rfl idle
    simp [namesBoundary, idle] at here
  · rw [namesBoundary_append] at longer
    · exact longer
    rintro inner rfl idle
    simp [onSign_self, idle, gather_nil, braced?] at read
  · rw [namesBoundary_append] at longer
    · exact longer
    rintro inner rfl idle
    rw [List.cons_append, namesBoundary] at longer
    rcases skip_cases idle with apart | comment
    · rw [apart, List.head?_cons, Option.any_some] at longer
      exact absurd longer (by decide)
    · rw [comment, skipSpaced_comment oneLine] at longer
      cases longer

/-- A set or its complement, and nothing read. -/
theorem local_negated (on : Bool) (set : CharSet) : Local fun rest =>
    (flags.negate? on set).bind fun set => some (Escape.set set, rest) := by
  cases flags.negate? on set with
  | none => exact .none
  | some set => exact .pure (Escape.set set)

/-- The sets that have a letter. -/
theorem local_shorthand (c : Char) (set : CharSet) (name : String) : Local fun rest =>
    (if flags.unicode then some set else CharSet.ascii? name).bind fun set =>
      (flags.negate? c.isUpper set).bind fun set => some (Escape.set set, rest) := by
  cases if flags.unicode then some set else CharSet.ascii? name with
  | none => exact .none
  | some set => exact local_negated flags c.isUpper set

/-- The signs and letters that stand for a condition or a character. -/
theorem local_single (c : Char) : Local fun rest =>
    if let some condition := condition? flags.wordKind c then
      some (Escape.assertion condition, rest)
    else if let some value := control? c then some (.char value, rest)
    else if isPlainEscape c then some (.char c, rest)
    else none := by
  cases condition? flags.wordKind c with
  | some condition => exact .pure (Escape.assertion condition)
  | none =>
    cases control? c with
    | some value => exact .pure (Escape.char value)
    | none => exact .ite _ (.pure (Escape.char c)) .none

theorem local_escape? : Local (escape? flags) := by
  have behind (c : Char) : Local fun rest => escape? flags (c :: rest) := by
    cases isHex : hexWidth? c with
    | some width =>
      have same : (fun rest => escape? flags (c :: rest)) = hexChar? flags width := by
        funext rest
        rw [← hex?_eq]
        simp only [escape?, isHex]
        rfl
      exact same ▸ local_hexChar? flags width
    | none =>
      cases isShorthand : shorthand? c with
      | some found =>
        have same : (fun rest => escape? flags (c :: rest)) = fun rest =>
            (if flags.unicode then some found.1 else CharSet.ascii? found.2).bind fun set =>
              (flags.negate? c.isUpper set).bind fun set => some (Escape.set set, rest) := by
          funext rest
          simp only [escape?, isHex, isShorthand]
          split <;> rfl
        exact same ▸ local_shorthand flags c found.1 found.2
      | none =>
        have property := (local_property? flags).bind fun set =>
          local_negated flags (c = 'P') (flags.fold set)
        have boundary := (local_boundary? flags).map Escape.assertion
        simp only [escape?, isHex, isShorthand]
        exact .ite _ (.ite _ property .none) (.ite _ boundary (local_single flags c))
  exact .cons behind (fun _ _ => rfl) rfl

end Escapes

/-! ## Groups -/

section Groups

variable {flags : Flags} {seen : List Char} {text : List Char} {found : Flags × Char}
  {after : List Char}

theorem change?_suffix {sign : Char} {changed : Flags}
    (ok : flags.change? seen text = some (changed, sign, after)) : after <:+ text := by
  induction text generalizing seen flags with
  | nil => cases ok
  | cons c rest ih =>
    rw [Flags.change?] at ok
    split_ifs at ok
    · cases ok
      exact List.suffix_cons _ _
    · exact (ih ok).trans (List.suffix_cons c rest)
    · obtain ⟨next, _, later⟩ := Option.bind_eq_some_iff.1 ok
      exact (ih later).trans (List.suffix_cons c rest)

theorem change?_append {sign : Char} {changed : Flags}
    (ok : flags.change? seen text = some (changed, sign, after)) (more : List Char) :
    flags.change? seen (text ++ more) = some (changed, sign, after ++ more) := by
  induction text generalizing seen flags with
  | nil => cases ok
  | cons c rest ih =>
    rw [Flags.change?] at ok
    rw [List.cons_append, Flags.change?]
    split_ifs at ok ⊢
    · cases ok
      rfl
    · exact ih ok
    · obtain ⟨next, isNext, later⟩ := Option.bind_eq_some_iff.1 ok
      exact Option.bind_eq_some_iff.2 ⟨next, isNext, ih later⟩

theorem change?_stops {sign : Char} {changed : Flags} {tail : List Char}
    (ok : flags.change? seen (text ++ ')' :: tail) = some (changed, sign, after ++ ')' :: tail)) :
    flags.change? seen text = some (changed, sign, after) := by
  induction text generalizing seen flags with
  | nil =>
    rw [List.nil_append, Flags.change?, if_pos (.inr rfl)] at ok
    split_ifs at ok
    have same : tail = after ++ ')' :: tail := congrArg (·.2.2) (Option.some.inj ok)
    exact absurd ⟨[], same.symm⟩ not_cons_suffix
  | cons c rest ih =>
    rw [List.cons_append, Flags.change?] at ok
    rw [Flags.change?]
    split_ifs at ok ⊢
    · obtain ⟨rfl, rest⟩ := Prod.mk.inj (Option.some.inj ok)
      obtain ⟨rfl, same⟩ := Prod.mk.inj rest
      rw [List.append_cancel_right same]
    · exact ih ok
    · obtain ⟨next, isNext, later⟩ := Option.bind_eq_some_iff.1 ok
      exact Option.bind_eq_some_iff.2 ⟨next, isNext, ih later⟩

/-- The flags of a group and the sign behind them. -/
def changed? (flags : Flags) (seen text : List Char) : Option ((Flags × Char) × List Char) :=
  (flags.change? seen text).map fun found => ((found.1, found.2.1), found.2.2)

theorem changed?_eq_some_iff :
    changed? flags seen text = some (found, after) ↔
      flags.change? seen text = some (found.1, found.2, after) := by
  rw [changed?, Option.map_eq_some_iff]
  constructor
  · rintro ⟨_, ok, same⟩
    cases same
    exact ok
  · exact fun ok => ⟨_, ok, rfl⟩

theorem changed?_cons {c : Char} (notEnd : c ≠ ')') (rest : List Char) :
    changed? flags [] (c :: rest) =
      if c = ':' then some ((flags, c), rest)
      else if c = '-' then changed? flags [c] rest
      else (flags.set? true c).bind fun next => changed? next [c] rest := by
  unfold changed?
  rw [Flags.change?]
  by_cases isColon : c = ':'
  · simp [isColon]
  by_cases isHyphen : c = '-'
  · simp [isHyphen]
  · simp only [isColon, notEnd, isHyphen, or_self, if_false, List.contains_nil, Bool.not_false,
      Bool.false_eq_true, Option.map_bind, Function.comp_def]

theorem local_changed? (flags : Flags) (seen : List Char) : Local (changed? flags seen) where
  leaves ok := change?_suffix (changed?_eq_some_iff.1 ok)
  stops ok := changed?_eq_some_iff.2 (change?_stops (changed?_eq_some_iff.1 ok))
  grows text := by
    cases alone : changed? flags seen text with
    | none => exact .unread alone
    | some found =>
      exact .apart alone fun tail _ =>
        changed?_eq_some_iff.2 (change?_append (changed?_eq_some_iff.1 alone) _)

/-- The name that characters make, if they do. -/
def nameOf? : List Char → Option String
  | first :: more =>
    if isNameStart first && more.all isNamePart then some (String.ofList (first :: more)) else none
  | [] => none

theorem groupName?_eq : groupName? = fun text =>
    (cutAt? '>' text).bind fun found => (nameOf? found.1).map (·, found.2) := by
  funext text
  unfold groupName? cutAt?
  split
  next starts ends =>
    rw [starts, ends]
    dsimp only [Option.bind_some, nameOf?]
    split <;> rfl
  next neither =>
    split
    next sign rest ends =>
      cases starts : text.takeWhile (· ≠ '>') with
      | nil => rfl
      | cons first more => exact absurd ends (neither first more sign rest starts)
    next => rfl

theorem local_groupName? : Local groupName? := by
  rw [groupName?_eq]
  exact (local_cutAt? (by decide : '>' ≠ ')')).choose nameOf?

namespace Reader

variable (reader : Reader)

/-- The start of a group in which some flags are in force or, without a colon behind them, these
flags in force for what follows. -/
def flagged (found : Flags × Char) : Reader :=
  if found.2 = ':' then reader.enter found.1 none
  else { reader with flags := found.1 }.add .empty

/-- A group that has a name, after the sign before it. -/
def named? (text : List Char) : Option (Reader × List Char) :=
  (groupName? text).bind fun found => (reader.captureNamed? found.1).map (·, found.2)

/-- Flags, of which there must be some, and the group that they are for. -/
def flagged? : List Char → Option (Reader × List Char)
  | [] => none
  | c :: rest =>
    if c = ')' then none
    else (changed? reader.flags [] (c :: rest)).map fun found => (reader.flagged found.1, found.2)

theorem flagged_eq (flags : Flags) (sign : Char) (after : List Char) :
    some (reader.flagged (flags, sign), after) =
      match (flags, sign, after) with
      | (flags, ':', after) => some (reader.enter flags none, after)
      | (flags, _, after) => some ({ reader with flags := flags }.add .empty, after) := by
  rw [flagged]
  split
  next isColon =>
    obtain rfl : sign = ':' := isColon
    rfl
  next notColon =>
    split
    next same => exact absurd (congrArg (·.2.1) same) notColon
    next same => cases same; rfl

theorem open?_eq : reader.open? = fun text =>
    onSign '?'
      (onSign 'P' (onSign '<' reader.named? fun _ => none)
        (onSign '<' reader.named? reader.flagged?))
      (fun rest => some (reader.capture, rest)) (reader.flags.skip text) := by
  funext text
  unfold open?
  generalize reader.flags.skip text = inner
  split
  next rest =>
    rw [onSign_self, onSign_self, onSign_self, named?]
    simp only [Option.map_eq_bind]
    rfl
  next rest =>
    rw [onSign_self, onSign_other (by simp), onSign_self, named?]
    simp only [Option.map_eq_bind]
    rfl
  next rest => rw [onSign_self, onSign_other (by simp), onSign_other (by simp)]; rfl
  next rest notNamed notNamedAlso notEmpty =>
    rw [onSign_self]
    -- the letter is no flag, so it needs the sign of a name behind it
    by_cases isP : ∃ more, rest = 'P' :: more
    · obtain ⟨more, rfl⟩ := isP
      rw [onSign_self, onSign_other fun _ same => notNamed _ (congrArg _ same)]
      rfl
    rw [onSign_other fun more same => isP ⟨more, same⟩, onSign_other notNamedAlso]
    cases rest with
    | nil => rfl
    | cons c rest =>
      have notEnd : c ≠ ')' := fun isEnd => notEmpty rest (congrArg (· :: rest) isEnd)
      rw [flagged?, if_neg notEnd, changed?, Option.map_map, Option.map_eq_bind]
      exact congrArg _ (funext fun found => (flagged_eq reader ..).symm)
  next notSign => rw [onSign_other notSign]

theorem local_flagged? : Local reader.flagged? := by
  have behind (c : Char) : Local fun rest => reader.flagged? (c :: rest) := by
    by_cases isEnd : c = ')'
    · simp only [flagged?, isEnd, if_true]
      exact .none
    have letter : Local fun rest =>
        (reader.flags.set? true c).bind fun next => changed? next [c] rest := by
      cases reader.flags.set? true c with
      | none => exact .none
      | some next => exact local_changed? next [c]
    simp only [flagged?, if_neg isEnd, changed?_cons isEnd]
    exact (Local.ite _ (.pure (reader.flags, c)) (.ite _ (local_changed? _ [c]) letter)).map
      reader.flagged
  exact .cons behind (fun _ _ => rfl) rfl

theorem local_open? : Local reader.open? := by
  rw [open?_eq]
  have named : Local reader.named? := local_groupName?.choose reader.captureNamed?
  have flagged := local_flagged? reader
  refine (Local.onSign (by decide) ?_ (.pure reader.capture)).afterSkip reader.flags
  exact .onSign (by decide) (.onSign (by decide) named .none) (.onSign (by decide) named flagged)

end Reader

end Groups

/-! ## Classes -/

section Classes

variable (flags : Flags)

/-- A sign that stands twice. -/
theorem sharp_twice {sign : Char} (noParenthesis : sign ≠ ')') (operator : ClassOperator)
    {other : List Char → Option (ClassOperator × List Char)} (others : Sharp other) :
    Sharp (onSign sign (onSign sign (fun rest => some (operator, rest)) fun _ => none) other) :=
  .onSign noParenthesis (.onSign noParenthesis (.fixed (some operator)) .none) others

theorem operator_eq : ClassOperator.read? =
    onSign '&' (onSign '&' (fun rest => some (.inter, rest)) fun _ => none)
      (onSign '-' (onSign '-' (fun rest => some (.diff, rest)) fun _ => none)
        (onSign '~' (onSign '~' (fun rest => some (.symmDiff, rest)) fun _ => none)
          fun _ => none)) := by
  funext text
  match text with
  | [] => rfl
  | [c] => simp [onSign, ClassOperator.read?]
  | c :: d :: rest =>
    unfold ClassOperator.read?
    split
    next same => cases same; rfl
    next same => cases same; rfl
    next same => cases same; rfl
    next notInter notDiff notSymmDiff =>
      simp only [onSign]
      split_ifs <;> simp_all

theorem sharp_operator : Sharp ClassOperator.read? := by
  rw [operator_eq]
  exact sharp_twice (by decide) _ (sharp_twice (by decide) _ (sharp_twice (by decide) _ .none))

/-- No named set has a parenthesis in its name. -/
theorem ascii?_eq_none {name : String} (odd : ')' ∈ name.toList) : CharSet.ascii? name = none := by
  fun_cases CharSet.ascii? name
  all_goals first | rfl | exact absurd odd (by decide)

/-- The set that a name in a class stands for, and whether the complement is meant. -/
def asciiOf? : List Char → Option (Bool × CharSet)
  | '^' :: name => (CharSet.ascii? (String.ofList name)).map (true, ·)
  | name => (CharSet.ascii? (String.ofList name)).map (false, ·)

theorem asciiOf?_eq_none {name : List Char} (odd : ')' ∈ name) : asciiOf? name = none := by
  unfold asciiOf?
  split
  next name =>
    have inName : ')' ∈ name := by simpa using odd
    rw [ascii?_eq_none (by simpa using inName), Option.map_none]
  next => rw [ascii?_eq_none (by simpa using odd), Option.map_none]

/-- The set whose name stands before a colon and a bracket. -/
def named? (inner : List Char) : Option ((Bool × CharSet) × List Char) :=
  (cutAt? ':' inner).bind fun found =>
    onSign ']' (fun rest => (asciiOf? found.1).map (·, rest)) (fun _ => none) found.2

theorem namedClass?_eq : namedClass? = onSign ':' named? fun _ => none := by
  funext text
  unfold namedClass?
  split
  next inner =>
    rw [onSign_self, named?, cutAt?]
    generalize inner.takeWhile (· ≠ ':') = name
    dsimp only
    split
    next rest ends =>
      simp only [ends, Option.bind_some, onSign_self]
      split
      next name => rw [asciiOf?, Option.map_map]; rfl
      next name notNegated => rw [asciiOf?, Option.map_map]; exacts [rfl, notNegated]
    next other =>
      cases ends : inner.dropWhile (· ≠ ':') with
      | nil => rfl
      | cons sign rest =>
        have notOther := List.head?_dropWhile_not (· ≠ ':') inner
        rw [ends] at notOther
        obtain rfl : sign = ':' := by simpa using notOther
        dsimp only [Option.bind_some]
        rw [onSign_other fun more same => other more (same ▸ ends)]
  next notSign => rw [onSign_other notSign]

theorem sharp_named? : Sharp named? := by
  have closing (name : List Char) :
      Sharp (onSign ']' (fun rest => (asciiOf? name).map (·, rest)) fun _ => none) :=
    .onSign (by decide) (.fixed _) .none
  constructor
  · intro text after found ok
    obtain ⟨cut, isCut, later⟩ := Option.bind_eq_some_iff.1 ok
    exact ((closing cut.1).leaves later).trans ((local_cutAt? (by decide)).leaves isCut)
  · intro text tail
    by_cases member : ':' ∈ text
    · obtain ⟨front, back, rfl, first⟩ := List.eq_append_cons_of_mem member
      rw [named?, named?, List.append_assoc, List.cons_append, cutAt?_append first,
        cutAt?_append first]
      exact (closing front).append back tail
    · have alone : named? text = none := by rw [named?, cutAt?_eq_none member]; rfl
      rw [alone]
      by_cases inTail : ':' ∈ tail
      · obtain ⟨front, back, rfl, first⟩ := List.eq_append_cons_of_mem inTail
        have further : ':' ∉ text ++ ')' :: front := by simp [member, first]
        rw [named?, ← List.cons_append, ← List.append_assoc, cutAt?_append further]
        dsimp only [Option.bind_some]
        rw [asciiOf?_eq_none (by simp)]
        cases back with
        | nil => rfl
        | cons c back => rw [onSign]; split <;> rfl
      · rw [named?, cutAt?_eq_none (by simp [member, inTail])]
        rfl

theorem sharp_namedClass? : Sharp namedClass? := by
  rw [namedClass?_eq]
  exact .onSign (by decide) sharp_named? .none

/-- Whether a class starts with a complement sign, and what follows it. -/
def complement (text : List Char) : Bool × List Char :=
  match flags.skip text with
  | '^' :: rest => (true, flags.skip rest)
  | other => (false, other)

theorem local_complement : Local fun text => some (complement flags text) := by
  have same : (fun text => some (complement flags text)) = fun text =>
      onSign '^' (fun rest => some (true, flags.skip rest)) (fun rest => some (false, rest))
        (flags.skip text) := by
    funext text
    unfold complement
    split
    next same => rw [same, onSign_self]
    next notSign => rw [onSign_other notSign]
  rw [same]
  exact (Local.onSign (by decide) ((local_skip flags).map fun _ => true)
    (.pure false)).afterSkip flags

/-- The class with the characters that stand for themselves at its start. -/
def leading (most : Nat) (frame : ClassFrame) (text : List Char) : ClassFrame × List Char :=
  match flags.gather (· = '-') most text with
  | ([], ']' :: rest) => (frame.add ⟨.single ']', 0⟩, rest)
  | (hyphens, rest) => (hyphens.foldl (fun frame c => frame.add ⟨.single c, 0⟩) frame, rest)

theorem local_leading (most : Nat) (frame : ClassFrame) :
    Local fun text => some (leading flags most frame text) := by
  have bracket : Local (onSign ']' (fun rest => some (frame.add ⟨.single ']', 0⟩, rest))
      fun rest => some (frame, rest)) := .onSign (by decide) (.pure _) (.pure frame)
  have hyphens := (local_gather flags (· = '-') (by decide) most).bind fun hyphens =>
    .ite (hyphens = []) bracket
      (.pure (hyphens.foldl (fun frame c => frame.add ⟨.single c, 0⟩) frame))
  convert hyphens using 2 with text
  rw [leading, Option.bind_some]
  split
  next rest same => rw [same, if_pos rfl, onSign_self]
  next hyphens rest other same =>
    rw [same]
    dsimp only
    split
    next none =>
      subst none
      rw [onSign_other fun more => other more rfl]
      rfl
    next => rfl

theorem openClass_eq (most : Nat) (text : List Char) :
    openClass flags most text =
      leading flags most (.start (complement flags text).1) (complement flags text).2 := rfl

theorem local_openClass (most : Nat) : Local fun text => some (openClass flags most text) :=
  (local_complement flags).bind fun negated => local_leading flags most (.start negated)

theorem openClass_congr {most other : Nat} {text : List Char} (enough : text.length ≤ most)
    (alsoEnough : text.length ≤ other) :
    openClass flags most text = openClass flags other text := by
  have shorter : (complement flags text).2.length ≤ text.length :=
    ((local_complement flags).leaves rfl).length_le
  rw [openClass_eq, openClass_eq, leading, leading,
    gather_congr (shorter.trans enough) (shorter.trans alsoEnough)]

/-- What stands behind the first character of an end of a range. -/
theorem local_behindAtom (c : Char) : Local fun rest => classAtom? flags (c :: rest) := by
  by_cases isEscape : c = '\\'
  · subst isEscape
    exact local_escape? flags
  · have same : (fun rest => classAtom? flags (c :: rest)) =
        fun rest => some (Escape.char c, rest) := by
      funext rest
      unfold classAtom?
      split
      next same => cases same
      next same => exact absurd (List.cons.inj same).1 isEscape
      next same => cases same; rfl
    exact same ▸ .pure (Escape.char c)

theorem local_classAtom? : Local (classAtom? flags) :=
  .cons (local_behindAtom flags) (fun _ _ => rfl) rfl

/-- Whether the hyphen before a text makes no range. -/
def endsRange (text : List Char) : Bool :=
  afterHyphen flags text = some ']' ∨ afterHyphen flags text = some '-'

theorem dropBlanks_append (text tail : List Char) :
    (text ++ ')' :: tail).dropWhile Text.isBlank = text.dropWhile Text.isBlank ++ ')' :: tail :=
  congrArg Prod.snd (Option.some.inj (sharp_blanks.append text tail))

/-- What follows blanks and one number sign. -/
def overlook (text : List Char) : List Char :=
  if (text.dropWhile Text.isBlank).head? = some '#' then
    (text.dropWhile Text.isBlank).tail.dropWhile Text.isBlank
  else text.dropWhile Text.isBlank

theorem afterHyphen_eq (text : List Char) : afterHyphen flags text =
    if !flags.spaced then text.head? else (overlook text).head?.or text.head? := rfl

theorem overlook_append (text tail : List Char) :
    overlook (text ++ ')' :: tail) = overlook text ++ ')' :: tail := by
  rw [overlook, overlook, dropBlanks_append]
  cases text.dropWhile Text.isBlank with
  | nil => rfl
  | cons c rest =>
    rw [List.cons_append, List.head?_cons, List.head?_cons]
    split
    · exact dropBlanks_append rest tail
    · rfl

/-- Only blanks and a number sign are overlooked. -/
theorem head?_of_overlook {text : List Char} (all : overlook text = []) :
    ∀ c ∈ text.head?, Text.isBlank c = true ∨ c = '#' := by
  intro c isHead
  obtain ⟨rest, rfl⟩ := List.head?_eq_some_iff.1 isHead
  by_cases isBlank : Text.isBlank c = true
  · exact .inl isBlank
  · rw [overlook, List.dropWhile_cons_of_neg isBlank] at all
    split at all
    next isSign => exact .inr (Option.some.inj isSign)
    next => cases all

theorem endsRange_append (text tail : List Char) :
    endsRange flags (text ++ ')' :: tail) = endsRange flags text := by
  unfold endsRange
  rw [afterHyphen_eq, afterHyphen_eq]
  cases flags.spaced with
  | false => cases text <;> simp
  | true =>
    rw [overlook_append]
    cases all : overlook text with
    | cons c rest => simp
    | nil =>
      have head := head?_of_overlook all
      have notBracket : text.head? ≠ some ']' := fun is => absurd (head _ is) (by decide)
      have notHyphen : text.head? ≠ some '-' := fun is => absurd (head _ is) (by decide)
      simp [notBracket, notHyphen]

/-- Whether what counts of a text starts with the hyphen of a range. -/
def makesRange (text : List Char) : Bool :=
  match flags.skip text with
  | '-' :: rest => !endsRange flags rest
  | _ => false

theorem makesRange_append {text : List Char} (counts : flags.skip text ≠ []) (tail : List Char) :
    makesRange flags (text ++ ')' :: tail) = makesRange flags text := by
  unfold makesRange
  rw [skip_append counts]
  cases skipped : flags.skip text with
  | nil => exact absurd skipped counts
  | cons c rest =>
    by_cases isHyphen : c = '-'
    · subst isHyphen
      exact congrArg not (endsRange_append flags rest tail)
    · rw [List.cons_append]
      split
      next same => exact absurd (List.cons.inj same).1 isHyphen
      next =>
        split
        next same => exact absurd (List.cons.inj same).1 isHyphen
        next => rfl

theorem rangeEnd?_of_makesRange {text : List Char} (makes : makesRange flags text = true) :
    ∃ rest, flags.skip text = '-' :: rest ∧
      rangeEnd? flags (flags.skip text) = some (flags.skip rest) := by
  unfold makesRange at makes
  split at makes
  next rest same =>
    refine ⟨rest, same, ?_⟩
    rw [same, rangeEnd?, if_neg]
    simpa [endsRange] using makes
  next => cases makes

theorem rangeEnd?_eq_none {text : List Char} (single : makesRange flags text = false) :
    rangeEnd? flags (flags.skip text) = none := by
  rw [makesRange] at single
  cases counts : flags.skip text with
  | nil => rfl
  | cons c rest =>
    by_cases isHyphen : c = '-'
    · subst isHyphen
      simp only [counts, Bool.not_eq_false'] at single
      exact if_pos (of_decide_eq_true single)
    · rw [rangeEnd?]
      exact fun _ same => isHyphen (List.cons.inj same).1

/-- The set of a range with two given ends. -/
def Escape.rangeTo? (low : Escape) : Escape → Option CharSet
  | char last =>
    match low with
    | char first => if first ≤ last then flags.range? first last else none
    | _ => none
  | _ => none

/-- The upper end of a range, after its hyphen. -/
def upper? (low : Escape) (text : List Char) : Option (CharSet × List Char) :=
  onSign '-' (fun rest => (classAtom? flags (flags.skip rest)).bind fun found =>
    (low.rangeTo? flags found.1).map (·, found.2)) (fun _ => none) (flags.skip text)

theorem classRange?_eq : classRange? flags = fun text =>
    (classAtom? flags text).bind fun found =>
      if makesRange flags found.2 = true then upper? flags found.1 found.2
      else (found.1.set? flags).map (·, found.2) := by
  funext text
  refine congrArg _ (funext fun ⟨low, after⟩ => ?_)
  dsimp only
  by_cases makes : makesRange flags after = true
  · obtain ⟨rest, skipped, ends⟩ := rangeEnd?_of_makesRange flags makes
    rw [ends, if_pos makes, upper?, skipped, onSign_self]
    refine congrArg (Option.bind _) (funext fun ⟨high, rest⟩ => ?_)
    cases low with
    | char first =>
      cases high with
      | char last =>
        change (if first ≤ last then (flags.range? first last).bind fun set => some (set, rest)
          else none) = ((if first ≤ last then flags.range? first last else none).map (·, rest))
        rw [apply_ite (Option.map _), Option.map_eq_bind]
        rfl
      | set => rfl
      | assertion => rfl
    | set => cases high <;> rfl
    | assertion => cases high <;> rfl
  · rw [rangeEnd?_eq_none flags (eq_false_of_ne_true makes), if_neg makes, Option.map_eq_bind]
    rfl

theorem local_behindRange (c : Char) : Local fun rest => classRange? flags (c :: rest) := by
  have upper (low : Escape) : Local (upper? flags low) :=
    (Local.onSign (by decide)
      (((local_classAtom? flags).choose (low.rangeTo? flags)).afterSkip flags)
      .none).afterSkip flags
  have range (low : Escape) : Local fun text =>
      if makesRange flags text = true then upper? flags low text
      else (low.set? flags).map (·, text) := by
    refine .lookahead (upper low) (.fixed _) (fun text tail here => ?_)
      (fun text tail found longer read => ?_) fun text tail oneLine longer => ?_
    · rw [makesRange_append, here]
      intro idle
      simp [makesRange, idle] at here
    · rw [makesRange_append] at longer
      · exact longer
      intro idle
      simp [upper?, idle, onSign] at read
    · rw [makesRange_append] at longer
      · exact longer
      intro idle
      rw [makesRange] at longer
      rcases skip_cases idle with apart | comment
      · rw [apart] at longer
        cases longer
      · rw [comment, skipSpaced_comment oneLine] at longer
        cases longer
  rw [classRange?_eq]
  exact (local_behindAtom flags c).bind range

theorem local_classRange? : Local (classRange? flags) :=
  .cons (local_behindRange flags) (fun _ _ => rfl) rfl

/-! ## Classes in progress -/

variable {flags : Flags} {frame : ClassFrame} {outer : List ClassFrame}

/-- The end of a class: the end of the outermost one, or a part of the one around it. -/
def closing? (flags : Flags) (most : Nat) (frame : ClassFrame) (outer : List ClassFrame)
    (rest : List Char) : Option (ClassItem × List Char) :=
  (frame.close? flags).bind fun item =>
    match outer with
    | [] => some (item, rest)
    | parent :: others => classBody? flags most (parent.add item) others rest

/-- A bracket within a class: a set with a name, or a further class. -/
def opening? (flags : Flags) (most : Nat) (frame : ClassFrame) (outer : List ClassFrame) :
    List Char → Option (ClassItem × List Char) :=
  orElse namedClass?
    (fun named after => (flags.negate? named.1 (flags.fold named.2)).bind fun set =>
      classBody? flags most (frame.add ⟨set, 0⟩) outer after)
    fun rest => (some (openClass flags most rest)).bind fun found =>
      classBody? flags most found.1 (frame :: outer) found.2

/-- A part of a class without a bracket, or an operator. -/
def listing? (flags : Flags) (most : Nat) (frame : ClassFrame) (outer : List ClassFrame) :
    List Char → Option (ClassItem × List Char) :=
  orElse ClassOperator.read?
    (fun operator => classBody? flags most (frame.operate flags operator) outer)
    fun text => (classRange? flags text).bind fun found =>
      classBody? flags most (frame.add ⟨found.1, 0⟩) outer found.2

theorem classBody?_succ (most : Nat) : classBody? flags (most + 1) frame outer = fun text =>
    onSign ']' (closing? flags most frame outer)
      (onSign '[' (opening? flags most frame outer) (listing? flags most frame outer))
      (flags.skip text) := by
  funext text
  rw [classBody?]
  split
  next nothing => rw [nothing]; rfl
  next rest same =>
    rw [same, onSign_self, closing?]
    cases frame.close? flags with
    | none => rfl
    | some item => cases outer <;> rfl
  next rest same =>
    rw [same, onSign_other (by simp), onSign_self, opening?, orElse]
    cases namedClass? rest <;> rfl
  next notNothing notClosing notOpening =>
    rw [onSign_other notClosing, onSign_other notOpening, listing?, orElse]
    cases ClassOperator.read? (flags.skip text) <;> rfl

theorem local_classBody? (most : Nat) : Local (classBody? flags most frame outer) := by
  induction most generalizing frame outer with
  | zero => exact .none
  | succ most ih =>
    have closing : Local (closing? flags most frame outer) := by
      unfold closing?
      cases frame.close? flags with
      | none => exact .none
      | some item =>
        cases outer with
        | nil => exact .pure item
        | cons parent others => exact ih
    have named (found : Bool × CharSet) : Local fun rest =>
        (flags.negate? found.1 (flags.fold found.2)).bind fun set =>
          classBody? flags most (frame.add ⟨set, 0⟩) outer rest := by
      cases flags.negate? found.1 (flags.fold found.2) with
      | none => exact .none
      | some set => exact ih
    have further (inner : ClassFrame) : Local (classBody? flags most inner (frame :: outer)) := ih
    have operated (operator : ClassOperator) :
        Local (classBody? flags most (frame.operate flags operator) outer) := ih
    have more (set : CharSet) : Local (classBody? flags most (frame.add ⟨set, 0⟩) outer) := ih
    have opening : Local (opening? flags most frame outer) :=
      .orElse sharp_namedClass? named ((local_openClass flags most).bind further)
    have listing : Local (listing? flags most frame outer) :=
      .orElse sharp_operator operated ((local_classRange? flags).bind more)
    rw [classBody?_succ]
    exact (Local.onSign (by decide) closing (.onSign (by decide) opening listing)).afterSkip flags

theorem operator_suffix {c : Char} {rest after : List Char} {operator : ClassOperator}
    (ok : ClassOperator.read? (c :: rest) = some (operator, after)) : after <:+ rest := by
  unfold ClassOperator.read? at ok
  split at ok
  next same => cases same; cases ok; exact List.suffix_cons _ _
  next same => cases same; cases ok; exact List.suffix_cons _ _
  next same => cases same; cases ok; exact List.suffix_cons _ _
  next => cases ok

/-- Two limits for the parts of a class are the same for texts up to a length. -/
def AgreeUpTo (flags : Flags) (most other length : Nat) : Prop :=
  ∀ (frame : ClassFrame) (outer : List ClassFrame) (text : List Char), text.length ≤ length →
    classBody? flags most frame outer text = classBody? flags other frame outer text

theorem AgreeUpTo.opening {most other : Nat} {rest : List Char}
    (agree : AgreeUpTo flags most other rest.length) (enough : rest.length ≤ most)
    (alsoEnough : rest.length ≤ other) :
    opening? flags most frame outer rest = opening? flags other frame outer rest := by
  rw [opening?, opening?, orElse, orElse]
  split
  next named after found =>
    exact Option.bind_congr fun set _ => agree _ _ _ (sharp_namedClass?.leaves found).length_le
  next =>
    rw [openClass_congr flags enough alsoEnough]
    exact agree _ _ _ ((local_openClass flags other).leaves rfl).length_le

theorem AgreeUpTo.listing {most other : Nat} {c : Char} {rest : List Char}
    (agree : AgreeUpTo flags most other rest.length) :
    listing? flags most frame outer (c :: rest) = listing? flags other frame outer (c :: rest) := by
  rw [listing?, listing?, orElse, orElse]
  split
  next operator after found => exact agree _ _ _ (operator_suffix found).length_le
  next =>
    exact Option.bind_congr fun found isRange =>
      agree _ _ _ ((local_behindRange flags c).leaves isRange).length_le

theorem AgreeUpTo.closing {most other : Nat} {rest : List Char}
    (agree : AgreeUpTo flags most other rest.length) :
    closing? flags most frame outer rest = closing? flags other frame outer rest := by
  refine Option.bind_congr fun item _ => ?_
  cases outer with
  | nil => rfl
  | cons parent others => exact agree _ _ _ le_rfl

theorem classBody?_nil (most : Nat) : classBody? flags most frame outer [] = none := by
  cases most with
  | zero => rfl
  | succ most =>
    have nothing : flags.skip [] = [] := List.suffix_nil.1 (skip_suffix flags [])
    rw [classBody?_succ]
    dsimp only
    rw [nothing]
    rfl

/-- Limits that are enough for a text make no difference. -/
theorem agreeUpTo {length most other : Nat} (enough : length ≤ most) (alsoEnough : length ≤ other) :
    AgreeUpTo flags most other length := by
  induction most generalizing length other with
  | zero =>
    intro frame outer text isShort
    obtain rfl := List.length_eq_zero_iff.1 (Nat.le_zero.1 (isShort.trans enough))
    rw [classBody?_nil, classBody?_nil]
  | succ most ih =>
    intro frame outer text isShort
    have shorter := (skip_suffix flags text).length_le
    cases other with
    | zero =>
      obtain rfl := List.length_eq_zero_iff.1 (Nat.le_zero.1 (isShort.trans alsoEnough))
      rw [classBody?_nil, classBody?_nil]
    | succ other =>
    rw [classBody?_succ, classBody?_succ]
    dsimp only
    cases counts : flags.skip text with
    | nil => rfl
    | cons c rest =>
      rw [counts, List.length_cons] at shorter
      have restEnough : rest.length ≤ most := by omega
      have restAlsoEnough : rest.length ≤ other := by omega
      have agree : AgreeUpTo flags most other rest.length := ih restEnough restAlsoEnough
      rw [onSign, onSign, onSign, onSign, agree.closing, agree.listing,
        agree.opening restEnough restAlsoEnough]

variable (flags) in
theorem local_class? : Local (class? flags) := by
  have body (most : Nat) (frame : ClassFrame) : Local (classBody? flags most frame []) :=
    local_classBody? most
  refine .of_limit _ (fun most => (local_openClass flags most).bind (body most))
    fun most text enough => ?_
  have shorter : (openClass flags text.length text).2.length ≤ text.length :=
    ((local_openClass flags text.length).leaves rfl).length_le
  rw [openClass_congr flags enough le_rfl]
  exact agreeUpTo enough le_rfl _ _ _ shorter

end Classes

/-! ## Steps -/

/-- The part that an escape stands for outside of classes. -/
def Escape.part (flags : Flags) : Escape → Part
  | char value => .ofChar flags value
  | set members => .ofSet members 0
  | assertion condition => .ofAssertion condition

namespace Reader

variable (reader : Reader)

theorem local_repeat? (least : Nat) (most : Option Nat) : Local (reader.repeat? least most) := by
  have times (lazy : Bool) : Local fun rest =>
      (reader.level.repeat? least most (lazy != reader.flags.lazy)).map
        ({ reader with level := · }, rest) := by
    cases reader.level.repeat? least most (lazy != reader.flags.lazy) with
    | none => exact .none
    | some level => exact .pure { reader with level := level }
  have same : reader.repeat? least most = onSign '?'
      (fun rest => (reader.level.repeat? least most (true != reader.flags.lazy)).map
        ({ reader with level := · }, rest))
      (fun rest => (reader.level.repeat? least most (false != reader.flags.lazy)).map
        ({ reader with level := · }, rest)) := by
    funext rest
    unfold Reader.repeat?
    split
    next lazy after same =>
      split at same
      next => cases same; rfl
      next notLazy => cases same; rw [onSign_other notLazy]
  rw [same]
  exact .onSign (by decide) (times true) (times false)

/-- The characters that do not stand for themselves. -/
def signs : List Char := ['(', ')', '|', '*', '+', '?', '{', '[', '\\', '.', '^', '$']

theorem step?_of_notMem {c : Char} (other : c ∉ signs) (rest : List Char) :
    reader.step? c rest = some (reader.add (.ofChar reader.flags c), rest) := by
  unfold Reader.step?
  split
  all_goals first | rfl | exact absurd (by decide) other

/-- One step looks at no more than it reads. -/
theorem local_step? (c : Char) : Local (reader.step? c) := by
  have close : Local fun rest => reader.close?.map (·, rest) := .fixed reader.close?
  have count : Local fun rest => (count? reader.flags rest).bind fun found =>
      reader.repeat? found.1.1 found.1.2 (reader.flags.skip found.2) :=
    (local_count? reader.flags).bind fun bounds =>
      (local_repeat? reader bounds.1 bounds.2).afterSkip reader.flags
  have part : Local fun rest => (class? reader.flags rest).bind fun found =>
      if found.1.height ≤ Part.heightLimit then
        some (reader.add (.ofSet found.1.set found.1.height), found.2)
      else none :=
    (local_class? reader.flags).bind fun item =>
      .ite (item.height ≤ Part.heightLimit)
        (.pure (reader.add (.ofSet item.set item.height))) .none
  have escape : Local (reader.step? '\\') := by
    have same : reader.step? '\\' = fun rest => (escape? reader.flags rest).map fun found =>
        (reader.add (found.1.part reader.flags), found.2) := by
      funext rest
      rw [Option.map_eq_bind]
      refine congrArg (Option.bind _) (funext fun ⟨escape, after⟩ => ?_)
      cases escape <;> rfl
    rw [same]
    exact (local_escape? reader.flags).map fun escape => reader.add (escape.part reader.flags)
  have dot : Local fun rest => reader.flags.dot?.map fun set =>
      (reader.add (.ofSet set 0), rest) := by
    cases reader.flags.dot? with
    | none => exact .none
    | some set => exact .pure (reader.add (.ofSet set 0))
  by_cases isSign : c ∈ signs
  · simp only [signs, List.mem_cons, List.not_mem_nil, or_false] at isSign
    rcases isSign with rfl | rfl | rfl | rfl | rfl | rfl | rfl | rfl | rfl | rfl | rfl | rfl
    · exact local_open? reader
    · exact close
    · exact .pure { reader with level := reader.level.nextAlternative }
    · exact local_repeat? reader 0 none
    · exact local_repeat? reader 1 none
    · exact local_repeat? reader 0 (some 1)
    · exact count
    · exact part
    · exact escape
    · exact dot
    · exact .pure _
    · exact .pure _
  · have same : reader.step? c = fun rest => some (reader.add (.ofChar reader.flags c), rest) :=
      funext (step?_of_notMem reader isSign)
    rw [same]
    exact .pure _

/-- A step, after what does not count. -/
def next? (text : List Char) : Option (Reader × List Char) :=
  match reader.flags.skip text with
  | [] => none
  | c :: rest => reader.step? c rest

theorem local_next? : Local reader.next? := by
  have step : Local fun text => match text with
      | [] => none
      | c :: rest => reader.step? c rest :=
    .cons (local_step? reader) (fun _ _ => rfl) rfl
  exact step.afterSkip reader.flags

end Reader

end AdapterWiring.Pattern
