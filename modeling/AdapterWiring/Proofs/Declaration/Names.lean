import AdapterWiring.Declaration.Language
import AdapterWiring.Declaration.Reader
import AdapterWiring.Proofs.Pattern.Denotation

/-!
# The words that operands are

* **IsIdentifier, IsQualified** — identifiers, and identifiers with a number of
  others before them, each followed by a dot.
* **accepts_className, accepts_memberName, accepts_methodCall** — the patterns
  of operands accept exactly these.
* **split?_eq_some_iff** — a qualified name is cut at its last dot.
-/

namespace AdapterWiring.Declaration

open Pattern Text

/-! ## Names -/

/-- An identifier: a letter of ASCII, `_` or `$`, and any number of word characters and `$`. -/
def IsIdentifier : List Char → Prop
  | [] => False
  | c :: rest => (c.isAlpha = true ∨ c = '_' ∨ c = '$') ∧
    ∀ d ∈ rest, isWordChar d = true ∨ d = '$'

instance : DecidablePred IsIdentifier
  | [] => inferInstanceAs (Decidable False)
  | c :: rest =>
    decidable_of_iff ((c.isAlpha = true ∨ c = '_' ∨ c = '$') ∧
      rest.all (fun d => isWordChar d || d == '$') = true) (by simp [IsIdentifier])

/-- An identifier with at least a number of others before it, each followed by a dot. -/
def IsQualified (least : Nat) (word : List Char) : Prop :=
  ∃ (owners : List (List Char)) (name : List Char), least ≤ owners.length ∧
    (∀ owner ∈ owners, IsIdentifier owner) ∧ IsIdentifier name ∧
    word = owners.flatMap (· ++ ['.']) ++ name

theorem contains_identifierStart (c : Char) :
    identifierStart.contains c = true ↔ c.isAlpha = true ∨ c = '_' ∨ c = '$' := by
  have letter : c.isAlpha = true ↔ ('A' ≤ c ∧ c ≤ 'Z') ∨ ('a' ≤ c ∧ c ≤ 'z') := by
    show (decide ('A' ≤ c ∧ c ≤ 'Z') || decide ('a' ≤ c) && decide (c ≤ 'z')) = true ↔ _
    simp only [Bool.or_eq_true, Bool.and_eq_true, decide_eq_true_eq]
  rw [letter]
  simp only [identifierStart, List.foldl_cons, List.foldl_nil, CharSet.contains, Bool.or_eq_true,
    Bool.and_eq_true, decide_eq_true_eq, CharSet.contains_single, Bool.false_eq_true, false_or]
  tauto

theorem contains_identifierPart (c : Char) :
    identifierPart.contains c = true ↔ isWordChar c = true ∨ c = '$' := by
  simp only [identifierPart, List.foldl_cons, List.foldl_nil, CharSet.contains, Bool.or_eq_true,
    CharSet.contains_single, Bool.false_eq_true, false_or]

/-! ## Patterns -/

theorem denotes_identifier : Expr.Denotes (.concat identifier) IsIdentifier := by
  refine ((Expr.Denotes.one identifierStart).seq
    ((Expr.Denotes.one identifierPart).atLeast 0)).congr fun word => ?_
  constructor
  · rintro ⟨_, _, rfl, ⟨c, rfl, starts⟩, parts, -, each, rfl⟩
    refine ⟨(contains_identifierStart c).1 starts, fun d member => ?_⟩
    obtain ⟨part, isPart, inPart⟩ := List.mem_flatten.1 member
    obtain ⟨_, rfl, continues⟩ := each part isPart
    rw [List.mem_singleton.1 inPart]
    exact (contains_identifierPart _).1 continues
  · intro isIdentifier
    cases word with
    | nil => exact isIdentifier.elim
    | cons c rest =>
      obtain ⟨starts, continues⟩ := isIdentifier
      refine ⟨[c], rest, rfl, ⟨c, rfl, (contains_identifierStart c).2 starts⟩,
        rest.map ([·]), Nat.zero_le _, fun part isPart => ?_, ?_⟩
      · obtain ⟨d, member, rfl⟩ := List.mem_map.1 isPart
        exact ⟨d, rfl, (contains_identifierPart d).2 (continues d member)⟩
      · rw [← List.flatMap_def, List.flatMap_singleton']

theorem denotes_qualifier :
    Expr.Denotes qualifier fun word => ∃ name, IsIdentifier name ∧ word = name ++ ['.'] := by
  refine (denotes_identifier.seq (.char '.')).regroup.congr fun word => ?_
  constructor
  · rintro ⟨name, _, rfl, isName, rfl⟩
    exact ⟨name, isName, rfl⟩
  · rintro ⟨name, isName, rfl⟩
    exact ⟨name, ['.'], rfl, isName, rfl⟩

/-- A qualified name, its qualifiers taken with their dots. -/
theorem isQualified_iff {least : Nat} {word : List Char} : IsQualified least word ↔
    ∃ qualifiers name, word = qualifiers ++ name ∧
      (∃ parts : List (List Char), least ≤ parts.length ∧
        (∀ part ∈ parts, ∃ owner, IsIdentifier owner ∧ part = owner ++ ['.']) ∧
        qualifiers = parts.flatten) ∧ IsIdentifier name := by
  constructor
  · rintro ⟨owners, name, enough, each, isName, rfl⟩
    refine ⟨_, name, rfl, ⟨owners.map (· ++ ['.']), by simpa using enough, ?_, ?_⟩, isName⟩
    · intro part isPart
      obtain ⟨owner, member, rfl⟩ := List.mem_map.1 isPart
      exact ⟨owner, each owner member, rfl⟩
    · rw [List.flatMap_def]
  · rintro ⟨_, name, rfl, ⟨parts, enough, each, rfl⟩, isName⟩
    refine ⟨parts.map List.dropLast, name, by simpa using enough, ?_, isName, ?_⟩
    · intro owner member
      obtain ⟨part, isPart, rfl⟩ := List.mem_map.1 member
      obtain ⟨owner, isOwner, rfl⟩ := each part isPart
      simpa using isOwner
    · have dotted : ∀ part ∈ parts, part.dropLast ++ ['.'] = part := by
        intro part isPart
        obtain ⟨owner, _, rfl⟩ := each part isPart
        simp
      rw [List.flatMap_map, List.flatMap_def, List.map_congr_left dotted, List.map_id']

/-- An identifier after at least a number of qualifiers. -/
theorem denotes_qualified (least : Nat) :
    Expr.Denotes (.seq (.repeated qualifier least none) (.concat identifier))
      (IsQualified least) :=
  ((denotes_qualifier.atLeast least).seq denotes_identifier).congr fun _ => isQualified_iff.symm

theorem denotes_methodCall : Expr.Denotes methodCall fun word =>
    ∃ name, IsQualified 1 name ∧ word = name ++ ['(', ')'] := by
  have call := denotes_identifier.seq ((Expr.Denotes.char '(').seq (.char ')'))
  refine ((denotes_qualifier.atLeast 1).seq call.regroup).congr fun word => ?_
  constructor
  · rintro ⟨qualifiers, _, rfl, qualified, name, _, rfl, isName, _, _, rfl, rfl, rfl⟩
    exact ⟨qualifiers ++ name, isQualified_iff.2 ⟨qualifiers, name, rfl, qualified, isName⟩,
      by simp⟩
  · rintro ⟨_, isName, rfl⟩
    obtain ⟨qualifiers, name, rfl, qualified, isName⟩ := isQualified_iff.1 isName
    exact ⟨qualifiers, name ++ ['(', ')'], by simp, qualified, name, ['(', ')'], rfl, isName,
      ['('], [')'], rfl, rfl, rfl⟩

theorem accepts_className (text word : String) :
    (Pattern.mk text (.whole className)).accepts word = true ↔ IsQualified 0 word.toList := by
  refine (denotes_qualified 0).search_whole_iff ?_ word.toList
  simp [Expr.Bounded, qualifier, identifier, Expr.concat, Expr.star, Expr.char]

theorem accepts_memberName (text word : String) :
    (Pattern.mk text (.whole memberName)).accepts word = true ↔ IsQualified 1 word.toList := by
  refine (denotes_qualified 1).search_whole_iff ?_ word.toList
  simp [Expr.Bounded, qualifier, identifier, Expr.concat, Expr.star, Expr.char]

theorem accepts_methodCall (text word : String) :
    (Pattern.mk text (.whole methodCall)).accepts word = true ↔
      ∃ name, IsQualified 1 name ∧ word.toList = name ++ ['(', ')'] := by
  refine denotes_methodCall.search_whole_iff ?_ word.toList
  simp [Expr.Bounded, methodCall, qualifier, identifier, Expr.concat, Expr.plus, Expr.star,
    Expr.char]

/-! ## Cutting a name -/

/-- The characters of an identifier. -/
def IsNamePart (c : Char) : Prop :=
  c.isAlpha = true ∨ isWordChar c = true ∨ c = '_' ∨ c = '$'

instance : DecidablePred IsNamePart :=
  fun _ => inferInstanceAs (Decidable (_ ∨ _ ∨ _ ∨ _))

theorem isNamePart_of_isIdentifier {name : List Char} (isName : IsIdentifier name) :
    ∀ c ∈ name, IsNamePart c := by
  cases name with
  | nil => exact fun c member => nomatch member
  | cons first rest =>
    obtain ⟨starts, continues⟩ := isName
    intro c member
    rcases List.mem_cons.1 member with rfl | later
    · exact starts.imp_right .inr
    · exact .inr ((continues c later).imp_right .inr)

theorem dot_not_mem_of_isIdentifier {name : List Char} (isName : IsIdentifier name) :
    '.' ∉ name :=
  fun member => absurd (isNamePart_of_isIdentifier isName '.' member) (by decide)

theorem ne_nil_of_isIdentifier {name : List Char} (isName : IsIdentifier name) : name ≠ [] := by
  rintro rfl
  exact isName

/-- What comes before and after the last dot of a list, the parts reversed. -/
theorem cut_at_last_dot (owner : List Char) {member : List Char} (undotted : '.' ∉ member) :
    (owner ++ '.' :: member).reverse.takeWhile (· ≠ '.') = member.reverse ∧
      (owner ++ '.' :: member).reverse.dropWhile (· ≠ '.') = '.' :: owner.reverse := by
  have letters : ∀ c ∈ member.reverse, decide (c ≠ '.') = true := by
    intro c isLetter
    rw [List.mem_reverse] at isLetter
    exact decide_eq_true fun same => undotted (same ▸ isLetter)
  have reversed : (owner ++ '.' :: member).reverse = member.reverse ++ '.' :: owner.reverse := by
    simp
  rw [reversed, List.takeWhile_append_of_pos letters, List.dropWhile_append_of_pos letters]
  simp

theorem toList_render (operand : MemberOperand) :
    operand.render.toList = operand.owner.toList ++ '.' :: operand.member.toList := by
  simp [MemberOperand.render]

/-- The parts of a name are those before and after its last dot. -/
theorem eq_of_render_eq {first second : MemberOperand} (same : first.render = second.render)
    (undottedFirst : '.' ∉ first.member.toList) (undottedSecond : '.' ∉ second.member.toList) :
    first.owner = second.owner ∧ first.member = second.member := by
  obtain ⟨takenFirst, droppedFirst⟩ := cut_at_last_dot first.owner.toList undottedFirst
  obtain ⟨takenSecond, droppedSecond⟩ := cut_at_last_dot second.owner.toList undottedSecond
  rw [← toList_render, same, toList_render] at takenFirst droppedFirst
  have members := List.reverse_inj.1 (takenFirst.symm.trans takenSecond)
  have owners := List.reverse_inj.1 (List.cons.inj (droppedFirst.symm.trans droppedSecond)).2
  exact ⟨String.toList_injective owners, String.toList_injective members⟩

/-- A name is cut at its last dot, where both parts hold something. -/
theorem split?_eq_some_iff {qualified : String} {line : UInt32} {operand : MemberOperand} :
    MemberOperand.split? qualified line = some operand ↔
      operand.render = qualified ∧ '.' ∉ operand.member.toList ∧ operand.owner ≠ "" ∧
        operand.member ≠ "" ∧ operand.line = line := by
  constructor
  · intro found
    unfold MemberOperand.split? at found
    dsimp only at found
    split at found
    next d c owner rest =>
      split at found
      · cases found
      next nonempty =>
        have split :=
          List.takeWhile_append_dropWhile (p := (· ≠ '.')) (l := qualified.toList.reverse)
        rw [rest] at split
        -- what is left after the member starts at the last dot
        have isDot : d = '.' := by
          have stops := List.head?_dropWhile_not (· ≠ '.') qualified.toList.reverse
          rw [rest] at stops
          simpa using stops
        subst isDot
        rw [Option.some.injEq] at found
        subst found
        refine ⟨?_, ?_, ?_, ?_, rfl⟩
        · apply String.toList_injective
          rw [toList_render, String.toList_ofList, String.toList_ofList]
          simpa using congrArg List.reverse split
        · rw [String.toList_ofList, List.mem_reverse]
          intro member
          have letters := List.all_takeWhile (p := (· ≠ '.')) (l := qualified.toList.reverse)
          simpa using List.all_eq_true.1 letters '.' member
        · simp
        · simpa using nonempty
    · cases found
  · rintro ⟨rfl, undotted, hasOwner, hasMember, rfl⟩
    obtain ⟨taken, dropped⟩ := cut_at_last_dot operand.owner.toList undotted
    unfold MemberOperand.split?
    rw [toList_render]
    dsimp only
    rw [taken, dropped, List.reverse_reverse]
    cases reversed : operand.owner.toList.reverse with
    | nil => simp_all
    | cons c rest =>
      have owner : (c :: rest).reverse = operand.owner.toList := by
        rw [← reversed, List.reverse_reverse]
      dsimp only
      rw [owner, String.ofList_toList, String.ofList_toList, if_neg (by simpa using hasMember)]

/-- A name with a qualifier is that of a member: the last identifier, of the class that the others
name. -/
theorem exists_split?_of_isQualified {name : String} (isName : IsQualified 1 name.toList)
    (line : UInt32) : ∃ operand, MemberOperand.split? name line = some operand ∧
      IsQualified 0 operand.owner.toList ∧ IsIdentifier operand.member.toList := by
  obtain ⟨owners, last, enough, each, isLast, spelled⟩ := isName
  rcases List.eq_nil_or_concat owners with rfl | ⟨before, owner, rfl⟩
  · simp at enough
  rw [List.concat_eq_append] at each spelled
  have isOwner : IsQualified 0 (before.flatMap (· ++ ['.']) ++ owner) :=
    ⟨before, owner, Nat.zero_le _, fun other member => each other (by simp [member]),
      each owner (by simp), rfl⟩
  refine ⟨⟨.ofList (before.flatMap (· ++ ['.']) ++ owner), .ofList last, line⟩,
    split?_eq_some_iff.2 ⟨?_, ?_, ?_, ?_, rfl⟩, ?_, ?_⟩
  · apply String.toList_injective
    rw [toList_render, spelled]
    simp
  · simpa using dot_not_mem_of_isIdentifier isLast
  · have := ne_nil_of_isIdentifier (each owner (by simp))
    simp [this]
  · simpa using ne_nil_of_isIdentifier isLast
  · simpa using isOwner
  · simpa using isLast

/-- An identifier is the name of a class. -/
theorem isQualified_zero {name : List Char} (isName : IsIdentifier name) : IsQualified 0 name :=
  ⟨[], name, Nat.le_refl _, (fun _ member => nomatch member), isName, rfl⟩

/-- The name of a class, a dot and an identifier are the name of a member. -/
theorem isQualified_dotted {owner member : List Char} (isOwner : IsQualified 0 owner)
    (isMember : IsIdentifier member) : IsQualified 1 (owner ++ '.' :: member) := by
  obtain ⟨owners, last, -, each, isLast, rfl⟩ := isOwner
  refine ⟨owners ++ [last], member, by simp, ?_, isMember, by simp⟩
  intro other among
  rcases List.mem_append.1 among with before | atLast
  · exact each other before
  · rwa [List.mem_singleton.1 atLast]

/-- A name has no list of arguments at its end. -/
theorem withoutArguments_of_isQualified {least : Nat} {name : List Char}
    (isName : IsQualified least name) :
    withoutArguments (name ++ ['(', ')']).reverse = name.reverse := by
  obtain ⟨owners, last, -, -, isLast, rfl⟩ := isName
  rcases List.eq_nil_or_concat last with rfl | ⟨front, c, rfl⟩
  · exact isLast.elim
  have isPart := isNamePart_of_isIdentifier isLast c (by simp)
  have notClosing : c ≠ ')' := by
    rintro rfl
    exact absurd isPart (by decide)
  have reversed : (owners.flatMap (· ++ ['.']) ++ front.concat c).reverse =
      c :: (owners.flatMap (· ++ ['.']) ++ front).reverse := by
    simp
  rw [List.reverse_append, reversed]
  show withoutArguments (')' :: '(' :: c :: _) = _
  -- one list of arguments is taken off, and a name ends in no other
  rw [withoutArguments, withoutArguments]
  rintro rest same
  exact notClosing (List.cons.inj same).1

end AdapterWiring.Declaration
