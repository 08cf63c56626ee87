import AdapterWiring.Text.Token
import AdapterWiring.Text.WordChar

/-!
# The words of a text

A text is read line by line, but its words depend on its blanks only.

* **nonemptyPieces_append** — at a separator a list falls apart, and so do its
  pieces. Everything else about words follows from this.
* **words** — the words of a text, without their lines.
* **words_intercalate** — texts put together with a blank between them have the
  words of each.
* **map_word_tokenize** — the words that a text is read as.
* **not_of_isBlank** — what no blank is, decided at the few blanks that there
  are.
-/

namespace AdapterWiring.Text

/-! ## Pieces -/

section Pieces

variable {α : Type} {separates coarse : α → Bool}

theorem exists_pieces_eq_cons (separates : α → Bool) (items : List α) :
    ∃ first others, pieces separates items = first :: others := by
  have length := length_pieces separates items
  cases found : pieces separates items with
  | nil => simp [found] at length
  | cons first others => exact ⟨first, others, rfl⟩

/-- The pieces of a list that does not start with a separator. -/
theorem pieces_cons_of_not {item : α} (inPiece : separates item = false) {rest first : List α}
    {others : List (List α)} (cut : pieces separates rest = first :: others) :
    pieces separates (item :: rest) = (item :: first) :: others := by
  rw [pieces, if_neg (by simp [inPiece]), cut]

theorem pieces_cons_of_separates {item : α} (isSeparator : separates item = true) (rest : List α) :
    pieces separates (item :: rest) = [] :: pieces separates rest := by
  rw [pieces, if_pos isSeparator]

/-- The pieces of a list are those before and after one of its separators. -/
theorem pieces_append {item : α} (isSeparator : separates item = true) (front back : List α) :
    pieces separates (front ++ item :: back) = pieces separates front ++ pieces separates back := by
  induction front with
  | nil => exact pieces_cons_of_separates isSeparator back
  | cons head front ih =>
    rw [List.cons_append]
    cases atHead : separates head with
    | true =>
      rw [pieces_cons_of_separates atHead, pieces_cons_of_separates atHead, ih, List.cons_append]
    | false =>
      obtain ⟨first, others, cut⟩ := exists_pieces_eq_cons separates front
      rw [cut, List.cons_append] at ih
      rw [pieces_cons_of_not atHead cut, pieces_cons_of_not atHead ih, List.cons_append]

theorem pieces_of_forall_not {items : List α} (inPiece : ∀ item ∈ items, separates item = false) :
    pieces separates items = [items] := by
  induction items with
  | nil => rfl
  | cons head rest ih =>
    obtain ⟨atHead, inRest⟩ := List.forall_mem_cons.1 inPiece
    exact pieces_cons_of_not atHead (ih inRest)

/-- Cutting at some of the separators first changes nothing. -/
theorem flatMap_pieces (finer : ∀ item, coarse item = true → separates item = true)
    (items : List α) :
    (pieces coarse items).flatMap (pieces separates) = pieces separates items := by
  induction items with
  | nil => rfl
  | cons head rest ih =>
    cases isCoarse : coarse head with
    | true =>
      rw [pieces_cons_of_separates isCoarse, pieces_cons_of_separates (finer head isCoarse),
        List.flatMap_cons, ih]
      rfl
    | false =>
      -- the head goes to the first line; whether it goes on with its first piece is the finer test
      obtain ⟨line, lines, cut⟩ := exists_pieces_eq_cons coarse rest
      rw [cut, List.flatMap_cons] at ih
      rw [pieces_cons_of_not isCoarse cut, List.flatMap_cons]
      cases isFine : separates head with
      | true =>
        rw [pieces_cons_of_separates isFine, pieces_cons_of_separates isFine, ← ih,
          List.cons_append]
      | false =>
        obtain ⟨first, others, cutLine⟩ := exists_pieces_eq_cons separates line
        rw [cutLine, List.cons_append] at ih
        rw [pieces_cons_of_not isFine cutLine, pieces_cons_of_not isFine ih.symm, List.cons_append]

/-- **Pieces at a separator.** The pieces that hold something are those before and after it. -/
theorem nonemptyPieces_append {item : α} (isSeparator : separates item = true)
    (front back : List α) : nonemptyPieces separates (front ++ item :: back) =
      nonemptyPieces separates front ++ nonemptyPieces separates back := by
  rw [nonemptyPieces, pieces_append isSeparator, List.filter_append]
  rfl

theorem nonemptyPieces_of_forall_not {items : List α} (nonempty : items ≠ [])
    (inPiece : ∀ item ∈ items, separates item = false) :
    nonemptyPieces separates items = [items] := by
  rw [nonemptyPieces, pieces_of_forall_not inPiece]
  simpa using nonempty

theorem flatMap_nonemptyPieces (finer : ∀ item, coarse item = true → separates item = true)
    (items : List α) :
    (pieces coarse items).flatMap (nonemptyPieces separates) = nonemptyPieces separates items := by
  unfold nonemptyPieces
  rw [← List.filter_flatMap, flatMap_pieces finer]

end Pieces

/-! ## Words -/

/-- The words of a text. -/
def words (text : String) : List String :=
  (nonemptyPieces isBlank text.toList).map String.ofList

/-- A text that is one word: it holds something, and no blank. -/
def IsWord (text : String) : Prop := text ≠ "" ∧ ∀ c ∈ text.toList, isBlank c = false

instance : DecidablePred IsWord := fun text =>
  decidable_of_iff (text ≠ "" ∧ text.toList.all (!isBlank ·) = true) (by simp [IsWord])

theorem words_of_isWord {text : String} (isWord : IsWord text) : words text = [text] := by
  have nonempty : text.toList ≠ [] := by simpa using isWord.1
  rw [words, nonemptyPieces_of_forall_not nonempty isWord.2]
  simp

theorem words_append {c : Char} (blank : isBlank c = true) (front back : String) :
    words (front ++ String.singleton c ++ back) = words front ++ words back := by
  have spelled : (front ++ String.singleton c ++ back).toList =
      front.toList ++ c :: back.toList := by
    simp
  rw [words, spelled, nonemptyPieces_append blank, List.map_append]
  rfl

/-- The words of texts with a blank between them. -/
theorem words_intercalate {c : Char} (blank : isBlank c = true) (texts : List String) :
    words ((String.singleton c).intercalate texts) = texts.flatMap words := by
  induction texts with
  | nil => rfl
  | cons text rest ih =>
    cases rest with
    | nil => rw [String.intercalate_singleton, List.flatMap_singleton]
    | cons next rest =>
      rw [String.intercalate_cons_cons, words_append blank, ih]
      rfl

theorem words_append_space (front back : String) :
    words (front ++ " " ++ back) = words front ++ words back :=
  words_append (by decide : isBlank ' ' = true) front back

/-- The words of a text that starts with a word and a space. -/
theorem words_start {word start : String} (isWord : IsWord word) (spelled : start = word ++ " ")
    (rest : String) : words (start ++ rest) = word :: words rest := by
  rw [spelled, words_append_space, words_of_isWord isWord, List.singleton_append]

/-- The words of a text with a word between two spaces in its middle. -/
theorem words_between {word middle : String} (isWord : IsWord word)
    (spelled : middle = " " ++ (word ++ " ")) (front back : String) :
    words (front ++ middle ++ back) = words front ++ word :: words back := by
  rw [String.append_assoc, spelled, String.append_assoc, ← String.append_assoc, words_append_space,
    words_start isWord rfl]

/-- The words that a text is read as. -/
theorem map_word_tokenize (text : String) : (Token.tokenize text).map Token.word = words text := by
  have ofLines (lines : List (List Char)) (line : UInt32) :
      (Token.ofLines line lines).map Token.word =
        (lines.flatMap (nonemptyPieces isBlank)).map String.ofList := by
    induction lines generalizing line with
    | nil => rfl
    | cons first rest ih =>
      rw [Token.ofLines, List.map_append, ih, List.flatMap_cons, List.map_append]
      simp [Token.ofLine]
  have finer : ∀ c, (c == '\n') = true → isBlank c = true := by
    intro c isFeed
    rw [beq_iff_eq.1 isFeed]
    exact isBlank_newline
  rw [Token.tokenize, ofLines, flatMap_nonemptyPieces finer]
  rfl

/-! ## Blanks -/

theorem exists_range_of_listContains {ranges : List CharRange} {c : Char}
    (inside : CharRange.listContains ranges c = true) :
    ∃ range ∈ ranges, range.1 ≤ c.toNat ∧ c.toNat ≤ range.2 := by
  induction ranges with
  | nil => cases inside
  | cons range rest ih =>
    rw [CharRange.listContains] at inside
    split at inside
    · cases inside
    next above =>
      split at inside
      next below => exact ⟨range, List.mem_cons_self .., Nat.le_of_not_lt above, below⟩
      · obtain ⟨other, member, bounds⟩ := ih inside
        exact ⟨other, List.mem_cons_of_mem _ member, bounds⟩

/-- What holds of none of the few blanks that there are holds of no blank. -/
theorem not_of_isBlank (holds : Char → Prop)
    (atBlanks : ∀ range ∈ blankRanges, ∀ offset < range.2 + 1 - range.1,
      ¬ holds (Char.ofNat (range.1 + offset)))
    {c : Char} (blank : isBlank c = true) : ¬ holds c := by
  obtain ⟨range, member, low, high⟩ := exists_range_of_listContains blank
  have found := atBlanks range member (c.toNat - range.1) (by omega)
  rwa [Nat.add_sub_cancel' low, Char.ofNat_toNat] at found

end AdapterWiring.Text
