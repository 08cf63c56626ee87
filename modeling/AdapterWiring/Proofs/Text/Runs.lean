import AdapterWiring.Proofs.Text.Lines
import Mathlib.Data.List.TakeWhile

/-!
# Words as runs

A text is cut into lines and each line into pieces, but what comes out can be
told from the text as a whole: the maximal runs of characters that are no
blanks, from the first to the last, each on the line that one more than the
number of line feeds before it.

* **Run** — a part of a text, with what stands before and after it.
* **Run.MaximalIn** — it holds no blank, and could not be longer.
* **lineCount** — how many lines a text has.
* **Tiles, exists_tiles** — the words read from any place on that no word goes
  over are the runs from there on.
* **tokenize_runs** — the words of a text and their lines.
-/

namespace AdapterWiring

namespace Text

/-! ## Runs -/

/-- A part of a text, with what stands before and after it. -/
structure Run where
  /-- The text before. -/
  before : List Char
  /-- The characters of the run. -/
  word : List Char
  /-- The text after. -/
  after : List Char

namespace Run

/-- A run of a text holds something but no blank, and stands between blanks and the ends of the
text. -/
structure MaximalIn (text : List Char) (run : Run) : Prop where
  spelled : text = run.before ++ run.word ++ run.after
  nonempty : run.word ≠ []
  unbroken : ∀ c ∈ run.word, isBlank c = false
  left : ∀ c ∈ run.before.getLast?, isBlank c = true
  right : ∀ c ∈ run.after.head?, isBlank c = true

/-- The line that a run stands on: one more than the line feeds before it. -/
def line (run : Run) : Nat := run.before.count '\n' + 1

/-- The word of a run with its line. -/
def placed (run : Run) : String × Nat := (String.ofList run.word, run.line)

/-- A run as a token. -/
def token (run : Run) : Token := ⟨String.ofList run.word, .ofNat run.line⟩

end Run

/-- How many lines a text has. A line feed at its end ends the last of them. -/
def lineCount (text : String) : Nat :=
  newlines text + if text.toList.getLast?.all (· = '\n') then 0 else 1

/-! ## Pieces and blanks -/

variable {c : Char} {rest : List Char}

theorem nonemptyPieces_blank (blank : isBlank c = true) (text : List Char) :
    nonemptyPieces isBlank (c :: text) = nonemptyPieces isBlank text := by
  rw [nonemptyPieces, pieces_cons_of_separates blank]
  rfl

/-- A line feed is no part of a word. -/
theorem newline_not_mem {word : List Char} (unbroken : ∀ c ∈ word, isBlank c = false) :
    '\n' ∉ word := by
  intro member
  have notBlank := unbroken '\n' member
  rw [isBlank_newline] at notBlank
  cases notBlank

/-- The first line of a text that starts with a word. -/
theorem pieces_word {word : List Char} (unbroken : ∀ c ∈ word, isBlank c = false)
    {first : List Char} {others : List (List Char)}
    (cut : pieces (· == '\n') rest = first :: others) :
    pieces (· == '\n') (word ++ rest) = (word ++ first) :: others := by
  induction word with
  | nil => exact cut
  | cons head word ih =>
    apply pieces_cons_of_not _ (ih fun c member => unbroken c (List.mem_cons_of_mem _ member))
    have notFeed : head ≠ '\n' := fun same => newline_not_mem unbroken (by simp [same])
    simpa using notFeed

end Text

/-- The word of a token with its line as a number. -/
def Token.placed (token : Token) : String × Nat := (token.word, token.line.toNat)

namespace Token

open Text

/-! ## Words of lines, from the front -/

variable {line : UInt32} {c : Char} {rest : List Char}

/-- A line feed ends a line. -/
theorem ofLines_newline (line : UInt32) (rest : List Char) :
    ofLines line (pieces (· == '\n') ('\n' :: rest)) =
      ofLines (line + 1) (pieces (· == '\n') rest) := by
  rw [pieces_cons_of_separates rfl]
  rfl

/-- Any other blank is passed over. -/
theorem ofLines_blank (blank : isBlank c = true) (notFeed : c ≠ '\n') :
    ofLines line (pieces (· == '\n') (c :: rest)) = ofLines line (pieces (· == '\n') rest) := by
  obtain ⟨first, others, cut⟩ := exists_pieces_eq_cons (· == '\n') rest
  rw [pieces_cons_of_not (by simpa using notFeed) cut, cut, ofLines, ofLines, ofLine, ofLine,
    nonemptyPieces_blank blank]

/-- A word that a blank or the end follows is read as one. -/
theorem ofLines_word {word : List Char} (nonempty : word ≠ [])
    (unbroken : ∀ c ∈ word, isBlank c = false) (ends : ∀ c ∈ rest.head?, isBlank c = true) :
    ofLines line (pieces (· == '\n') (word ++ rest)) =
      ⟨String.ofList word, line⟩ :: ofLines line (pieces (· == '\n') rest) := by
  obtain ⟨first, others, cut⟩ := exists_pieces_eq_cons (· == '\n') rest
  -- what follows the word on its line starts with the same blank, or with the line feed
  have firstEnds : ∀ c ∈ first.head?, isBlank c = true := by
    cases rest with
    | nil =>
      cases cut
      simp
    | cons next rest =>
      by_cases isFeed : next = '\n'
      · rw [isFeed, pieces_cons_of_separates rfl] at cut
        cases cut
        simp
      · obtain ⟨line, lines, cutRest⟩ := exists_pieces_eq_cons (· == '\n') rest
        rw [pieces_cons_of_not (by simpa using isFeed) cutRest] at cut
        cases cut
        simpa using ends
  have alone : ofLine line (word ++ first) = ⟨String.ofList word, line⟩ :: ofLine line first := by
    unfold ofLine
    cases first with
    | nil =>
      rw [List.append_nil, nonemptyPieces_of_forall_not nonempty unbroken]
      rfl
    | cons blank first =>
      have isBlank : isBlank blank = true := firstEnds blank rfl
      rw [nonemptyPieces_append isBlank, nonemptyPieces_of_forall_not nonempty unbroken,
        nonemptyPieces_blank isBlank]
      rfl
  rw [pieces_word unbroken cut, cut, ofLines, ofLines, alone]
  rfl

end Token

namespace Text

variable {before text rest word : List Char} {c : Char} {run : Run} {runs : List Run}

/-! ## Runs from a place on -/

/-- No word goes over the place between two texts. -/
def Parted (before text : List Char) : Prop :=
  ∀ c ∈ before.getLast?, ∀ d ∈ text.head?, isBlank c = true ∨ isBlank d = true

/-- The runs of a text from a place on, in order. -/
structure Tiles (before text : List Char) (runs : List Run) : Prop where
  mem_iff : ∀ run, run ∈ runs ↔
    run.MaximalIn (before ++ text) ∧ before.length ≤ run.before.length
  increasing : runs.Pairwise fun first second => first.before.length < second.before.length

theorem tiles_nil (before : List Char) : Tiles before [] [] where
  mem_iff run := by
    refine iff_of_false (by simp) fun ⟨maximal, late⟩ => maximal.nonempty ?_
    have lengths := congrArg List.length maximal.spelled
    simp only [List.length_append, List.length_nil] at lengths
    apply List.length_eq_zero_iff.1
    omega
  increasing := .nil

/-- The characters of a run that starts at a place. -/
theorem Run.MaximalIn.at_place (maximal : run.MaximalIn (before ++ text))
    (here : before.length = run.before.length) :
    before = run.before ∧ text = run.word ++ run.after := by
  have spelled := maximal.spelled
  rw [List.append_assoc] at spelled
  exact List.append_inj spelled here

/-- No run starts with a blank. -/
theorem Tiles.blank (blank : isBlank c = true) (tiles : Tiles (before ++ [c]) text runs) :
    Tiles before (c :: text) runs where
  mem_iff run := by
    have same : before ++ [c] ++ text = before ++ c :: text := by simp
    rw [tiles.mem_iff, same, List.length_append, List.length_singleton]
    constructor
    · intro ⟨maximal, later⟩
      exact ⟨maximal, by omega⟩
    · intro ⟨maximal, later⟩
      refine ⟨maximal, Nat.lt_of_le_of_ne later fun here => ?_⟩
      obtain ⟨_, spelled⟩ := maximal.at_place here
      cases first : run.word with
      | nil => exact maximal.nonempty first
      | cons head others =>
        rw [first] at spelled
        have unbroken := maximal.unbroken head (by rw [first]; exact List.mem_cons_self ..)
        rw [← (List.cons.inj spelled).1, blank] at unbroken
        cases unbroken
  increasing := tiles.increasing

/-- A word is what stands before the first blank. -/
theorem takeWhile_word (unbroken : ∀ c ∈ word, isBlank c = false)
    (ends : ∀ c ∈ rest.head?, isBlank c = true) :
    (word ++ rest).takeWhile (!isBlank ·) = word := by
  rw [List.takeWhile_append_of_pos (by simpa using unbroken)]
  cases rest with
  | nil => simp
  | cons blank rest =>
    have isBlank : isBlank blank = true := ends blank rfl
    simp [isBlank]

/-- No run starts inside a word. -/
theorem Run.MaximalIn.not_inside (maximal : run.MaximalIn (before ++ (word ++ rest)))
    (unbroken : ∀ c ∈ word, isBlank c = false) (later : before.length < run.before.length) :
    before.length + word.length ≤ run.before.length := by
  by_contra inside
  have spelled := maximal.spelled
  rw [List.append_assoc] at spelled
  rcases List.append_eq_append_iff.1 spelled with ⟨part, start, spelled⟩ | ⟨part, start, _⟩
  · rw [start, List.length_append] at later inside
    rcases List.append_eq_append_iff.1 spelled with ⟨more, rfl, _⟩ | ⟨more, rfl, _⟩
    · rw [List.length_append] at inside
      omega
    · -- the run would start behind a character of the word, which is no blank
      rcases List.eq_nil_or_concat part with rfl | ⟨front, last, rfl⟩
      · exact absurd later (by simp)
      · have isBlank := maximal.left last (by rw [start]; simp)
        rw [unbroken last (by simp)] at isBlank
        cases isBlank
  · rw [start, List.length_append] at later
    omega

/-- A word that a blank or the end follows is a run, and the next run starts behind it. -/
theorem Tiles.behind_word (parted : Parted before (word ++ rest)) (nonempty : word ≠ [])
    (unbroken : ∀ c ∈ word, isBlank c = false) (ends : ∀ c ∈ rest.head?, isBlank c = true)
    (tiles : Tiles (before ++ word) rest runs) :
    Tiles before (word ++ rest) (⟨before, word, rest⟩ :: runs) where
  mem_iff run := by
    rw [List.mem_cons, tiles.mem_iff, List.append_assoc, List.length_append]
    constructor
    · rintro (rfl | ⟨maximal, later⟩)
      · refine ⟨⟨(List.append_assoc ..).symm, nonempty, unbroken, fun c isLast => ?_, ends⟩,
          Nat.le_refl _⟩
        obtain ⟨head, others, rfl⟩ := List.exists_cons_of_ne_nil nonempty
        refine (parted c isLast head rfl).resolve_right ?_
        rw [unbroken head (List.mem_cons_self ..)]
        exact Bool.false_ne_true
      · exact ⟨maximal, by omega⟩
    · intro ⟨maximal, later⟩
      by_cases here : before.length = run.before.length
      · obtain ⟨sameStart, spelled⟩ := maximal.at_place here
        have sameWord : word = run.word := by
          rw [← takeWhile_word unbroken ends, spelled,
            takeWhile_word maximal.unbroken maximal.right]
        subst sameWord
        left
        rw [sameStart, List.append_cancel_left spelled]
      · exact .inr ⟨maximal, maximal.not_inside unbroken (by omega)⟩
  increasing := by
    refine List.pairwise_cons.2 ⟨fun run member => ?_, tiles.increasing⟩
    have later := ((tiles.mem_iff run).1 member).2
    have some := List.length_pos_iff.2 nonempty
    rw [List.length_append] at later
    show before.length < run.before.length
    omega

/-- A text that does not start with a blank starts with a word. -/
theorem exists_word (notBlank : isBlank c = false) (text : List Char) :
    ∃ word rest, c :: text = word ++ rest ∧ word ≠ [] ∧ (∀ c ∈ word, isBlank c = false) ∧
      ∀ c ∈ rest.head?, isBlank c = true := by
  refine ⟨(c :: text).takeWhile (!isBlank ·), (c :: text).dropWhile (!isBlank ·),
    List.takeWhile_append_dropWhile.symm, by simp [notBlank], ?_, ?_⟩
  · intro d member
    simpa using List.mem_takeWhile_imp member
  · intro d isHead
    have stops := List.head?_dropWhile_not (!isBlank ·) (c :: text)
    rw [isHead] at stops
    simpa using stops

/-- **Runs.** From a place that no word goes over, the words of a text are its runs. -/
theorem exists_tiles (parted : Parted before text) :
    ∃ runs, Tiles before text runs ∧
      Token.ofLines (.ofNat (before.count '\n' + 1)) (pieces (· == '\n') text) =
        runs.map Run.token := by
  induction length : text.length using Nat.strong_induction_on generalizing before text with
  | _ length ih =>
    subst length
    cases text with
    | nil => exact ⟨[], tiles_nil before, rfl⟩
    | cons c rest =>
      cases blank : isBlank c with
      | true =>
        have behind : Parted (before ++ [c]) rest := by
          intro d isLast _ _
          rw [List.getLast?_concat, Option.mem_some_iff] at isLast
          exact .inl (isLast ▸ blank)
        obtain ⟨runs, tiles, read⟩ := ih rest.length (Nat.lt_succ_self _) behind rfl
        refine ⟨runs, tiles.blank blank, ?_⟩
        rw [← read]
        by_cases isFeed : c = '\n'
        · subst isFeed
          rw [Token.ofLines_newline, List.count_append, List.count_singleton_self,
            UInt32.ofNat_add (_ + 1)]
          rfl
        · have noFeed : [c].count '\n' = 0 := List.count_eq_zero.2 (by simpa using Ne.symm isFeed)
          rw [Token.ofLines_blank blank isFeed, List.count_append, noFeed, Nat.add_zero]
      | false =>
        -- a word starts here and goes on to the first blank
        obtain ⟨word, rest', spelled, nonempty, unbroken, ends⟩ := exists_word blank rest
        have noFeed : word.count '\n' = 0 := List.count_eq_zero.2 (newline_not_mem unbroken)
        have shorter : rest'.length < (c :: rest).length := by
          have some := List.length_pos_iff.2 nonempty
          rw [spelled, List.length_append]
          omega
        rw [spelled] at parted ⊢
        have behind : Parted (before ++ word) rest' := fun _ _ d isHead => .inr (ends d isHead)
        obtain ⟨runs, tiles, read⟩ := ih rest'.length shorter behind rfl
        refine ⟨_, tiles.behind_word parted nonempty unbroken ends, ?_⟩
        rw [List.count_append, noFeed, Nat.add_zero] at read
        rw [Token.ofLines_word nonempty unbroken ends, read]
        rfl

/-! ## Lines -/

/-- A run stands on one of the lines of its text. -/
theorem Run.MaximalIn.line_le {text : String} (maximal : run.MaximalIn text.toList) :
    run.line ≤ lineCount text := by
  have feeds : newlines text = run.before.count '\n' + run.word.count '\n' +
      run.after.count '\n' := by
    rw [newlines, maximal.spelled, List.count_append, List.count_append]
  unfold line lineCount
  split
  next ends =>
    -- the line feed at the end is none of the characters of the run, so it comes after them
    have behind : '\n' ∈ run.after := by
      rcases List.eq_nil_or_concat run.after with none | ⟨front, last, found⟩
      · rcases List.eq_nil_or_concat run.word with empty | ⟨front, last, found⟩
        · exact absurd empty maximal.nonempty
        · rw [maximal.spelled, none, found] at ends
          refine absurd ?_ (newline_not_mem maximal.unbroken)
          rw [found, show last = '\n' by simpa using ends]
          simp
      · rw [maximal.spelled, found] at ends
        rw [found, show last = '\n' by simpa using ends]
        simp
    have positive := List.count_pos_iff.2 behind
    omega
  · omega

/-- A run that starts later stands on no earlier line. -/
theorem Run.MaximalIn.line_mono {text : List Char} {other : Run} (maximal : run.MaximalIn text)
    (isOther : other.MaximalIn text) (later : run.before.length < other.before.length) :
    run.line ≤ other.line := by
  have starts {run : Run} (maximal : run.MaximalIn text) : run.before <+: text := by
    rw [maximal.spelled, List.append_assoc]
    exact List.prefix_append ..
  have front := List.prefix_of_prefix_length_le (starts maximal) (starts isOther) later.le
  exact Nat.succ_le_succ (front.sublist.count_le _)

/-- The lines of a text below another come after those of the other. -/
theorem lineCount_append (front back : String) :
    lineCount (front ++ "\n" ++ back) = newlines front + 1 + lineCount back := by
  have ends : (front ++ "\n" ++ back).toList.getLast?.all (· = '\n') =
      back.toList.getLast?.all (· = '\n') := by
    have spelled : (front ++ "\n" ++ back).toList = front.toList ++ '\n' :: back.toList := by simp
    rw [spelled, List.getLast?_append, List.getLast?_cons]
    cases back.toList.getLast? <;> simp
  rw [lineCount, lineCount, Token.newlines_append, ends, Nat.add_assoc]

end Text

namespace Token

open Text

/-- The tokens of a text are those of its runs. -/
theorem exists_runs (text : String) :
    ∃ runs : List Run, (∀ run, run ∈ runs ↔ run.MaximalIn text.toList) ∧
      runs.Pairwise (fun first second => first.before.length < second.before.length) ∧
      tokenize text = runs.map Run.token := by
  have parted : Parted [] text.toList := fun _ isLast => nomatch isLast
  obtain ⟨runs, tiles, read⟩ := exists_tiles parted
  refine ⟨runs, fun run => ?_, tiles.increasing, read⟩
  rw [tiles.mem_iff]
  exact and_iff_left (Nat.zero_le _)

theorem exists_run_of_mem {text : String} {token : Token} (member : token ∈ tokenize text) :
    ∃ run : Run, run.MaximalIn text.toList ∧ run.token = token := by
  obtain ⟨runs, all, _, read⟩ := exists_runs text
  rw [read] at member
  obtain ⟨run, isRun, same⟩ := List.mem_map.1 member
  exact ⟨run, (all run).1 isRun, same⟩

variable {text : String}

/-- The token of a run has its line, where there are numbers for all lines. -/
theorem toNat_line_token (few : lineCount text < UInt32.size) {run : Run}
    (maximal : run.MaximalIn text.toList) : run.token.line.toNat = run.line :=
  UInt32.toNat_ofNat_of_lt' (Nat.lt_of_le_of_lt maximal.line_le few)

theorem placed_token (few : lineCount text < UInt32.size) {run : Run}
    (maximal : run.MaximalIn text.toList) : run.token.placed = run.placed :=
  Prod.ext rfl (toNat_line_token few maximal)

/-- No word is empty or holds a blank, and lines count from one. -/
theorem isWord_of_mem_tokenize (few : lineCount text < UInt32.size) {token : Token}
    (member : token ∈ tokenize text) : IsWord token.word ∧ 1 ≤ token.line := by
  obtain ⟨run, maximal, rfl⟩ := exists_run_of_mem member
  refine ⟨⟨fun empty => maximal.nonempty ?_, ?_⟩, ?_⟩
  · simpa [Run.token] using empty
  · simpa [Run.token] using maximal.unbroken
  · show (1 : UInt32).toNat ≤ run.token.line.toNat
    rw [toNat_line_token few maximal]
    exact Nat.le_add_left ..

/-- Lines never go back. -/
theorem pairwise_line_tokenize (few : lineCount text < UInt32.size) :
    (tokenize text).Pairwise fun first second => first.line ≤ second.line := by
  obtain ⟨runs, all, increasing, read⟩ := exists_runs text
  rw [read, List.pairwise_map]
  refine increasing.imp_of_mem fun {first second} isFirst isSecond later => ?_
  have isFirst := (all first).1 isFirst
  have isSecond := (all second).1 isSecond
  show first.token.line.toNat ≤ second.token.line.toNat
  rw [toNat_line_token few isFirst, toNat_line_token few isSecond]
  exact isFirst.line_mono isSecond later

/-- Where there are numbers for the lines of both texts together, those of the text below are all
moved down. -/
theorem placed_tokenize_append (front back : String)
    (few : lineCount (front ++ "\n" ++ back) < UInt32.size) :
    (tokenize (front ++ "\n" ++ back)).map placed =
      (tokenize front).map placed ++
        (tokenize back).map fun token =>
          (token.word, token.line.toNat + (newlines front + 1)) := by
  rw [tokenize_append, List.map_append, List.map_map]
  congr 1
  refine List.map_congr_left fun token member => ?_
  obtain ⟨run, maximal, rfl⟩ := exists_run_of_mem member
  rw [lineCount_append] at few
  have here := toNat_line_token (by omega) maximal
  have below := maximal.line_le
  have further : (UInt32.ofNat (newlines front + 1)).toNat = newlines front + 1 :=
    UInt32.toNat_ofNat_of_lt' (by omega)
  refine Prod.ext rfl ?_
  show (run.token.line + UInt32.ofNat (newlines front + 1)).toNat = _
  rw [UInt32.toNat_add, further]
  exact Nat.mod_eq_of_lt (by show _ < UInt32.size; omega)

/-- **Words and lines.** Let a text have lines that there are numbers for. Its tokens are its runs,
each once, in order and with one more than the line feeds before it as its line; so no word is empty
or holds a blank, and lines count from one and never go back. And the tokens of a text below another
are those that it has by itself, behind those of the other and as many lines further down. -/
theorem tokenize_runs (text front back : String) (few : lineCount text < UInt32.size)
    (fewJoined : lineCount (front ++ "\n" ++ back) < UInt32.size) :
    (∃ runs : List Run, (∀ run, run ∈ runs ↔ run.MaximalIn text.toList) ∧
      runs.Pairwise (fun first second => first.before.length < second.before.length) ∧
      (tokenize text).map placed = runs.map Run.placed) ∧
    (∀ token ∈ tokenize text, IsWord token.word ∧ 1 ≤ token.line) ∧
    (tokenize text).Pairwise (fun first second => first.line ≤ second.line) ∧
    (tokenize (front ++ "\n" ++ back)).map placed =
      (tokenize front).map placed ++
        (tokenize back).map fun token =>
          (token.word, token.line.toNat + (newlines front + 1)) := by
  obtain ⟨runs, all, increasing, read⟩ := exists_runs text
  refine ⟨⟨runs, all, increasing, ?_⟩, fun token => isWord_of_mem_tokenize few,
    pairwise_line_tokenize few, placed_tokenize_append front back fewJoined⟩
  rw [read, List.map_map]
  apply List.map_congr_left
  intro run member
  exact placed_token few ((all run).1 member)

/-- A text in which other separators than the line feed stand between words, too: a vertical tab, a
line separator, and a carriage return with and without a line feed. -/
def separated : String := "\x0ba\u2028b\r\n\n c\rd\u200be\u0085"

theorem tokenize_runs_separated :
    lineCount separated < UInt32.size ∧ lineCount ("a\r" ++ "\n" ++ separated) < UInt32.size ∧
    (tokenize separated).map placed = [("a", 1), ("b", 1), ("c", 3), ("d\u200be", 3)] ∧
    (∃ runs : List Run, (∀ run, run ∈ runs ↔ run.MaximalIn separated.toList) ∧
      runs.Pairwise (fun first second => first.before.length < second.before.length) ∧
      (tokenize separated).map placed = runs.map Run.placed) ∧
    (∀ token ∈ tokenize separated, IsWord token.word ∧ 1 ≤ token.line) ∧
    (tokenize separated).Pairwise (fun first second => first.line ≤ second.line) ∧
    (tokenize ("a\r" ++ "\n" ++ separated)).map placed =
      (tokenize "a\r").map placed ++
        (tokenize separated).map fun token =>
          (token.word, token.line.toNat + (newlines "a\r" + 1)) := by
  have few : lineCount separated < UInt32.size := by decide
  have fewJoined : lineCount ("a\r" ++ "\n" ++ separated) < UInt32.size := by decide
  exact ⟨few, fewJoined, by decide, tokenize_runs separated "a\r" separated few fewJoined⟩

end Token

end AdapterWiring
