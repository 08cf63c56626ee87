import AdapterWiring.Proofs.Grammar.Soundness

/-!
# What a repetition reads

A repetition goes on from where its last match has stopped. It ends when a match
fails, or after one that reads no word, since the next one would read no word
either. The first match of a reference with `+` is not watched in that way: if
it reads no word, the same match is made once more.

* **InRow** — matches in a row, with the words that each of them reads.
* **Progresses** — all matches but the last read a word.
* **Runs.exists_inRow** — the matches that `parseMany` finds do.
* **repetition_progresses** — so do those of every reference with `*`, and those
  of a reference with `+` if the first one reads a word.
* **idle_match_repeated** — a reference with `+` whose first match reads none.
-/

namespace AdapterWiring.Grammar

/-! ## Matches in a row -/

/-- Matches in a row: the words that each of them reads, with its tree. -/
inductive InRow (reader : List Token → Option (Outcome Node)) :
    List Token → List (List Token × Node) → List Token → Prop
  | nil {tokens : List Token} : InRow reader tokens [] tokens
  | cons {words more rest : List Token} {node : Node} {row : List (List Token × Node)} :
    reader (words ++ more) = some (.ok (node, more)) → InRow reader more row rest →
      InRow reader (words ++ more) ((words, node) :: row) rest

/-- All matches but the last read a word. -/
def Progresses (row : List (List Token × Node)) : Prop := ∀ item ∈ row.dropLast, item.1 ≠ []

theorem Progresses.cons {words : List Token} {node : Node} {row : List (List Token × Node)}
    (reads : words ≠ []) (progresses : Progresses row) : Progresses ((words, node) :: row) := by
  cases row with
  | nil => exact fun item member => nomatch member
  | cons next others => exact List.forall_mem_cons.2 ⟨reads, progresses⟩

/-- A reader leaves what comes after the words that it reads. -/
def LeavesRest (reader : List Token → Option (Outcome Node)) : Prop :=
  ∀ tokens node rest, reader tokens = some (.ok (node, rest)) → ∃ words, tokens = words ++ rest

theorem Sound.leavesRest {grammar : Grammar} {parse : RuleReader} (sound : grammar.Sound parse)
    (rule : String) : LeavesRest (parse rule) := by
  intro tokens node rest ok
  obtain ⟨matched, takes, _⟩ := sound rule tokens node rest ok
  exact ⟨matched.map Match.token, takes⟩

section Readers

variable {reader : List Token → Option (Outcome Node)} {tokens rest : List Token}
  {node : Node} {nodes : List Node}

/-- The matches of a repetition are in a row, and all but the last read a word. -/
theorem Runs.exists_inRow (leaves : LeavesRest reader) (runs : Runs reader tokens nodes rest) :
    ∃ row, InRow reader tokens row rest ∧ row.map Prod.snd = nodes ∧ Progresses row := by
  induction runs with
  | stop _ => exact ⟨[], .nil, rfl, fun item member => nomatch member⟩
  | @idle tokens rest node ok _ =>
    obtain ⟨words, rfl⟩ := leaves _ _ _ ok
    exact ⟨[(words, node)], .cons ok .nil, rfl, fun item member => nomatch member⟩
  | @more tokens rest last node nodes ok shorter _ ih =>
    obtain ⟨words, rfl⟩ := leaves _ _ _ ok
    obtain ⟨row, inRow, trees, progresses⟩ := ih
    have reads : words ≠ [] := by
      rintro rfl
      exact Nat.lt_irrefl _ shorter
    exact ⟨(words, node) :: row, .cons ok inRow, congrArg (node :: ·) trees,
      progresses.cons reads⟩

/-- Where a match reads no word, a repetition makes that match and ends. -/
theorem Runs.of_idle (idle : reader tokens = some (.ok (node, tokens)))
    (runs : Runs reader tokens nodes rest) : nodes = [node] ∧ rest = tokens := by
  cases runs with
  | stop failed => cases idle.symm.trans failed
  | idle ok _ =>
    cases idle.symm.trans ok
    exact ⟨rfl, rfl⟩
  | more ok shorter _ =>
    cases idle.symm.trans ok
    exact absurd shorter (Nat.lt_irrefl _)

theorem exists_inRow_of_zeroOrMore (leaves : LeavesRest reader)
    (ok : parseRepeat reader .zeroOrMore tokens = some (.ok (.list nodes, rest))) :
    ∃ row, InRow reader tokens row rest ∧ row.map Prod.snd = nodes ∧ Progresses row := by
  obtain ⟨_, found, same⟩ := parseRepeat_zeroOrMore_ok_iff.1 ok
  cases same
  exact (parseMany_eq_some_iff.1 found).exists_inRow leaves

theorem exists_inRow_of_oneOrMore (leaves : LeavesRest reader)
    (ok : parseRepeat reader .oneOrMore tokens = some (.ok (.list nodes, rest))) :
    ∃ first others, InRow reader tokens (first :: others) rest ∧
      (first :: others).map Prod.snd = nodes ∧
      (first.1 ≠ [] ∧ Progresses (first :: others) ∨ first.1 = [] ∧ others = [first]) := by
  obtain ⟨node, more, others, once, found, same⟩ := parseRepeat_oneOrMore_ok_iff.1 ok
  cases same
  have runs := parseMany_eq_some_iff.1 found
  obtain ⟨words, rfl⟩ := leaves _ _ _ once
  by_cases reads : words = []
  -- the same match is made again, and only then it counts as the last
  · subst reads
    obtain ⟨rfl, rfl⟩ := runs.of_idle once
    exact ⟨([], node), [([], node)], .cons once (.cons once .nil), rfl, .inr ⟨rfl, rfl⟩⟩
  · obtain ⟨row, inRow, trees, progresses⟩ := runs.exists_inRow leaves
    exact ⟨(words, node), row, .cons once inRow, congrArg (node :: ·) trees,
      .inl ⟨reads, progresses.cons reads⟩⟩

end Readers

/-! ## References -/

/-- **Progress.** Let a grammar be built from definitions, and a rule be referred to on any words.
The list of a reference with `*` holds the trees of matches in a row, all of which but the last read
a word. So does the list of a reference with `+` if the first match reads a word; if it reads none,
the list holds that match twice and nothing else. -/
theorem repetition_progresses (definitions : List (String × Definition)) (grammar : Grammar)
    (built : build definitions = .ok grammar) (depth : Nat) (rule : String)
    (tokens rest : List Token) (nodes : List Node) :
    let reader := parseRule grammar depth rule
    (parseRepeat reader .zeroOrMore tokens = some (.ok (.list nodes, rest)) →
      ∃ row, InRow reader tokens row rest ∧ row.map Prod.snd = nodes ∧ Progresses row) ∧
    (parseRepeat reader .oneOrMore tokens = some (.ok (.list nodes, rest)) →
      ∃ first others, InRow reader tokens (first :: others) rest ∧
        (first :: others).map Prod.snd = nodes ∧
        (first.1 ≠ [] ∧ Progresses (first :: others) ∨ first.1 = [] ∧ others = [first])) := by
  intro reader
  have leaves : LeavesRest reader :=
    (sound_parseRule (wellFormed_of_build built) depth).leavesRest rule
  exact ⟨exists_inRow_of_zeroOrMore leaves, exists_inRow_of_oneOrMore leaves⟩

/-- Any number of pauses, each of which may be a dash or nothing. -/
def pauses : List (String × Definition) :=
  [("any", .sequence [.ref "pause" .zeroOrMore]), ("some", .sequence [.ref "pause" .oneOrMore]),
    ("pause", .sequence [.ref "dash" .optional]), ("dash", .literal "-")]

/-- Their grammar. -/
def pauseGrammar : Grammar :=
  ⟨.ofList [("any", .sequence [.ref "pause" .zeroOrMore]),
    ("some", .sequence [.ref "pause" .oneOrMore]),
    ("pause", .sequence [.ref "dash" .optional]), ("dash", .literal "-")]⟩

/-- The tree of a dash. -/
def dash : Node := .fields [("dash", .literal)]

/-- The tree of a pause without one. -/
def silence : Node := .fields [("dash", .absent)]

theorem repetition_progresses_pauses :
    build pauses = .ok pauseGrammar ∧
    let reader := parseRule pauseGrammar 2 "pause"
    (parseRepeat reader .zeroOrMore [⟨"-", 1⟩, ⟨"-", 2⟩] =
        some (.ok (.list [dash, dash, silence], [])) ∧
      ∃ row, InRow reader [⟨"-", 1⟩, ⟨"-", 2⟩] row [] ∧
        row.map Prod.snd = [dash, dash, silence] ∧ Progresses row) ∧
    (parseRepeat reader .oneOrMore [⟨"-", 1⟩] = some (.ok (.list [dash, silence], [])) ∧
      ∃ first others, InRow reader [⟨"-", 1⟩] (first :: others) [] ∧
        (first :: others).map Prod.snd = [dash, silence] ∧
        (first.1 ≠ [] ∧ Progresses (first :: others) ∨ first.1 = [] ∧ others = [first])) := by
  have built : build pauses = .ok pauseGrammar := by cbv
  have any : parseRepeat (parseRule pauseGrammar 2 "pause") .zeroOrMore [⟨"-", 1⟩, ⟨"-", 2⟩] =
      some (.ok (.list [dash, dash, silence], [])) := by cbv
  have one : parseRepeat (parseRule pauseGrammar 2 "pause") .oneOrMore [⟨"-", 1⟩] =
      some (.ok (.list [dash, silence], [])) := by cbv
  exact ⟨built,
    ⟨any, (repetition_progresses pauses pauseGrammar built 2 "pause" _ _ _).1 any⟩,
    ⟨one, (repetition_progresses pauses pauseGrammar built 2 "pause" _ _ _).2 one⟩⟩

/-- A match that reads no word need not be the last one in a list: of no words at all, a pause is
read twice. -/
theorem idle_match_repeated :
    build pauses = .ok pauseGrammar ∧
    parse pauseGrammar "some" [] = .ok (.fields [("pause", .list [silence, silence])]) ∧
    let reader := parseRule pauseGrammar 2 "pause"
    parseRepeat reader .oneOrMore [] = some (.ok (.list [silence, silence], [])) ∧
    ∀ row, InRow reader [] row [] → row.map Prod.snd = [silence, silence] → ¬ Progresses row := by
  refine ⟨by cbv, by cbv, by cbv, fun row inRow trees progresses => ?_⟩
  obtain ⟨first, others, rfl, _, trees⟩ := List.map_eq_cons_iff.1 trees
  obtain ⟨second, last, rfl, _, _⟩ := List.map_eq_cons_iff.1 trees
  have reads : first.1 ≠ [] := progresses first (List.mem_cons_self ..)
  generalize start : ([] : List Token) = tokens at inRow
  cases inRow with
  | cons _ _ => exact reads (List.append_eq_nil_iff.1 start.symm).1

end AdapterWiring.Grammar
