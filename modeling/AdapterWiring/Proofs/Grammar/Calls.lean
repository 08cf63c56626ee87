import AdapterWiring.Proofs.Grammar.Depth
import AdapterWiring.Proofs.Grammar.Soundness

/-!
# Rules that call themselves

Reading a rule comes to an end unless some rule calls itself, directly or
through others, before a word has been read. Whether one may do so can be told
from the grammar: a sequence may start with each rule that is referred to after
parts that may stand for no words, an alternation with each alternative.

* **LeftCalls** — a rule may call another before it has read a word.
* **CallsAt** — it does so on given words.
* **Endless, exists_cycle** — where reading does not come to an end, a rule
  calls itself on a rest of the words.
* **Returns** — reading a text as a rule comes to an end.
* **parse_returns** — it always does if no rule may call itself in that way, and
  it does exactly if no rule does.
-/

namespace AdapterWiring.Grammar

/-! ## Calls -/

section

variable (grammar : Grammar)

/-- The rules that elements may start with: those that are referred to after parts that may stand
for no words. -/
inductive StartsWith : List Element → String → Prop
  | here {rule : String} {times : Repeat} {elements : List Element} :
    StartsWith (.ref rule times :: elements) rule
  | later {other rule : String} {times : Repeat} {elements : List Element} {node : Node} :
    grammar.DerivesRepeat other times [] node → StartsWith elements rule →
      StartsWith (.ref other times :: elements) rule

/-- A rule may call another before it has read a word. -/
inductive LeftCalls : String → String → Prop
  | sequence {name rule : String} {elements : List Element} :
    grammar.rule? name = some (.sequence elements) → grammar.StartsWith elements rule →
      LeftCalls name rule
  | alternation {name rule : String} {alternatives : List String} :
    grammar.rule? name = some (.alternation alternatives) → rule ∈ alternatives →
      LeftCalls name rule

variable (tokens : List Token)

/-- The rules that elements call on words before they have read any. -/
inductive ElementsCall : List Element → String → Prop
  | here {rule : String} {times : Repeat} {elements : List Element} :
    ElementsCall (.ref rule times :: elements) rule
  | later {depth : Nat} {other rule : String} {times : Repeat} {elements : List Element}
      {node : Node} : parseRepeat (parseRule grammar depth other) times tokens =
        some (.ok (node, tokens)) → ElementsCall elements rule →
      ElementsCall (.ref other times :: elements) rule

/-- The rules that alternatives call on words: each after those before it have failed. -/
inductive AlternativesCall : List String → String → Prop
  | here {rule : String} {others : List String} : AlternativesCall (rule :: others) rule
  | later {depth : Nat} {other rule : String} {others : List String} {failure : SyntaxError} :
    parseRule grammar depth other tokens = some (.error failure) → AlternativesCall others rule →
      AlternativesCall (other :: others) rule

/-- A rule calls another on words before it has read any. -/
inductive CallsAt : String → String → Prop
  | sequence {name rule : String} {elements : List Element} :
    grammar.rule? name = some (.sequence elements) → grammar.ElementsCall tokens elements rule →
      CallsAt name rule
  | alternation {name rule : String} {alternatives : List String} :
    grammar.rule? name = some (.alternation alternatives) →
      grammar.AlternativesCall tokens alternatives rule → CallsAt name rule

end

variable {grammar : Grammar} {depth : Nat} {name rule : String} {tokens rest : List Token}
  {node : Node}

/-- A part that reads no words may stand for none. -/
theorem WellFormed.derives_nil (wellFormed : grammar.WellFormed) {times : Repeat}
    (idle : parseRepeat (parseRule grammar depth name) times tokens =
      some (.ok (node, tokens))) : grammar.DerivesRepeat name times [] node := by
  obtain ⟨matched, takes, derives⟩ := (sound_parseRule wellFormed depth).repeat idle
  have nothing : matched.map Match.token = [] := List.self_eq_append_left.1 takes
  rwa [List.map_eq_nil_iff.1 nothing] at derives

theorem ElementsCall.startsWith (wellFormed : grammar.WellFormed) {elements : List Element}
    (calls : grammar.ElementsCall tokens elements rule) : grammar.StartsWith elements rule := by
  induction calls with
  | here => exact .here
  | later idle _ ih => exact .later (wellFormed.derives_nil idle) ih

theorem AlternativesCall.mem {alternatives : List String}
    (calls : grammar.AlternativesCall tokens alternatives rule) : rule ∈ alternatives := by
  induction calls with
  | here => exact List.mem_cons_self ..
  | later _ _ ih => exact List.mem_cons_of_mem _ ih

/-- What a rule calls it may call. -/
theorem CallsAt.leftCalls (wellFormed : grammar.WellFormed)
    (calls : grammar.CallsAt tokens name rule) : grammar.LeftCalls name rule := by
  cases calls with
  | sequence found calls => exact .sequence found (calls.startsWith wellFormed)
  | alternation found calls => exact .alternation found calls.mem

/-- The rules that elements refer to before the first word. -/
def leading : List Element → List String
  | .ref rule _ :: elements => rule :: leading elements
  | _ => []

/-- The rules that a rule refers to before the first word. -/
def leadingOf : Rule → List String
  | .sequence elements => leading elements
  | rule => rule.references

theorem StartsWith.mem_leading {elements : List Element}
    (starts : grammar.StartsWith elements rule) :
    rule ∈ leading elements := by
  induction starts with
  | here => exact List.mem_cons_self ..
  | later _ _ ih => exact List.mem_cons_of_mem _ ih

theorem LeftCalls.exists_rule (calls : grammar.LeftCalls name rule) :
    ∃ caller, grammar.rule? name = some caller ∧ rule ∈ leadingOf caller := by
  cases calls with
  | sequence found starts => exact ⟨_, found, starts.mem_leading⟩
  | alternation found member => exact ⟨_, found, member⟩

/-- No rule may call itself where all rules refer to lower ones only before the first word. -/
theorem not_leftCalls_self (rank : String → Nat)
    (lower : ∀ entry ∈ grammar.rules.entries, ∀ rule ∈ leadingOf entry.2, rank rule < rank entry.1)
    (name : String) : ¬ Relation.TransGen grammar.LeftCalls name name := by
  have lt {rule : String} (calls : Relation.TransGen grammar.LeftCalls name rule) :
      rank rule < rank name := by
    induction calls with
    | single calls =>
      obtain ⟨caller, found, member⟩ := calls.exists_rule
      exact lower _ (NameMap.mem_entries_of_get?_eq_some found) _ member
    | tail _ calls ih =>
      obtain ⟨caller, found, member⟩ := calls.exists_rule
      exact (lower _ (NameMap.mem_entries_of_get?_eq_some found) _ member).trans ih
  exact fun cycle => Nat.lt_irrefl _ (lt cycle)

/-! ## Where a depth is not enough -/

section Parts

variable {reader : List Token → Option (Outcome Node)}

theorem exists_none_of_parseMany
    (leaves : ∀ {words node rest}, reader words = some (.ok (node, rest)) → rest <:+ words)
    (unread : parseMany reader tokens = none) : ∃ rest, rest <:+ tokens ∧ reader rest = none := by
  fun_induction parseMany reader tokens
  case case1 tokens here => exact ⟨tokens, List.suffix_rfl, here⟩
  case case2 => cases unread
  case case3 ok _ ih =>
    obtain ⟨rest, inside, here⟩ := ih (Option.map_eq_none_iff.1 unread)
    exact ⟨rest, inside.trans (leaves ok), here⟩
  case case4 => cases unread

theorem exists_none_of_parseRepeat
    (leaves : ∀ {words node rest}, reader words = some (.ok (node, rest)) → rest <:+ words)
    {times : Repeat} (unread : parseRepeat reader times tokens = none) :
    ∃ rest, rest <:+ tokens ∧ reader rest = none := by
  cases times with
  | one => exact ⟨tokens, List.suffix_rfl, unread⟩
  | optional => exact ⟨tokens, List.suffix_rfl, Option.map_eq_none_iff.1 unread⟩
  | zeroOrMore => exact exists_none_of_parseMany leaves (Option.map_eq_none_iff.1 unread)
  | oneOrMore =>
    rw [parseRepeat] at unread
    split at unread
    next here => exact ⟨tokens, List.suffix_rfl, here⟩
    next => cases unread
    next ok =>
      obtain ⟨rest, inside, here⟩ :=
        exists_none_of_parseMany leaves (Option.map_eq_none_iff.1 unread)
      exact ⟨rest, inside.trans (leaves ok), here⟩

/-- Where a depth is not enough for elements, it is not enough for a rule that they refer to: either
on a rest of the words, or on the same words, and the elements call it there. -/
theorem exists_none_of_parseElements {elements : List Element}
    (unread : parseElements (parseRule grammar depth) elements tokens = none) :
    ∃ called rest, rest <:+ tokens ∧ parseRule grammar depth called rest = none ∧
      (rest = tokens → grammar.ElementsCall tokens elements called) := by
  induction elements generalizing tokens with
  | nil => cases unread
  | cons element elements ih =>
    cases element with
    | literal word =>
      rw [parseElements] at unread
      split at unread
      · cases unread
      next more ok =>
        obtain ⟨token, rfl, _⟩ := expectWord_ok_iff.1 ok
        obtain ⟨called, rest, inside, here, _⟩ := ih unread
        refine ⟨called, rest, inside.trans (List.suffix_cons _ _), here, ?_⟩
        rintro rfl
        exact absurd inside.length_le (by simp)
    | ref rule times =>
      rw [parseElements] at unread
      split at unread
      next atRule =>
        obtain ⟨rest, inside, here⟩ := exists_none_of_parseRepeat suffix_of_parseRule atRule
        exact ⟨rule, rest, inside, here, fun _ => .here⟩
      · cases unread
      next node more ok =>
        obtain ⟨called, rest, inside, here, calls⟩ := ih (Option.map_eq_none_iff.1 unread)
        have leaves := suffix_of_parseRepeat ok
        refine ⟨called, rest, inside.trans leaves, here, ?_⟩
        rintro rfl
        -- nothing is read before the rest, which is all of the words
        obtain rfl := leaves.eq_of_length_le inside.length_le
        exact .later ok (calls rfl)

theorem exists_none_of_parseAlternatives {alternatives : List String} {failures : List SyntaxError}
    (unread : parseAlternatives (parseRule grammar depth) failures alternatives tokens = none) :
    ∃ called, parseRule grammar depth called tokens = none ∧
      grammar.AlternativesCall tokens alternatives called := by
  induction alternatives generalizing failures with
  | nil => cases unread
  | cons alternative alternatives ih =>
    rw [parseAlternatives] at unread
    split at unread
    next here => exact ⟨alternative, here, .here⟩
    · cases unread
    next failed =>
      obtain ⟨called, here, calls⟩ := ih unread
      exact ⟨called, here, .later failed calls⟩

end Parts

/-! ## Reading without an end -/

/-- No depth is enough to read a rule. -/
def Endless (grammar : Grammar) (name : String) (tokens : List Token) : Prop :=
  ∀ depth, parseRule grammar depth name tokens = none

theorem endless_of_depthBound {deeper : List Token} (inside : tokens <:+ deeper)
    (unread : parseRule grammar (depthBound grammar deeper) name tokens = none) :
    grammar.Endless name tokens := by
  intro depth
  cases found : parseRule grammar depth name tokens with
  | none => rfl
  | some outcome =>
    rw [parseRule_mono (parseRule_depthBound found) (depthBound_le inside)] at unread
    cases unread

theorem Endless.mem_names (endless : grammar.Endless name tokens) : name ∈ grammar.names := by
  rw [Grammar.mem_names]
  cases found : grammar.rule? name with
  | some rule => exact ⟨rule, rfl⟩
  | none =>
    have unread := endless 1
    rw [parseRule, parseRuleWith, found] at unread
    cases unread

/-- Where a rule is read without an end, so is a rule that it reads: either on a rest of the words,
or on the same words, and then it calls it there. -/
theorem Endless.exists_called (endless : grammar.Endless name tokens) :
    ∃ called rest, rest <:+ tokens ∧ grammar.Endless called rest ∧
      (rest = tokens → grammar.CallsAt tokens name called) := by
  have unread := endless (depthBound grammar tokens + 1)
  rw [parseRule, parseRuleWith] at unread
  split at unread
  · cases unread
  · cases unread
  · cases unread
  next elements found =>
    obtain ⟨called, rest, inside, here, calls⟩ :=
      exists_none_of_parseElements (Option.map_eq_none_iff.1 unread)
    exact ⟨called, rest, inside, endless_of_depthBound inside here,
      fun same => .sequence found (calls same)⟩
  next alternatives found =>
    obtain ⟨called, here, calls⟩ := exists_none_of_parseAlternatives unread
    exact ⟨called, tokens, List.suffix_rfl, endless_of_depthBound List.suffix_rfl here,
      fun _ => .alternation found calls⟩

/-- In a finite set in which one can always go on one gets back to where one was. -/
theorem exists_transGen_self {α : Type} {goes : α → α → Prop} {places : Finset α}
    (nonempty : places.Nonempty) (goesOn : ∀ place ∈ places, ∃ next ∈ places, goes place next) :
    ∃ place, Relation.TransGen goes place place := by
  by_contra never
  push Not at never
  let after (second first : places) : Prop := Relation.TransGen goes first second
  have transitive : IsTrans places after := ⟨fun _ _ _ first second => second.trans first⟩
  have irreflexive : Std.Irrefl after := ⟨fun place => never place⟩
  have wellFounded : WellFounded after := Finite.wellFounded_of_trans_of_irrefl after
  obtain ⟨start, isStart⟩ := nonempty
  obtain ⟨last, _, isLast⟩ := wellFounded.has_min Set.univ ⟨⟨start, isStart⟩, trivial⟩
  obtain ⟨next, isNext, goesNext⟩ := goesOn last last.2
  exact isLast ⟨next, isNext⟩ trivial (.single goesNext)

/-- **Endless reading.** Where a rule is read without an end, some rule calls itself on a rest of
the words before it has read any of them. -/
theorem Endless.exists_cycle (endless : grammar.Endless name tokens) :
    ∃ rest looping, rest <:+ tokens ∧ Relation.TransGen (grammar.CallsAt rest) looping looping := by
  classical
  induction length : tokens.length using Nat.strong_induction_on generalizing name tokens with
  | _ length ih =>
    subst length
    by_cases shorter : ∃ called rest, rest <:+ tokens ∧ rest ≠ tokens ∧ grammar.Endless called rest
    · obtain ⟨called, rest, inside, different, alsoEndless⟩ := shorter
      have less : rest.length < tokens.length :=
        inside.length_le.lt_of_ne fun same => different (inside.eq_of_length same)
      obtain ⟨last, looping, insideRest, cycle⟩ := ih _ less alsoEndless rfl
      exact ⟨last, looping, insideRest.trans inside, cycle⟩
    · -- all rules that are read without an end are read on the same words
      have goesOn : ∀ name ∈ grammar.names.filter (grammar.Endless · tokens),
          ∃ called ∈ grammar.names.filter (grammar.Endless · tokens),
            grammar.CallsAt tokens name called := by
        intro name member
        obtain ⟨called, rest, inside, alsoEndless, calls⟩ :=
          (Finset.mem_filter.1 member).2.exists_called
        by_cases same : rest = tokens
        · rw [same] at alsoEndless
          exact ⟨called, Finset.mem_filter.2 ⟨alsoEndless.mem_names, alsoEndless⟩, calls same⟩
        · exact absurd ⟨called, rest, inside, same, alsoEndless⟩ shorter
      obtain ⟨looping, cycle⟩ := exists_transGen_self
        ⟨name, Finset.mem_filter.2 ⟨endless.mem_names, endless⟩⟩ goesOn
      exact ⟨tokens, looping, List.suffix_rfl, cycle⟩

/-! ## Calling without an end -/

theorem parseRepeat_eq_none {reader : List Token → Option (Outcome Node)}
    (unread : reader tokens = none) (times : Repeat) : parseRepeat reader times tokens = none := by
  cases times <;> simp [parseRepeat, parseMany, unread]

/-- A depth that is not enough for a rule is not enough for elements that call it. -/
theorem ElementsCall.eq_none {elements : List Element}
    (calls : grammar.ElementsCall tokens elements rule)
    (unread : parseRule grammar depth rule tokens = none) :
    parseElements (parseRule grammar depth) elements tokens = none := by
  induction calls with
  | here => rw [parseElements, parseRepeat_eq_none unread]
  | @later _ other _ times _ node idle _ ih =>
    rw [parseElements]
    cases found : parseRepeat (parseRule grammar depth other) times tokens with
    | none => rfl
    | some outcome =>
      rw [parseRepeat_unique found idle]
      dsimp only
      rw [ih unread]
      rfl

theorem AlternativesCall.eq_none {alternatives : List String}
    (calls : grammar.AlternativesCall tokens alternatives rule)
    (unread : parseRule grammar depth rule tokens = none) (failures : List SyntaxError) :
    parseAlternatives (parseRule grammar depth) failures alternatives tokens = none := by
  induction calls generalizing failures with
  | here => rw [parseAlternatives, unread]
  | @later _ other _ _ _ failed _ ih =>
    rw [parseAlternatives]
    cases found : parseRule grammar depth other tokens with
    | none => rfl
    | some outcome =>
      rw [parseRule_unique found failed]
      exact ih unread _

theorem CallsAt.eq_none (calls : grammar.CallsAt tokens name rule)
    (unread : parseRule grammar depth rule tokens = none) :
    parseRule grammar (depth + 1) name tokens = none := by
  cases calls with
  | sequence found calls =>
    rw [parseRule, parseRuleWith, found]
    dsimp only
    rw [calls.eq_none unread]
    rfl
  | alternation found calls =>
    rw [parseRule_alternation found]
    exact calls.eq_none unread []

theorem parseRule_eq_none_of_succ (unread : parseRule grammar (depth + 1) name tokens = none) :
    parseRule grammar depth name tokens = none := by
  cases found : parseRule grammar depth name tokens with
  | none => rfl
  | some outcome => exact absurd (unread.symm.trans (parseRule_succ found)) (by simp)

/-- A rule that calls itself before it has read a word is read without an end. -/
theorem endless_of_cycle (cycle : Relation.TransGen (grammar.CallsAt tokens) name name) :
    grammar.Endless name tokens := by
  have oneMore {depth : Nat} {rule : String}
      (calls : Relation.TransGen (grammar.CallsAt tokens) name rule)
      (unread : parseRule grammar depth rule tokens = none) :
      parseRule grammar (depth + 1) name tokens = none := by
    induction calls with
    | single calls => exact calls.eq_none unread
    | tail _ calls ih => exact ih (parseRule_eq_none_of_succ (calls.eq_none unread))
  intro depth
  induction depth with
  | zero => rfl
  | succ depth ih => exact oneMore cycle ih

/-! ## Coming to an end -/

/-- Reading a text as a rule comes to an end: no greater depth gives another result, and neither the
result nor the cause of it is that the depth was not enough. -/
structure Returns (grammar : Grammar) (start : String) (tokens : List Token) : Prop where
  settles : ∃ outcome, ∀ depth, depthBound grammar tokens ≤ depth →
    parseRule grammar depth start tokens = some outcome
  ends : parse grammar start tokens ≠ .error .endless
  stops : ∀ line, parse grammar start tokens ≠ .error (.stopped line .endless)

theorem stoppedRepetition?_ofRule (never : ∀ name, ¬ grammar.Endless name tokens) {start : String}
    {cause : SyntaxError} (stopped : stoppedRepetition? grammar start tokens = some cause) :
    cause.OfRule := by
  unfold stoppedRepetition? at stopped
  split at stopped
  next =>
    split at stopped
    next rule times _ =>
      split at stopped
      · split at stopped
        next unread => exact absurd (endless_of_depthBound List.suffix_rfl unread) (never rule)
        next failed =>
          cases stopped
          exact ofRule_of_parseRule failed
        · cases stopped
      · cases stopped
    · cases stopped
  · cases stopped

/-- The error of a text is that its rule is read without an end or fails, or that the text goes
on. -/
theorem parse_error_cases {start : String} {failure : SyntaxError}
    (failed : parse grammar start tokens = .error failure) :
    parseRule grammar (depthBound grammar tokens) start tokens = none ∧ failure = .endless ∨
    parseRule grammar (depthBound grammar tokens) start tokens = some (.error failure) ∨
    ∃ node token rest,
      parseRule grammar (depthBound grammar tokens) start tokens =
        some (.ok (node, token :: rest)) ∧
      (failure = .trailing token.line ∨ ∃ cause, failure = .stopped token.line cause ∧
        stoppedRepetition? grammar start (token :: rest) = some cause) := by
  unfold parse at failed
  split at failed
  next unread => exact .inl ⟨unread, (Except.error.inj failed).symm⟩
  next found =>
    cases failed
    exact .inr (.inl found)
  · cases failed
  next node token rest found =>
    refine .inr (.inr ⟨node, token, rest, found, ?_⟩)
    split at failed
    next cause stopped => exact .inr ⟨cause, (Except.error.inj failed).symm, stopped⟩
    next => exact .inl (Except.error.inj failed).symm

/-- Where no rule is read without an end, texts are not either. -/
theorem returns_of_forall_not_endless
    (never : ∀ name rest, rest <:+ tokens → ¬ grammar.Endless name rest) (start : String) :
    grammar.Returns start tokens := by
  cases found : parseRule grammar (depthBound grammar tokens) start tokens with
  | none =>
    exact absurd (endless_of_depthBound List.suffix_rfl found) (never start _ List.suffix_rfl)
  | some outcome =>
    have causes {failure : SyntaxError} (failed : parse grammar start tokens = .error failure) :
        failure ≠ .endless ∧ ∀ line, failure ≠ .stopped line .endless := by
      rcases parse_error_cases failed with ⟨unread, _⟩ | failed |
        ⟨node, token, rest, ok, rfl | ⟨cause, rfl, stopped⟩⟩
      · rw [found] at unread
        cases unread
      · have ofRule := ofRule_of_parseRule failed
        constructor
        · rintro rfl
          exact ofRule
        · rintro line rfl
          exact ofRule
      · exact ⟨nofun, nofun⟩
      · refine ⟨nofun, fun line same => ?_⟩
        cases same
        exact stoppedRepetition?_ofRule (fun name => never name _ (suffix_of_parseRule ok)) stopped
    exact ⟨⟨outcome, fun depth le => parseRule_mono found le⟩, fun failed => (causes failed).1 rfl,
      fun line failed => (causes failed).2 line rfl⟩

/-- Nothing is read without an end where every rule refers to rules of a lower rank. -/
theorem returns_of_ranked {rank : String → Nat} (ranked : grammar.Ranked rank) (start : String)
    (tokens : List Token) : grammar.Returns start tokens :=
  returns_of_forall_not_endless (fun name rest _ endless => by
    have enough := parseRule_isSome ranked (Nat.lt_succ_self (rank name)) rest
    rw [endless] at enough
    cases enough) start

/-- **Termination.** Let a grammar be built from definitions. If no rule may call itself before it
has read a word, neither directly nor through others, then reading any text as any rule comes to an
end. More exactly, reading always does if and only if on no words a rule does call itself before it
has read any of them. -/
theorem parse_returns (definitions : List (String × Definition)) (grammar : Grammar)
    (built : build definitions = .ok grammar) :
    ((∀ name, ¬ Relation.TransGen grammar.LeftCalls name name) →
      ∀ start tokens, grammar.Returns start tokens) ∧
    ((∀ start tokens, grammar.Returns start tokens) ↔
      ∀ tokens name, ¬ Relation.TransGen (grammar.CallsAt tokens) name name) := by
  have wellFormed := wellFormed_of_build built
  have ends (never : ∀ tokens name, ¬ Relation.TransGen (grammar.CallsAt tokens) name name)
      (start : String) (tokens : List Token) : grammar.Returns start tokens := by
    refine returns_of_forall_not_endless (fun name rest _ endless => ?_) start
    obtain ⟨last, looping, _, cycle⟩ := endless.exists_cycle
    exact never last looping cycle
  refine ⟨fun never => ends fun tokens name cycle => ?_, fun returns tokens name cycle => ?_, ends⟩
  · exact never name (cycle.lift id fun _ _ calls => calls.leftCalls wellFormed)
  · obtain ⟨outcome, settles⟩ := (returns name tokens).settles
    have found := settles _ (Nat.le_refl _)
    rw [endless_of_cycle cycle] at found
    cases found

/-- Lists in brackets, with any number of commas before each. -/
def brackets : List (String × Definition) :=
  [("list", .sequence [.ref "gap" .zeroOrMore, .literal "(", .ref "entries" .one, .literal ")"]),
    ("entries", .sequence [.ref "entry" .zeroOrMore]), ("entry", .alternation ["list", "word"]),
    ("gap", .sequence [.ref "comma" .optional]), ("comma", .literal ","), ("word", .literal "x")]

/-- Their grammar. -/
def bracketGrammar : Grammar :=
  ⟨.ofList [("list", .sequence [.ref "gap" .zeroOrMore, .literal "(", .ref "entries" .one,
      .literal ")"]),
    ("entries", .sequence [.ref "entry" .zeroOrMore]), ("entry", .alternation ["list", "word"]),
    ("gap", .sequence [.ref "comma" .optional]), ("comma", .literal ","), ("word", .literal "x")]⟩

/-- How many rules a rule may call through one another before it has read a word. -/
def bracketRank : String → Nat
  | "entries" => 4
  | "entry" => 3
  | "list" => 2
  | "gap" => 1
  | _ => 0

/-- The words of a list. -/
def bracketText : List Token :=
  [⟨",", 1⟩, ⟨"(", 1⟩, ⟨"x", 2⟩, ⟨",", 2⟩, ⟨"(", 2⟩, ⟨")", 2⟩, ⟨")", 3⟩]

theorem parse_returns_brackets :
    build brackets = .ok bracketGrammar ∧
    (∀ name, ¬ Relation.TransGen bracketGrammar.LeftCalls name name) ∧
    bracketGrammar.Returns "list" bracketText ∧
    ∀ tokens name, ¬ Relation.TransGen (bracketGrammar.CallsAt tokens) name name := by
  have built : build brackets = .ok bracketGrammar := by cbv
  have never : ∀ name, ¬ Relation.TransGen bracketGrammar.LeftCalls name name :=
    not_leftCalls_self bracketRank (by decide)
  obtain ⟨returns, exactly⟩ := parse_returns brackets bracketGrammar built
  exact ⟨built, never, returns never _ _, exactly.1 (returns never)⟩

end AdapterWiring.Grammar
