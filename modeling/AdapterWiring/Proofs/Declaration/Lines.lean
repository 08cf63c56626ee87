import AdapterWiring.Proofs.Declaration.Acceptance
import AdapterWiring.Proofs.Text.Lines

/-!
# Declarations on other lines

Which declaration words spell does not depend on their lines, which only go into
its operands. So texts of declarations can be put below one another: each ends
where it ends by itself, and no part of a declaration is looked for in the next
text.

* **mapLines** — a declaration on other lines; **lines** — the lines it holds.
* **Spells.mapLines** — words on other lines spell the declaration on these.
* **ofText_append** — the declarations of two texts, one below the other.
* **toNat_add_of_mem_lines** — the lines of the lower text are counted on.
-/

namespace AdapterWiring

open Declaration Text

/-! ## Lines -/

section Lines

variable (change : UInt32 → UInt32)

/-- A class operand on another line. -/
def ClassOperand.mapLine (operand : ClassOperand) : ClassOperand :=
  { operand with line := change operand.line }

/-- A member operand on another line. -/
def MemberOperand.mapLine (operand : MemberOperand) : MemberOperand :=
  { operand with line := change operand.line }

/-- A target on another line. -/
def Target.mapLine : Target → Target
  | .field operand => .field (operand.mapLine change)

/-- A source on another line. -/
def Source.mapLine : Source → Source
  | .field operand => .field (operand.mapLine change)
  | .fresh operand => .fresh (operand.mapLine change)
  | .call operand => .call (operand.mapLine change)
  | .single operand => .single (operand.mapLine change)

/-- The origin of a declaration on another line. -/
def Origin.mapLine (origin : Origin) : Origin := { origin with line := change origin.line }

/-- A declaration on other lines. -/
def Declaration.mapLines : Declaration → Declaration
  | .association ⟨target, source, using?, origin⟩ =>
    .association ⟨target.mapLine change, source.mapLine change,
      using?.map (ClassOperand.mapLine change), origin.mapLine change⟩
  | .ranking ⟨higher, lower, origin⟩ =>
    .ranking ⟨higher.mapLine change, lower.mapLine change, origin.mapLine change⟩

/-- All lines that a declaration holds: those of its operands, and its own. -/
def Declaration.lines : Declaration → List UInt32
  | .association ⟨target, source, using?, origin⟩ =>
    [target.line, source.line] ++ (using?.map ClassOperand.line).toList ++ [origin.line]
  | .ranking ⟨higher, lower, origin⟩ => [higher.line, lower.line, origin.line]

end Lines

namespace Declaration

variable {file : String} {piece : List Token} {declaration : Declaration}

/-! ## Words on other lines -/

section Words

variable (change : UInt32 → UInt32)

theorem NamesClass.mapLine {token : Token} {operand : ClassOperand}
    (names : NamesClass token operand) :
    NamesClass (token.mapLine change) (operand.mapLine change) := by
  obtain ⟨isName, rfl⟩ := names
  exact ⟨isName, rfl⟩

theorem NamesMember.mapLine {name : String} {line : UInt32} {operand : MemberOperand}
    (names : NamesMember name line operand) :
    NamesMember name (change line) (operand.mapLine change) where
  isName := names.isName
  render := names.render
  undotted := names.undotted
  line := congrArg change names.line

theorem SpellsTarget.mapLine {target : Target} (spells : SpellsTarget piece target) :
    SpellsTarget (piece.map (Token.mapLine change)) (target.mapLine change) := by
  cases spells with
  | field isKeyword names => exact .field isKeyword (names.mapLine change)

theorem SpellsSource.mapLine {source : Source} (spells : SpellsSource piece source) :
    SpellsSource (piece.map (Token.mapLine change)) (source.mapLine change) := by
  cases spells with
  | field isKeyword names => exact .field isKeyword (names.mapLine change)
  | fresh isKeyword names => exact .fresh isKeyword (names.mapLine change)
  | call isKeyword isCall names => exact .call isKeyword isCall (names.mapLine change)
  | single isKeyword names => exact .single isKeyword (names.mapLine change)

theorem SpellsAdapter.mapLine {adapter : ClassOperand} (spells : SpellsAdapter piece adapter) :
    SpellsAdapter (piece.map (Token.mapLine change)) (adapter.mapLine change) := by
  cases spells with
  | asked isKeyword names => exact .asked isKeyword (names.mapLine change)

theorem line_mapLine (target : Target) : (target.mapLine change).line = change target.line := by
  cases target
  rfl

/-- Words on other lines spell the declaration on these lines. -/
theorem Spells.mapLines (spells : Spells file piece declaration) :
    Spells file (piece.map (Token.mapLine change)) (declaration.mapLines change) := by
  cases spells with
  | @association first second inTarget inSource target _ isFirst spellsTarget isSecond
      spellsSource =>
    rw [List.map_append]
    have moved : Spells file (first.mapLine change :: inTarget.map (Token.mapLine change) ++
        second.mapLine change :: inSource.map (Token.mapLine change)) _ :=
      .association isFirst (spellsTarget.mapLine change) isSecond (spellsSource.mapLine change)
    rw [line_mapLine] at moved
    exact moved
  | @adapted first second inTarget inSource inAdapter target _ _ isFirst spellsTarget isSecond
      spellsSource spellsAdapter =>
    rw [List.map_append, List.map_append]
    have moved : Spells file (first.mapLine change :: inTarget.map (Token.mapLine change) ++
        second.mapLine change :: inSource.map (Token.mapLine change) ++
          inAdapter.map (Token.mapLine change)) _ :=
      .adapted isFirst (spellsTarget.mapLine change) isSecond (spellsSource.mapLine change)
        (spellsAdapter.mapLine change)
    rw [line_mapLine] at moved
    exact moved
  | ranking isFirst isSecond higher isThird lower =>
    exact .ranking isFirst isSecond (higher.mapLine change) isThird (lower.mapLine change)

end Words

/-! ## Lines of words -/

theorem SpellsTarget.exists_line {target : Target} (spells : SpellsTarget piece target) :
    ∃ token ∈ piece, token.line = target.line := by
  cases spells with
  | @field _ token _ _ names => exact ⟨token, by simp, names.line.symm⟩

theorem SpellsSource.exists_line {source : Source} (spells : SpellsSource piece source) :
    ∃ token ∈ piece, token.line = source.line := by
  cases spells with
  | @field _ token _ _ names => exact ⟨token, by simp, names.line.symm⟩
  | @fresh _ token _ _ names => exact ⟨token, by simp, (congrArg ClassOperand.line names.2).symm⟩
  | @call _ token _ _ _ _ names => exact ⟨token, by simp, names.line.symm⟩
  | @single _ token _ _ names => exact ⟨token, by simp, (congrArg ClassOperand.line names.2).symm⟩

/-- The lines of a declaration are lines of its words. -/
theorem Spells.exists_line (spells : Spells file piece declaration) :
    ∀ line ∈ declaration.lines, ∃ token ∈ piece, token.line = line := by
  intro line member
  cases spells with
  | association _ spellsTarget _ spellsSource =>
    obtain ⟨inTarget, isTarget, atTarget⟩ := spellsTarget.exists_line
    obtain ⟨inSource, isSource, atSource⟩ := spellsSource.exists_line
    simp only [lines, Option.map_none, Option.toList_none, List.append_nil, List.cons_append,
      List.nil_append, List.mem_cons, List.not_mem_nil, or_false] at member
    rcases member with rfl | rfl | rfl
    · exact ⟨inTarget, by simp [isTarget], atTarget⟩
    · exact ⟨inSource, by simp [isSource], atSource⟩
    · -- an association stands on the line of its target
      exact ⟨inTarget, by simp [isTarget], atTarget⟩
  | adapted _ spellsTarget _ spellsSource spellsAdapter =>
    obtain ⟨inTarget, isTarget, atTarget⟩ := spellsTarget.exists_line
    obtain ⟨inSource, isSource, atSource⟩ := spellsSource.exists_line
    cases spellsAdapter with
    | @asked _ token _ _ names =>
      simp only [lines, Option.map_some, Option.toList_some, List.cons_append, List.nil_append,
        List.mem_cons, List.not_mem_nil, or_false] at member
      rcases member with rfl | rfl | rfl | rfl
      · exact ⟨inTarget, by simp [isTarget], atTarget⟩
      · exact ⟨inSource, by simp [isSource], atSource⟩
      · exact ⟨token, by simp, (congrArg ClassOperand.line names.2).symm⟩
      · exact ⟨inTarget, by simp [isTarget], atTarget⟩
  | @ranking _ _ _ inHigher inLower _ _ _ _ higher _ lower =>
    have atHigher := (congrArg ClassOperand.line higher.2).symm
    simp only [lines, List.mem_cons, List.not_mem_nil, or_false] at member
    rcases member with rfl | rfl | rfl
    · exact ⟨inHigher, by simp, atHigher⟩
    · exact ⟨inLower, by simp, (congrArg ClassOperand.line lower.2).symm⟩
    · exact ⟨inHigher, by simp, atHigher⟩

/-- Each of several declarations is spelled by some of their words. -/
theorem exists_spells_of_mem {pieces : List (List Token)} {declarations : List Declaration}
    (each : List.Forall₂ (Spells file) pieces declarations) (member : declaration ∈ declarations) :
    ∃ piece ∈ pieces, Spells file piece declaration := by
  induction each with
  | nil => cases member
  | cons spells _ ih =>
    rcases List.mem_cons.1 member with rfl | later
    · exact ⟨_, List.mem_cons_self .., spells⟩
    · obtain ⟨piece, isPiece, spells⟩ := ih later
      exact ⟨piece, List.mem_cons_of_mem _ isPiece, spells⟩

/-- A declaration stands in the file that it was read from. -/
theorem Spells.origin_file (spells : Spells file piece declaration) :
    declaration.origin.file = file := by
  cases spells with
  | association _ _ _ _ => rfl
  | adapted _ _ _ _ _ => rfl
  | ranking _ _ _ _ _ => rfl

/-! ## Texts below one another -/

section Texts

variable {front back : String} {first second : List Declaration}

/-- **Seams.** Two texts that are accepted, one below the other, have the declarations of the first
and then those of the second, these as many lines further down as the first takes. -/
theorem ofText_append (acceptsFirst : ofText file front = .ok first)
    (acceptsSecond : ofText file back = .ok second) :
    ofText file (front ++ "\n" ++ back) =
      .ok (first ++ second.map (mapLines (· + .ofNat (newlines front + 1)))) := by
  obtain ⟨pieces, split, each⟩ := (ofTokens_ok_iff file _).1 acceptsFirst
  obtain ⟨others, splitOthers, eachOther⟩ := (ofTokens_ok_iff file _).1 acceptsSecond
  let lower (line : UInt32) : UInt32 := line + .ofNat (newlines front + 1)
  refine (ofTokens_ok_iff file _).2 ⟨pieces ++ others.map (List.map (Token.mapLine lower)), ?_, ?_⟩
  · rw [Token.tokenize_append, split, splitOthers, List.flatten_append, List.map_flatten]
  · refine List.rel_append each ?_
    rw [List.forall₂_map_left_iff, List.forall₂_map_right_iff]
    exact eachOther.imp fun _ _ spells => spells.mapLines lower

/-- While there are numbers for all lines of both, the lines of the second are counted on. -/
theorem toNat_add_of_mem_lines (acceptsSecond : ofText file back = .ok second)
    (few : newlines (front ++ "\n" ++ back) + 1 < UInt32.size) :
    ∀ declaration ∈ second, ∀ line ∈ declaration.lines,
      (line + .ofNat (newlines front + 1)).toNat = line.toNat + (newlines front + 1) := by
  intro declaration member line isLine
  rw [Token.newlines_append] at few
  obtain ⟨pieces, split, each⟩ := (ofTokens_ok_iff file _).1 acceptsSecond
  obtain ⟨piece, isPiece, spells⟩ := exists_spells_of_mem each member
  obtain ⟨token, isToken, rfl⟩ := spells.exists_line line isLine
  have inText : token ∈ Token.tokenize back := by
    rw [split]
    exact List.mem_flatten.2 ⟨piece, isPiece, isToken⟩
  have bound := Token.toNat_line_of_mem_tokenize (by omega) token inText
  rw [UInt32.toNat_add, UInt32.toNat_ofNat_of_lt' (by omega)]
  exact Nat.mod_eq_of_lt (by show _ < UInt32.size; omega)

end Texts

end Declaration

end AdapterWiring
