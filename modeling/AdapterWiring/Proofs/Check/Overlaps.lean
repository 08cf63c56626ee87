import AdapterWiring.Proofs.Check.Findings
import AdapterWiring.Proofs.Specification.Loading

/-!
# Overlaps

Associations are compared in pairs after everything else, each with all that are
declared later, wired or not. The predicate that compares them may have effects of
its own, so that it shows when it is asked, and about what.

* **places** — the pairs of places in a list, in order.
* **overlapDiagnostics_eq** — each pair is asked about once, in order.
* **check_eq_bind** — that comes when everything else is done.
* **Overlap.samePlace** — associations with the same target overlap.
* **TargetWords** — the words that files have for their targets.
* **overlaps_exact** — all of this, and with that predicate there is an overlap
  just where two targets are written as one word.
-/

namespace AdapterWiring

/-! ## Pairs of places -/

namespace Checker

/-- The pairs of a place in a list and a later one, in order. -/
def places (count : Nat) : List (Fin count × Fin count) :=
  (List.finRange count).flatMap fun earlier =>
    ((List.finRange count).filter (earlier < ·)).map (earlier, ·)

theorem mem_places {count : Nat} {earlier later : Fin count} :
    (earlier, later) ∈ places count ↔ earlier < later := by
  simp [places]

/-- They go up, by the first place and then by the second one; so none is listed twice. -/
theorem pairwise_places (count : Nat) :
    (places count).Pairwise (Prod.Lex (· < ·) (· < ·)) := by
  rw [places, List.pairwise_flatMap]
  refine ⟨fun earlier _ => ?_, (List.pairwise_lt_finRange count).imp fun before => ?_⟩
  · rw [List.pairwise_map]
    exact ((List.pairwise_lt_finRange count).filter _).imp fun before => .right _ before
  · intro first isFirst second isSecond
    obtain ⟨_, _, rfl⟩ := List.mem_map.1 isFirst
    obtain ⟨_, _, rfl⟩ := List.mem_map.1 isSecond
    exact .left _ _ before

theorem places_succ (count : Nat) :
    places (count + 1) = (List.finRange count).map (fun later => (0, later.succ)) ++
      (places count).map fun place => (place.1.succ, place.2.succ) := by
  simp only [places, List.finRange_succ, List.flatMap_cons, List.filter_cons, List.filter_map,
    Function.comp_def, decide_false, Bool.false_eq_true, if_false,
    Fin.succ_pos, decide_true, List.filter_true, List.map_map, List.flatMap_map, Fin.not_lt_zero,
    Fin.succ_lt_succ_iff, List.map_flatMap]

/-- The pairs of a list are those at these places. -/
theorem pairs_eq {α : Type} (items : List α) :
    pairs items = (places items.length).map fun place =>
      (items.get place.1, items.get place.2) := by
  induction items with
  | nil => rfl
  | cons first rest ih =>
    have withFirst : rest.map (first, ·) = (List.finRange rest.length).map fun later =>
        (first, rest.get later) := by
      conv_lhs => rw [← List.map_get_finRange rest, List.map_map]
      rfl
    show rest.map (first, ·) ++ pairs rest = (places (rest.length + 1)).map _
    rw [places_succ, List.map_append, List.map_map, List.map_map, withFirst, ih]
    rfl

/-! ## Asking about pairs -/

section Asking

variable {m : Type → Type} [Monad m] [LawfulMonad m]

/-- Each pair of places is asked about once, in order. -/
theorem overlapDiagnostics_eq (overlap : Overlap m) (associations : List Association) :
    overlapDiagnostics overlap associations = do
      let answers ← (places associations.length).mapM fun place =>
        return (associations.get place.2,
          ← overlap (associations.get place.1) (associations.get place.2))
      return answers.filterMap overlapError? := by
  rw [overlapDiagnostics_eq_pairs, pairs_eq, List.mapM_map]
  rfl

theorem overlapDiagnostics_never (associations : List Association) :
    overlapDiagnostics (.never : Overlap m) associations = pure [] := by
  rw [overlapDiagnostics_eq_pairs]
  simp only [Overlap.never, pure_bind, List.mapM_pure, List.filterMap_map]
  exact congrArg pure (List.filterMap_eq_nil_iff.2 fun _ _ => rfl)

/-- A check asks about overlaps when everything else is done. -/
theorem check_eq_bind (checker : Checker m) (specification : Specification) :
    checker.check specification = do
      let report ← (checker.withOverlap .never).check specification
      let overlaps ← overlapDiagnostics checker.overlap specification.associations
      return { report with diagnostics := report.diagnostics ++ overlaps } := by
  simp only [check, withOverlap, overlapDiagnostics_never, bind_assoc, pure_bind, List.append_nil]
  rfl

end Asking

/-- Overlaps that a predicate without effects finds come after everything else. -/
theorem diagnostics_check_withOverlap {σ : Type} (checker : Checker (StateM σ))
    (overlap : Overlap Id) (specification : Specification) (state : σ) :
    (((checker.withOverlap overlap.lift).check specification).run state).1.diagnostics =
      (((checker.withOverlap .never).check specification).run state).1.diagnostics ++
        (overlapDiagnostics overlap specification.associations).run := by
  rw [check_eq_bind]
  simp only [withOverlap, overlapDiagnostics_lift, pure_bind]
  rfl

end Checker

/-! ## Targets as words -/

/-- The word that a target is written as. -/
def Target.word : Target → String
  | field operand => operand.render

/-- The member of a target has no dot, so that the word tells where it was cut. -/
def Target.Undotted : Target → Prop
  | field operand => '.' ∉ operand.member.toList

/-- Targets that are the same place are written as one word. -/
theorem Target.samePlace_iff {first second : Target} (undottedFirst : first.Undotted)
    (undottedSecond : second.Undotted) :
    first.samePlace second = true ↔ first.word = second.word := by
  cases first with
  | field first =>
    cases second with
    | field second =>
      have cut : first.render = second.render ↔
          first.owner = second.owner ∧ first.member = second.member :=
        ⟨fun same => Declaration.eq_of_render_eq same undottedFirst undottedSecond,
          fun ⟨owner, member⟩ => by rw [MemberOperand.render, owner, member, MemberOperand.render]⟩
      simp only [samePlace, MemberOperand.sameMember, Bool.and_eq_true, beq_iff_eq, word, cut]

/-- Associations with the same target overlap. -/
def Overlap.samePlace (message : Association → Association → String) : Overlap Id :=
  fun first second =>
    pure (if first.target.samePlace second.target then some (message first second) else none)

namespace Declaration

/-- The word that an association has for its target. -/
def targetWord? : List Token → Option String
  | first :: _ :: operand :: _ => if first.word = "associate" then some operand.word else none
  | _ => none

/-- The words that the associations of a file have for their targets, by the outcome of reading it.
A file that is not accepted has no associations. -/
inductive TargetWords : Except ReadError String → List String → Prop
  | accepted {text : String} {pieces : List (List Token)} :
    Token.tokenize text = pieces.flatten →
    (∀ piece ∈ pieces, DeclarationForm (piece.map Token.word)) →
      TargetWords (.ok text) (pieces.filterMap targetWord?)
  | refused {text : String} : ¬ InLanguage (Token.tokenize text) → TargetWords (.ok text) []
  | unreadable {failure : ReadError} : TargetWords (.error failure) []

variable {file : String}

theorem SpellsTarget.word {piece : List Token} {target : Target}
    (spells : SpellsTarget piece target) :
    (∃ keyword token, piece = [keyword, token] ∧ token.word = target.word) ∧ target.Undotted := by
  cases spells with
  | field isKeyword names => exact ⟨⟨_, _, rfl, names.render.symm⟩, names.undotted⟩

/-- The word for the target of a declaration, if it has one. -/
theorem Spells.targetWord {piece : List Token} {declaration : Declaration}
    (spells : Spells file piece declaration) :
    targetWord? piece = declaration.association?.map (·.target.word) ∧
      ∀ association ∈ declaration.association?, association.target.Undotted := by
  cases spells with
  | association isFirst spellsTarget _ _ =>
    obtain ⟨⟨keyword, token, rfl, isWord⟩, undotted⟩ := spellsTarget.word
    simp [targetWord?, association?, isFirst, isWord, undotted]
  | adapted isFirst spellsTarget _ _ _ =>
    obtain ⟨⟨keyword, token, rfl, isWord⟩, undotted⟩ := spellsTarget.word
    simp [targetWord?, association?, isFirst, isWord, undotted]
  | ranking isFirst _ _ _ _ => simp [targetWord?, association?, isFirst]

/-- Pieces that have the form of declarations spell some. -/
theorem exists_spelled (file : String) {pieces : List (List Token)}
    (each : ∀ piece ∈ pieces, DeclarationForm (piece.map Token.word)) :
    ∃ declarations, List.Forall₂ (Spells file) pieces declarations := by
  induction pieces with
  | nil => exact ⟨[], .nil⟩
  | cons piece pieces ih =>
    obtain ⟨form, others⟩ := List.forall_mem_cons.1 each
    obtain ⟨declaration, spells⟩ := exists_spells_iff.2 form
    obtain ⟨declarations, spellsOthers⟩ := ih others
    exact ⟨declaration :: declarations, .cons spells spellsOthers⟩

/-- Exactly the texts in the language are accepted. -/
theorem exists_ofText_ok_iff {text : String} :
    (∃ declarations, ofText file text = .ok declarations) ↔ InLanguage (Token.tokenize text) := by
  constructor
  · rintro ⟨declarations, accepts⟩
    obtain ⟨pieces, split, spells⟩ := (ofTokens_ok_iff file _).1 accepts
    exact ⟨pieces, split, forms_of_spells spells⟩
  · rintro ⟨pieces, split, each⟩
    obtain ⟨declarations, spells⟩ := exists_spelled file each
    exact ⟨declarations, (ofTokens_ok_iff file _).2 ⟨pieces, split, spells⟩⟩

theorem targetWords_of_spells {pieces : List (List Token)} {declarations : List Declaration}
    (each : List.Forall₂ (Spells file) pieces declarations) :
    (declarations.filterMap association?).map (·.target.word) = pieces.filterMap targetWord? ∧
      ∀ association ∈ declarations.filterMap association?, association.target.Undotted := by
  induction each with
  | nil => exact ⟨rfl, by simp⟩
  | @cons piece declaration pieces declarations spells _ ih =>
    obtain ⟨here, undotted⟩ := spells.targetWord
    rw [List.filterMap_cons, List.filterMap_cons, here]
    cases found : declaration.association? with
    | none => exact ih
    | some association =>
      exact ⟨congrArg (association.target.word :: ·) ih.1,
        List.forall_mem_cons.2 ⟨undotted association found, ih.2⟩⟩

end Declaration

namespace Specification

open Declaration

/-- The targets of associations are written as some words, and these tell the targets. -/
def HasTargets (specification : Specification) (words : List String) : Prop :=
  specification.associations.map (·.target.word) = words ∧
    ∀ association ∈ specification.associations, association.target.Undotted

theorem HasTargets.append {first second : Specification} {words more : List String}
    (isFirst : first.HasTargets words) (isSecond : second.HasTargets more) :
    (first.append second).HasTargets (words ++ more) := by
  have associations : (first.append second).associations =
      first.associations ++ second.associations := List.filterMap_append
  unfold HasTargets
  rw [associations, List.map_append, isFirst.1, isSecond.1]
  exact ⟨rfl, List.forall_mem_append.2 ⟨isFirst.2, isSecond.2⟩⟩

theorem hasTargets_ofFile {path : String} {outcome : Except ReadError String}
    {words : List String} (written : TargetWords outcome words) :
    (ofFile path outcome).HasTargets words := by
  cases written with
  | unreadable => exact ⟨rfl, by simp [ofFile, associations]⟩
  | @accepted text pieces split each =>
    obtain ⟨declarations, spells⟩ := exists_spelled path each
    have accepts : ofText path text = .ok declarations :=
      (ofTokens_ok_iff path _).2 ⟨pieces, split, spells⟩
    rw [ofFile, accepts]
    exact targetWords_of_spells spells
  | @refused text outside =>
    cases read : ofText path text with
    | error failure =>
      rw [ofFile, read]
      exact ⟨rfl, by simp [associations]⟩
    | ok declarations => exact absurd (exists_ofText_ok_iff.1 ⟨declarations, read⟩) outside

/-- The words for the targets of several files, one file after the other. -/
theorem hasTargets_ofReadings {readings : List (String × Except ReadError String)}
    {words : List (List String)}
    (written : List.Forall₂ (fun reading words => TargetWords reading.2 words) readings words) :
    (ofReadings readings).HasTargets words.flatten := by
  induction written with
  | nil => exact ⟨rfl, by simp [ofReadings, associations]⟩
  | @cons reading words readings more here _ ih =>
    rw [← Prod.mk.eta (p := reading), ofReadings_cons, List.flatten_cons]
    exact (hasTargets_ofFile here).append ih

/-- Every file has words for its targets: those of its associations. -/
theorem targetWords_ofFile (path : String) (outcome : Except ReadError String) :
    TargetWords outcome ((ofFile path outcome).associations.map (·.target.word)) := by
  cases outcome with
  | error failure => exact .unreadable
  | ok text =>
    cases read : ofText path text with
    | error failure =>
      rw [ofFile, read]
      refine .refused fun inLanguage => ?_
      obtain ⟨declarations, accepts⟩ := exists_ofText_ok_iff.2 inLanguage
      cases accepts.symm.trans read
    | ok declarations =>
      obtain ⟨pieces, split, spells⟩ := (ofTokens_ok_iff path _).1 read
      rw [ofFile, read]
      show TargetWords _ ((declarations.filterMap association?).map (·.target.word))
      rw [(targetWords_of_spells spells).1]
      exact .accepted split (forms_of_spells spells)

theorem targetWords_ofReadings (readings : List (String × Except ReadError String)) :
    List.Forall₂ (fun reading words => TargetWords reading.2 words) readings
      (readings.map fun reading =>
        (ofFile reading.1 reading.2).associations.map (·.target.word)) :=
  List.forall₂_map_right_iff.2
    (List.forall₂_same.2 fun reading _ => targetWords_ofFile reading.1 reading.2)

/-- No target comes twice just where no word for a target comes twice. -/
theorem HasTargets.pairwise_iff {specification : Specification} {words : List String}
    (targets : specification.HasTargets words) :
    (specification.associations.Pairwise fun first second =>
      first.target.samePlace second.target = false) ↔ words.Nodup := by
  obtain ⟨rfl, undotted⟩ := targets
  rw [List.Nodup, List.pairwise_map]
  refine List.Pairwise.iff_of_mem fun {first second} isFirst isSecond => ?_
  rw [← Bool.not_eq_true,
    Target.samePlace_iff (undotted first isFirst) (undotted second isSecond)]

end Specification

/-! ## Reports -/

namespace Checker

open Specification Declaration

/-- There is an overlap of targets just where two associations have the same one. -/
theorem overlapDiagnostics_samePlace_eq_nil_iff {message : Association → Association → String}
    {associations : List Association} :
    (overlapDiagnostics (.samePlace message) associations).run = [] ↔
      associations.Pairwise fun first second =>
        first.target.samePlace second.target = false := by
  rw [overlapDiagnostics_eq_nil_iff]
  simp [Overlap.samePlace]

/-- **Overlaps are found for exactly the conflicting pairs.** A check asks about overlaps when
everything else is done: about each pair of an association and a later one, wired or not, once and
in order, the earlier one first. Each hit is an error in the file and on the line of the later one,
in the same order. For the predicate that compares targets, and whatever files were loaded, there is
no such error just where the associations have different targets each; and that is just where these
are written as different words, in whatever files and on whatever lines. -/
theorem overlaps_exact {σ : Type} (checker : Checker (StateM σ)) :
    (∀ specification : Specification, checker.check specification = do
      let report ← (checker.withOverlap .never).check specification
      let associations := specification.associations
      let answers ← (places associations.length).mapM fun place =>
        return (associations.get place.2,
          ← checker.overlap (associations.get place.1) (associations.get place.2))
      return { report with
        diagnostics := report.diagnostics ++ answers.filterMap overlapError? }) ∧
    (∀ count : Nat, (places count).Pairwise (Prod.Lex (· < ·) (· < ·)) ∧
      ∀ earlier later : Fin count, (earlier, later) ∈ places count ↔ earlier < later) ∧
    ∀ {τ : Type} (read : String → StateM τ (Except ReadError String)) (paths : List String)
      (start : τ) (message : Association → Association → String) (state : σ),
      let readings := ((readAll read paths).run start).1
      let specification := ((load read paths).run start).1
      let report (overlap : Overlap Id) :=
        (((checker.withOverlap overlap.lift).check specification).run state).1
      (∃ words, List.Forall₂ (fun reading words => TargetWords reading.2 words) readings words) ∧
      ∃ errors, (report (.samePlace message)).diagnostics =
          (report .never).diagnostics ++ errors ∧
        (errors = [] ↔ specification.associations.Pairwise fun first second =>
          first.target.samePlace second.target = false) ∧
        ∀ words, List.Forall₂ (fun reading words => TargetWords reading.2 words) readings words →
          (errors = [] ↔ words.flatten.Nodup) := by
  refine ⟨fun specification => ?_,
    fun count => ⟨pairwise_places count, fun _ _ => mem_places⟩, ?_⟩
  · rw [check_eq_bind, overlapDiagnostics_eq]
    simp only [bind_assoc, pure_bind]
  · intro τ read paths start message state readings specification report
    have loaded : specification = ofReadings readings := by
      show ((load read paths).run start).1 = _
      rw [load_eq]
      rfl
    refine ⟨⟨_, targetWords_ofReadings readings⟩, _,
      diagnostics_check_withOverlap checker _ _ state, overlapDiagnostics_samePlace_eq_nil_iff,
      fun words written => ?_⟩
    rw [overlapDiagnostics_samePlace_eq_nil_iff]
    have targets := hasTargets_ofReadings written
    rw [← loaded] at targets
    exact targets.pairwise_iff

/-- Three files; the second one names the target of the first one again, on another line. -/
def crowded : Store :=
  .ofList [("first", "associate field Main.t with new B"),
    ("second", "declare precedence A over Z\nassociate field Main.t with new Lost"),
    ("third", "associate field Main.u with new B")]

/-- Read one of these files. -/
def crowdedRead (path : String) : StateM Unit (Except ReadError String) := pure (crowded.read path)

theorem overlaps_exact_crowded :
    let checker := inSession tangledModel tangledTypes tangled .never
    let message (_ second : Association) : String := second.target.render ++ " is taken"
    let report (paths : List String) (overlap : Overlap Id) :=
      (((checker.withOverlap overlap.lift).check ((load crowdedRead paths).run ()).1).run .start).1
    (report ["first", "second", "third"] (.samePlace message)).diagnostics ≠
      (report ["first", "second", "third"] .never).diagnostics ∧
    (report ["first", "third", "none"] (.samePlace message)).diagnostics =
      (report ["first", "third", "none"] .never).diagnostics := by
  intro checker message report
  obtain ⟨_, _, compared⟩ := overlaps_exact checker
  have twice := targetWords_ofReadings
    ((readAll crowdedRead ["first", "second", "third"]).run ()).1
  have once := targetWords_ofReadings ((readAll crowdedRead ["first", "third", "none"]).run ()).1
  constructor
  · obtain ⟨_, errors, diagnostics, _, found⟩ :=
      compared crowdedRead ["first", "second", "third"] () message .start
    -- without errors no word would come twice
    intro same
    have none : errors = [] := List.append_right_eq_self.1 (diagnostics.symm.trans same)
    exact absurd ((found _ twice).1 none) (by decide +kernel)
  · obtain ⟨_, errors, diagnostics, _, found⟩ :=
      compared crowdedRead ["first", "third", "none"] () message .start
    have none : errors = [] := (found _ once).2 (by decide +kernel)
    rw [none, List.append_nil] at diagnostics
    exact diagnostics

end Checker

end AdapterWiring
