import AdapterWiring.Proofs.Declaration.Lines
import AdapterWiring.Specification

/-!
# What files contribute to a specification

Each file contributes by itself: all declarations of its text, or one error. So
lists of files can be loaded in parts, and texts can be put below one another.

* **ofReadings** — what files contribute whose texts are at hand.
* **Contributes** — what a file may contribute, said without the reader.
* **load_eq** — loading reads each path once, in order, and nothing else.
* **load_append** — loading some files and then others.
* **load_compositional** — all of this, for every way of reading texts.
-/

namespace AdapterWiring.Specification

open Declaration Text

/-! ## Files in order -/

/-- What files contribute, in order, with the outcomes of reading them. -/
def ofReadings (readings : List (String × Except ReadError String)) : Specification :=
  ⟨readings.flatMap fun (path, outcome) => (ofFile path outcome).declarations,
    readings.flatMap fun (path, outcome) => (ofFile path outcome).diagnostics⟩

theorem ofReadings_cons (path : String) (outcome : Except ReadError String)
    (readings : List (String × Except ReadError String)) :
    ofReadings ((path, outcome) :: readings) = (ofFile path outcome).append (ofReadings readings) :=
  rfl

theorem ofReadings_append (first second : List (String × Except ReadError String)) :
    ofReadings (first ++ second) = (ofReadings first).append (ofReadings second) := by
  unfold ofReadings append
  rw [List.flatMap_append, List.flatMap_append]

section Reading

variable {m : Type → Type} [Monad m] (read : String → m (Except ReadError String))

/-- The outcomes of reading the files at some paths, each with its path. -/
def readAll (paths : List String) : m (List (String × Except ReadError String)) :=
  paths.mapM fun path => return (path, ← read path)

variable [LawfulMonad m]

/-- Loading reads each path once, in order, and takes what each outcome contributes. -/
theorem load_eq (paths : List String) :
    load read paths = (do return ofReadings (← readAll read paths)) := by
  induction paths with
  | nil => simp [load, readAll, ofReadings, empty]
  | cons path paths ih =>
    unfold readAll at ih ⊢
    rw [load, ih, List.mapM_cons]
    simp only [bind_assoc, pure_bind, ofReadings_cons]

/-- Files are loaded in parts. -/
theorem load_append (paths more : List String) :
    load read (paths ++ more) = (do return (← load read paths).append (← load read more)) := by
  rw [load_eq, load_eq, load_eq, readAll, List.mapM_append]
  simp only [readAll, bind_assoc, pure_bind, ofReadings_append]

end Reading

/-! ## One file -/

/-- A problem that is an error of the file at a path. -/
def ReportsError (path : String) (diagnostic : Diagnostic) : Prop :=
  diagnostic.severity = .error ∧ diagnostic.file = path

/-- What a file contributes, by the outcome of reading it: the declarations that its words are, in
order, each with the path as its file; or an error with the path as its file. -/
inductive Contributes (path : String) : Except ReadError String → Specification → Prop
  | accepted {text : String} {pieces : List (List Token)} {declarations : List Declaration} :
    Token.tokenize text = pieces.flatten → List.Forall₂ (Spells path) pieces declarations →
    (∀ declaration ∈ declarations, declaration.origin.file = path) →
      Contributes path (.ok text) ⟨declarations, []⟩
  | refused {text : String} {diagnostic : Diagnostic} : ¬ InLanguage (Token.tokenize text) →
    ReportsError path diagnostic → Contributes path (.ok text) ⟨[], [diagnostic]⟩
  | unreadable {failure : ReadError} {diagnostic : Diagnostic} : ReportsError path diagnostic →
      Contributes path (.error failure) ⟨[], [diagnostic]⟩

theorem contributes_ofFile (path : String) (outcome : Except ReadError String) :
    Contributes path outcome (ofFile path outcome) := by
  cases outcome with
  | error failure => exact .unreadable ⟨rfl, rfl⟩
  | ok text =>
    cases parsed : ofText path text with
    | ok declarations =>
      obtain ⟨pieces, split, each⟩ := (ofTokens_ok_iff path _).1 parsed
      rw [ofFile, parsed]
      refine .accepted split each fun declaration member => ?_
      obtain ⟨piece, _, spells⟩ := exists_spells_of_mem each member
      exact spells.origin_file
    | error failure =>
      rw [ofFile, parsed]
      refine .refused ?_ ⟨rfl, rfl⟩
      -- a text in the language is accepted
      rintro ⟨pieces, split, form⟩
      rcases (ofTokens_spec path (Token.tokenize text)).2 with ⟨_, _, _, _, _, ok⟩ | ⟨outside, _⟩
      · cases ok.symm.trans parsed
      · exact outside ⟨pieces, split, form⟩

/-! ## Loading -/

/-- **Loading is compositional.** However texts are read, some files and then others contribute what
the first contribute and then what the others do. Each path is read once, in order, and contributes
by itself, by the outcome alone: all declarations of its text or one error, and never both. And two
texts that are accepted are also accepted one below the other, with the declarations of the first
and then those of the second, these as many lines further down as the first takes; up to `2 ^ 32`
lines this is no wrapping around. -/
theorem load_compositional {m : Type → Type} [Monad m] [LawfulMonad m]
    (read : String → m (Except ReadError String)) :
    (∀ paths more : List String, load read (paths ++ more) =
      (do return (← load read paths).append (← load read more))) ∧
    (∀ paths : List String, load read paths = (do return ofReadings (← readAll read paths))) ∧
    (∀ path outcome, Contributes path outcome (ofFile path outcome)) ∧
    (∀ (file front back : String) (first second : List Declaration),
      ofText file front = .ok first → ofText file back = .ok second →
      ofText file (front ++ "\n" ++ back) =
        .ok (first ++ second.map (mapLines (· + .ofNat (newlines front + 1)))) ∧
      (newlines (front ++ "\n" ++ back) + 1 < UInt32.size →
        ∀ declaration ∈ second, ∀ line ∈ declaration.lines,
          (line + .ofNat (newlines front + 1)).toNat = line.toNat + (newlines front + 1))) :=
  ⟨load_append read, load_eq read, contributes_ofFile, fun _ _ _ _ _ acceptsFirst acceptsSecond =>
    ⟨ofText_append acceptsFirst acceptsSecond, toNat_add_of_mem_lines acceptsSecond⟩⟩

theorem ok_of_toOption {ε α : Type} {result : Except ε α} {value : α}
    (found : result.toOption = some value) : result = .ok value := by
  cases result with
  | error _ => cases found
  | ok _ =>
    cases found
    rfl

/-- The upper text asks for no adapter, and the lower one does; a file that is not there changes
nothing for the others. -/
theorem load_compositional_seam :
    let upper := "associate field shop.Cart.owner\n  with new shop.User"
    let lower := "associate field shop.Cart.log with single shop.Log\nusing shop.Logging"
    let texts := Store.ofList [("upper", upper), ("lower", lower)]
    let owner : Declaration := .association
      ⟨.field ⟨"shop.Cart", "owner", 1⟩, .fresh ⟨"shop.User", 2⟩, none, ⟨"upper", 1⟩⟩
    let log (file : String) (line : UInt32) : Declaration := .association
      ⟨.field ⟨"shop.Cart", "log", line⟩, .single ⟨"shop.Log", line⟩,
        some ⟨"shop.Logging", line + 1⟩, ⟨file, line⟩⟩
    ofText "upper" upper = .ok [owner] ∧ ofText "upper" lower = .ok [log "upper" 1] ∧
    ofText "upper" (upper ++ "\n" ++ lower) = .ok [owner, log "upper" 3] ∧
    (load (m := Id) texts.read ["upper", "lost"]).run.declarations = [owner] ∧
    (load (m := Id) texts.read ["lower"]).run = ⟨[log "lower" 1], []⟩ ∧
    (load (m := Id) texts.read ["upper", "lost", "lower"]).run =
      ⟨[owner, log "lower" 1],
        [.error "lost" 0 "cannot read file 'lost': file not found in memory: lost"]⟩ := by
  intro upper lower texts owner log
  have acceptsUpper : ofText "upper" upper = .ok [owner] := ok_of_toOption (by decide +kernel)
  have acceptsLower : ofText "upper" lower = .ok [log "upper" 1] :=
    ok_of_toOption (by decide +kernel)
  obtain ⟨inParts, _, _, seam⟩ := load_compositional (m := Id) texts.read
  have first : (load (m := Id) texts.read ["upper", "lost"]).run = ⟨[owner],
      [.error "lost" 0 "cannot read file 'lost': file not found in memory: lost"]⟩ := by
    decide +kernel
  have second : (load (m := Id) texts.read ["lower"]).run = ⟨[log "lower" 1], []⟩ := by
    decide +kernel
  have below := (seam _ _ _ _ _ acceptsUpper acceptsLower).1
  refine ⟨acceptsUpper, acceptsLower, below.trans (congrArg Except.ok (by decide +kernel)),
    congrArg declarations first, second, ?_⟩
  have both := congrArg Id.run (inParts ["upper", "lost"] ["lower"])
  rw [Id.run_bind, first, Id.run_bind, second] at both
  exact both

end AdapterWiring.Specification
