import AdapterWiring.CommandLine.Arguments
import Mathlib.Tactic.Common

/-!
# Options that say how results are shown

Such an option is noted apart from all that makes a command. So arguments that
it is left out of ask for the same command, wherever it stood.

* **Role, readLevel_cons** — what a single argument is there for.
* **Without** — arguments that an option of the presentation is left out of.
* **Covers** — to have read the same, but for what that option says.
* **readLevel_without** — both lists of arguments are read alike.
* **parse_without** — and so they ask for the same command.
-/

namespace AdapterWiring.Invocation

/-! ## The role of an argument -/

/-- What an argument is there for, whatever was given before. -/
inductive Role where
  /-- All that comes next are paths. -/
  | paths
  /-- It is an option with its value. -/
  | inline (name value : String)
  /-- It is an option, and its value comes next. -/
  | option (name : String)
  /-- It is a flag. -/
  | flag (name : String)
  /-- Each of its letters is a flag or an option. -/
  | letters (letters : List Char)
  /-- It is a path. -/
  | path
  /-- It names the command. -/
  | command
  /-- It asks for help. -/
  | help
  /-- It asks for the version. -/
  | version
  /-- It has no place here. -/
  | fault

/-- The role of a long option, without its dashes. -/
def optionRole (top : Bool) (option : List Char) : Role :=
  let name := String.ofList (option.takeWhile (· ≠ '='))
  match option.dropWhile (· ≠ '=') with
  | _ :: value => .inline name (String.ofList value)
  | [] =>
    if name = "help" then .help
    else if name = "version" ∧ top = true then .version
    else if name = "quiet" ∨ name = "verbose" then .flag name
    else .option name

/-- The role of an argument, by how it is spelled. -/
def roleOf (top : Bool) : List Char → Role
  | ['-', '-'] => if top then .fault else .paths
  | '-' :: '-' :: option => optionRole top option
  | '-' :: letter :: letters => .letters (letter :: letters)
  | _ => if top then .command else .path

/-- The role of an argument at a level. -/
def role (top : Bool) (argument : String) : Role := roleOf top argument.toList

/-- Reading goes on with what was noted, if it could be. -/
def goOn (top : Bool) (level : Level) (rest : List String) : Option Given → Ending
  | some noted => readLevel top level noted rest
  | none => .fault

/-- The rest of a level, from an argument with a role. -/
def Role.read (top : Bool) (level : Level) (given : Given) (argument : String)
    (rest : List String) : Role → Ending
  | paths =>
    match rest.foldlM (givePath level) given with
    | some noted => .finished noted
    | none => .fault
  | inline name value => goOn top level rest (giveValue level given name value)
  | option name =>
    match rest with
    | value :: others =>
      if isValue value then goOn top level others (giveValue level given name value) else .fault
    | [] => .fault
  | flag name => goOn top level rest (giveFlag given name)
  | letters spelled =>
    match readLetters top given spelled with
    | .ok noted => readLevel top level noted rest
    | .error ending => ending
  | path => goOn top level rest (givePath level given argument)
  | command => .atCommand argument given rest
  | help => .help
  | version => .version
  | fault => .fault

variable {top : Bool} {level : Level} {given other : Given} {argument : String}
  {rest arguments others : List String}

/-- A level is read one argument after the other, each by its role. -/
theorem readLevel_cons : readLevel top level given (argument :: rest) =
    (role top argument).read top level given argument rest := by
  rw [readLevel.eq_def, role]
  dsimp only
  generalize argument.toList = spelled
  split
  next => cases top <;> rfl
  next option nonempty =>
    cases option with
    | nil => exact absurd rfl nonempty
    | cons c option =>
      show _ = (optionRole top (c :: option)).read top level given argument rest
      unfold optionRole
      generalize String.ofList (List.takeWhile _ (c :: option)) = name
      cases List.dropWhile _ (c :: option) with
      | cons _ _ => rfl
      | nil =>
        dsimp only
        split
        · rfl
        · split
          · rfl
          · split <;> rfl
  next letter letters _ notDash =>
    -- a second dash would have made it a long option
    have isLetters : roleOf top ('-' :: letter :: letters) = .letters (letter :: letters) := by
      simp_all [roleOf]
    rw [isLetters]
    rfl
  next noEnd noOption noLetters =>
    have isPlain : roleOf top spelled = if top = true then .command else .path := by
      simp_all [roleOf]
    rw [isPlain]
    cases top <;> rfl

/-! ## Arguments without an option -/

/-- The options that say how results are shown, of those the matter is of. -/
inductive Manner where
  /-- Whether to leave out what is not essential. -/
  | quiet
  /-- The format. -/
  | output
deriving DecidableEq

/-- The name of an option. -/
def Manner.name : Manner → String
  | quiet => "quiet"
  | output => "output"

/-- The arguments that an option is given by. -/
inductive Asks : Manner → List String → Prop
  | quiet : Asks .quiet ["--quiet"]
  | output (format : String) : Asks .output ["--output", format]
  | inline (format : String) : Asks .output ["--output=" ++ format]

/-- Arguments that an option is left out of, in any places before all arguments are paths. -/
inductive Without (manner : Manner) : List String → List String → Prop
  | same (arguments : List String) : Without manner arguments arguments
  | leave {asked arguments others : List String} : Asks manner asked →
    Without manner arguments others → Without manner (asked ++ arguments) others
  | keep {argument : String} {arguments others : List String} : argument ≠ "--" →
    Without manner arguments others →
      Without manner (argument :: arguments) (argument :: others)

variable {manner : Manner}

/-- The first of some arguments is kept, or the option was asked for there. -/
theorem Without.cases_cons (without : Without manner (argument :: arguments) others) :
    (∃ kept, others = argument :: kept ∧ Without manner arguments kept ∧
      (argument = "--" → kept = arguments)) ∨
    ∃ asked rest, Asks manner asked ∧ argument :: arguments = asked ++ rest ∧
      Without manner rest others := by
  generalize read : argument :: arguments = all at without
  cases without with
  | same _ => exact .inl ⟨arguments, read.symm, .same _, fun _ => rfl⟩
  | leave asks later => exact .inr ⟨_, _, asks, rfl, later⟩
  | keep notEnd later =>
    cases read
    exact .inl ⟨_, rfl, later, fun isEnd => absurd isEnd notEnd⟩

/-- An argument that asks for the option is no value of the option before it. -/
theorem Asks.not_isValue {asked : List String} (asks : Asks manner (argument :: asked)) :
    isValue argument = false := by
  cases asks with
  | quiet => decide
  | output _ => decide
  | inline format =>
    unfold isValue
    rw [String.toList_append]
    rfl

/-! ## What is noted -/

section Noted

variable {noted : Given} {name value path : String}

/-- A value that an option of a level may have. -/
structure Level.Allows (level : Level) (name value : String) : Prop where
  isOption : name ∈ level.options
  path : isPathOption name = true → value.isEmpty = false
  format : name = "output" → (format? value).isSome = true

theorem giveValue_eq_some_iff : giveValue level given name value = some noted ↔
    level.Allows name value ∧ given.values.lookup name = none ∧
      noted = { given with values := (name, value) :: given.values } := by
  unfold giveValue
  rw [Option.ite_none_left_eq_some, Option.ite_none_left_eq_some, Option.ite_none_left_eq_some,
    Option.some.injEq]
  constructor
  · rintro ⟨fresh, nonempty, isFormat, rfl⟩
    simp only [Bool.or_eq_true, not_or, Bool.not_eq_true, Bool.not_eq_false',
      Option.isSome_eq_false_iff, Option.isNone_iff_eq_none] at fresh
    refine ⟨⟨by simpa using fresh.1, fun isPath => ?_, fun isOutput => ?_⟩, fresh.2, rfl⟩
    · simpa [isPath] using nonempty
    · simpa [isOutput, Option.isSome_iff_ne_none] using isFormat
  · rintro ⟨⟨isOption, nonempty, isFormat⟩, absent, rfl⟩
    refine ⟨by simp [isOption, absent], ?_, ?_, rfl⟩
    · rw [Bool.and_eq_true]
      rintro ⟨isPath, empty⟩
      exact Bool.false_ne_true ((nonempty isPath).symm.trans empty)
    · rw [Bool.and_eq_true, decide_eq_true_eq]
      rintro ⟨isOutput, none⟩
      rw [Option.isNone_iff_eq_none] at none
      simp [none] at isFormat
      exact isFormat isOutput

theorem giveFlag_eq_some_iff : giveFlag given name = some noted ↔
    name ∉ given.flags ∧ noted = { given with flags := name :: given.flags } := by
  unfold giveFlag
  rw [Option.ite_none_left_eq_some, List.contains_iff_mem, Option.some.injEq, eq_comm]

theorem givePath_eq_some_iff : givePath level given path = some noted ↔
    (∀ bound, level.paths = some bound → given.paths.length < bound) ∧ path.isEmpty = false ∧
      noted = { given with paths := given.paths ++ [path] } := by
  unfold givePath
  dsimp only
  rw [Option.ite_none_right_eq_some, Bool.and_eq_true, Option.some.injEq, eq_comm (b := noted),
    and_assoc, Bool.not_eq_true']
  refine and_congr_left fun _ => ?_
  cases level.paths with
  | none => simp
  | some bound => simp

end Noted

/-- To have been given the same as others, but perhaps more of what an option says. -/
structure Given.Covers (manner : Manner) (given other : Given) : Prop where
  values (name : String) : other.values.lookup name = given.values.lookup name ∨
    name = manner.name ∧ other.values.lookup name = none
  flags_subset : other.flags ⊆ given.flags
  flags (name : String) : name ∈ given.flags → name ∈ other.flags ∨ name = manner.name
  paths : other.paths = given.paths

namespace Given.Covers

variable {noted third : Given} {name value path : String}

theorem refl (given : Given) : given.Covers manner given :=
  ⟨fun _ => .inl rfl, List.Subset.refl _, fun _ => .inl, rfl⟩

theorem trans (covers : given.Covers manner other) (coversThird : other.Covers manner third) :
    given.Covers manner third where
  values name := by
    rcases coversThird.values name with same | none
    · rw [same]
      exact covers.values name
    · exact .inr none
  flags_subset := List.Subset.trans coversThird.flags_subset covers.flags_subset
  flags name member := (covers.flags name member).elim (coversThird.flags name) .inr
  paths := coversThird.paths.trans covers.paths

/-- What can be noted for more can be noted for less. -/
theorem giveValue (covers : given.Covers manner other)
    (gives : Invocation.giveValue level given name value = some noted) :
    ∃ otherNoted, Invocation.giveValue level other name value = some otherNoted ∧
      noted.Covers manner otherNoted := by
  obtain ⟨allows, absent, rfl⟩ := giveValue_eq_some_iff.1 gives
  have otherAbsent : other.values.lookup name = none := by
    rcases covers.values name with same | none
    · exact same.trans absent
    · exact none.2
  refine ⟨_, giveValue_eq_some_iff.2 ⟨allows, otherAbsent, rfl⟩, fun asked => ?_,
    covers.flags_subset, covers.flags, covers.paths⟩
  rw [List.lookup_cons, List.lookup_cons]
  cases asked == name with
  | true => exact .inl rfl
  | false => exact covers.values asked

theorem giveFlag (covers : given.Covers manner other)
    (gives : Invocation.giveFlag given name = some noted) :
    ∃ otherNoted, Invocation.giveFlag other name = some otherNoted ∧
      noted.Covers manner otherNoted := by
  obtain ⟨absent, rfl⟩ := giveFlag_eq_some_iff.1 gives
  have otherAbsent : name ∉ other.flags := fun member => absent (covers.flags_subset member)
  refine ⟨_, giveFlag_eq_some_iff.2 ⟨otherAbsent, rfl⟩, covers.values,
    List.cons_subset_cons _ covers.flags_subset, ?_, covers.paths⟩
  intro asked member
  rcases List.mem_cons.1 member with rfl | member
  · exact .inl (List.mem_cons_self ..)
  · exact (covers.flags asked member).imp (List.mem_cons_of_mem _) id

theorem givePath (covers : given.Covers manner other)
    (gives : Invocation.givePath level given path = some noted) :
    ∃ otherNoted, Invocation.givePath level other path = some otherNoted ∧
      noted.Covers manner otherNoted := by
  obtain ⟨room, nonempty, rfl⟩ := givePath_eq_some_iff.1 gives
  refine ⟨_, givePath_eq_some_iff.2 ⟨?_, nonempty, rfl⟩, covers.values, covers.flags_subset,
    covers.flags, congrArg (· ++ [path]) covers.paths⟩
  rw [covers.paths]
  exact room

theorem foldlM_givePath (covers : given.Covers manner other)
    (gives : rest.foldlM (Invocation.givePath level) given = some noted) :
    ∃ otherNoted, rest.foldlM (Invocation.givePath level) other = some otherNoted ∧
      noted.Covers manner otherNoted := by
  induction rest generalizing given other with
  | nil =>
    cases gives
    exact ⟨other, rfl, covers⟩
  | cons path rest ih =>
    obtain ⟨next, givesPath, later⟩ := Option.bind_eq_some_iff.1 gives
    obtain ⟨otherNext, givesOther, coversNext⟩ := covers.givePath givesPath
    obtain ⟨otherNoted, givesLater, coversLater⟩ := ih coversNext later
    exact ⟨otherNoted, Option.bind_eq_some_iff.2 ⟨otherNext, givesOther, givesLater⟩, coversLater⟩

/-- Letters are read for less as they are for more, unless these are at fault. -/
theorem readLetters (covers : given.Covers manner other) (letters : List Char) :
    (∃ noted otherNoted, Invocation.readLetters top given letters = .ok noted ∧
      Invocation.readLetters top other letters = .ok otherNoted ∧
      noted.Covers manner otherNoted) ∨
    (∃ ending, Invocation.readLetters top given letters = .error ending ∧
      Invocation.readLetters top other letters = .error ending ∧
      (ending = .help ∨ ending = .version)) ∨
    Invocation.readLetters top given letters = .error .fault := by
  induction letters generalizing given other with
  | nil => exact .inl ⟨given, other, rfl, rfl, covers⟩
  | cons letter letters ih =>
    unfold Invocation.readLetters
    split
    · exact .inr (.inl ⟨.help, rfl, rfl, .inl rfl⟩)
    · split
      · exact .inr (.inl ⟨.version, rfl, rfl, .inr rfl⟩)
      · cases gives : (flagOfLetter? letter).bind (Invocation.giveFlag given) with
        | none => exact .inr (.inr rfl)
        | some next =>
          obtain ⟨flag, isFlag, givesFlag⟩ := Option.bind_eq_some_iff.1 gives
          obtain ⟨otherNext, givesOther, coversNext⟩ := covers.giveFlag givesFlag
          rw [isFlag, Option.bind_some, givesOther]
          exact ih coversNext

end Given.Covers

/-! ## Both readings -/

/-- Where both readings end; the second lacks the option. -/
inductive Ending.Covers (manner : Manner) : Ending → Ending → Prop
  | finished {given other : Given} : given.Covers manner other →
      Covers manner (.finished given) (.finished other)
  | atCommand {name : String} {given other : Given} {rest others : List String} :
    given.Covers manner other → Without manner rest others →
      Covers manner (.atCommand name given rest) (.atCommand name other others)
  | version : Covers manner .version .version
  | help : Covers manner .help .help
  | fault (ending : Ending) : Covers manner .fault ending

/-- Two readings that go on from what was noted end alike if what comes later is read alike. -/
theorem Ending.Covers.goOn {found otherFound : Option Given}
    (notes : ∀ noted, found = some noted →
      ∃ otherNoted, otherFound = some otherNoted ∧ noted.Covers manner otherNoted)
    (later : ∀ noted otherNoted : Given, noted.Covers manner otherNoted →
      (readLevel top level noted rest).Covers manner (readLevel top level otherNoted others)) :
    (goOn top level rest found).Covers manner (goOn top level others otherFound) := by
  cases found with
  | none => exact .fault _
  | some noted =>
    obtain ⟨otherNoted, rfl, covers⟩ := notes noted rfl
    exact later noted otherNoted covers

theorem eq_ender_of_role (isEnder : role top argument = .paths) : argument = "--" := by
  unfold role roleOf at isEnder
  split at isEnder
  next spelled => exact String.toList_inj.1 spelled
  next option _ _ =>
    unfold optionRole at isEnder
    dsimp only at isEnder
    split at isEnder
    · cases isEnder
    · split at isEnder
      · cases isEnder
      · split at isEnder
        · cases isEnder
        · split at isEnder <;> cases isEnder
  next => cases isEnder
  next => cases top <;> cases isEnder

/-- More of the format is noted with a value for it. -/
theorem Given.Covers.of_giveValue {noted : Given} {format : String}
    (gives : Invocation.giveValue level given "output" format = some noted) :
    noted.Covers .output given := by
  obtain ⟨_, absent, rfl⟩ := giveValue_eq_some_iff.1 gives
  refine ⟨fun name => ?_, List.Subset.refl _, fun _ => .inl, rfl⟩
  rw [List.lookup_cons]
  cases same : name == "output" with
  | true =>
    obtain rfl := eq_of_beq same
    exact .inr ⟨rfl, absent⟩
  | false => exact .inl rfl

theorem Given.Covers.of_giveFlag {noted : Given}
    (gives : Invocation.giveFlag given "quiet" = some noted) : noted.Covers .quiet given := by
  obtain ⟨_, rfl⟩ := giveFlag_eq_some_iff.1 gives
  exact ⟨fun _ => .inl rfl, List.subset_cons_self _ _, fun _ => .symm ∘ List.mem_cons.1, rfl⟩

theorem goOn_noted {found : Option Given}
    (notes : ∀ noted, found = some noted → noted.Covers manner given) :
    goOn top level rest found = .fault ∨ ∃ noted : Given, noted.Covers manner given ∧
      goOn top level rest found = readLevel top level noted rest := by
  cases found with
  | none => exact .inl rfl
  | some noted => exact .inr ⟨noted, notes noted rfl, rfl⟩

/-- Where an option is asked for, more of it is noted. -/
theorem readLevel_asked {asked : List String} (asks : Asks manner asked) :
    readLevel top level given (asked ++ rest) = .fault ∨
      ∃ noted : Given, noted.Covers manner given ∧
        readLevel top level given (asked ++ rest) = readLevel top level noted rest := by
  cases asks with
  | quiet =>
    have isFlag : role top "--quiet" = .flag "quiet" := rfl
    rw [List.cons_append, readLevel_cons, isFlag]
    exact goOn_noted fun _ => .of_giveFlag
  | output format =>
    have isOption : role top "--output" = .option "output" := rfl
    rw [List.cons_append, readLevel_cons, isOption]
    dsimp only [Role.read, List.cons_append]
    split
    · exact goOn_noted fun _ => .of_giveValue
    · exact .inl rfl
  | inline format =>
    have isInline : role top ("--output=" ++ format) = .inline "output" format := by
      simp [role, roleOf, optionRole]
    rw [List.cons_append, readLevel_cons, isInline]
    exact goOn_noted fun _ => .of_giveValue

theorem Asks.ne_nil {asked : List String} (asks : Asks manner asked) : asked ≠ [] := by
  cases asks <;> exact List.cons_ne_nil _ _

theorem Without.eq_nil (without : Without manner [] others) : others = [] := by
  generalize read : ([] : List String) = all at without
  cases without with
  | same _ => rfl
  | leave asks _ => exact absurd (List.append_eq_nil_iff.1 read.symm).1 asks.ne_nil
  | keep _ _ => cases read

/-- Reading arguments without an option, with as much noted but for that option, ends as reading
all of them does. -/
theorem readLevel_without (without : Without manner arguments others)
    (covers : given.Covers manner other) :
    (readLevel top level given arguments).Covers manner (readLevel top level other others) := by
  -- by their number, since an option takes the next argument along
  induction size : arguments.length using Nat.strongRecOn generalizing arguments others given other
  rename_i size ih
  cases arguments with
  | nil =>
    rw [without.eq_nil]
    exact .finished covers
  | cons argument arguments =>
    rcases without.cases_cons with ⟨kept, rfl, later, ender⟩ | ⟨asked, rest, asks, split, later⟩
    · have goesOn (noted otherNoted : Given) (covers : noted.Covers manner otherNoted) :
          (readLevel top level noted arguments).Covers manner
            (readLevel top level otherNoted kept) :=
        ih arguments.length (by simp [← size]) later covers rfl
      rw [readLevel_cons, readLevel_cons]
      cases isRole : role top argument with
      | paths =>
        -- only paths are left, and nothing is left out of these
        obtain rfl := ender (eq_ender_of_role isRole)
        dsimp only [Role.read]
        cases gives : kept.foldlM (givePath level) given with
        | none => exact .fault _
        | some noted =>
          obtain ⟨otherNoted, givesOther, coversNoted⟩ := covers.foldlM_givePath gives
          rw [givesOther]
          exact .finished coversNoted
      | inline name value => exact .goOn (fun _ => covers.giveValue) goesOn
      | option name =>
        cases arguments with
        | nil => exact .fault _
        | cons value arguments =>
          rcases later.cases_cons with ⟨keptLater, rfl, later, _⟩ | ⟨asked, _, asks, split, _⟩
          · dsimp only [Role.read]
            split
            · refine .goOn (fun _ => covers.giveValue) fun _ _ covers => ?_
              exact ih arguments.length (by simp only [← size, List.length_cons]; omega) later
                covers rfl
            · exact .fault _
          · -- what is left out stands where a value should, so the arguments are at fault
            obtain ⟨first, asked, rfl⟩ := List.exists_cons_of_ne_nil asks.ne_nil
            obtain ⟨rfl, _⟩ := List.cons.inj split
            dsimp only [Role.read]
            rw [asks.not_isValue]
            exact .fault _
      | flag name => exact .goOn (fun _ => covers.giveFlag) goesOn
      | letters letters =>
        dsimp only [Role.read]
        rcases covers.readLetters letters with ⟨noted, otherNoted, ok, okOther, coversNoted⟩ |
          ⟨ending, error, errorOther, rfl | rfl⟩ | fault
        · rw [ok, okOther]
          exact goesOn _ _ coversNoted
        · rw [error, errorOther]
          exact .help
        · rw [error, errorOther]
          exact .version
        · rw [fault]
          exact .fault _
      | path => exact .goOn (fun _ => covers.givePath) goesOn
      | command => exact .atCommand covers later
      | help => exact .help
      | version => exact .version
      | fault => exact .fault _
    · rw [split] at size ⊢
      rcases readLevel_asked asks with fault | ⟨noted, more, same⟩
      · rw [fault]
        exact .fault _
      · rw [same]
        refine ih rest.length ?_ later (more.trans covers) rfl
        have positive := List.length_pos_iff.2 asks.ne_nil
        rw [List.length_append] at size
        omega

/-! ## Commands -/

namespace Given.Covers

theorem lookup_eq (covers : given.Covers manner other) {name : String}
    (differs : name ≠ manner.name) : other.values.lookup name = given.values.lookup name :=
  (covers.values name).resolve_right fun same => differs same.1

theorem contains_eq (covers : given.Covers manner other) {name : String}
    (differs : name ≠ manner.name) : other.flags.contains name = given.flags.contains name := by
  rw [Bool.eq_iff_iff, List.contains_iff_mem, List.contains_iff_mem]
  exact ⟨fun member => covers.flags_subset member,
    fun member => (covers.flags name member).resolve_right differs⟩

/-- The option makes no difference to the command. -/
theorem command_eq (covers : given.Covers manner other) (name : String) :
    command? name other = command? name given := by
  have world : other.values.lookup "universe" = given.values.lookup "universe" :=
    covers.lookup_eq (by cases manner <;> decide)
  have config : other.values.lookup "config" = given.values.lookup "config" :=
    covers.lookup_eq (by cases manner <;> decide)
  have source : other.values.lookup "from" = given.values.lookup "from" :=
    covers.lookup_eq (by cases manner <;> decide)
  have wanted : other.values.lookup "to" = given.values.lookup "to" :=
    covers.lookup_eq (by cases manner <;> decide)
  unfold command?
  simp only [world, config, source, wanted, covers.paths]

end Given.Covers

/-- Two presentations that differ in nothing but what an option says. -/
structure Agree (manner : Manner) (shown other : Presentation) : Prop where
  format : manner ≠ .output → other.format = shown.format
  quiet : manner ≠ .quiet → other.quiet = shown.quiet
  verbose : other.verbose = shown.verbose

theorem agree_presentation {before after otherBefore otherAfter : Given}
    (coversBefore : before.Covers manner otherBefore)
    (coversAfter : after.Covers manner otherAfter) :
    Agree manner (presentation before after) (presentation otherBefore otherAfter) where
  format differs := by
    have name : "output" ≠ manner.name := by
      cases manner with
      | quiet => decide
      | output => exact absurd rfl differs
    unfold presentation
    rw [coversBefore.lookup_eq name, coversAfter.lookup_eq name]
  quiet differs := by
    have name : "quiet" ≠ manner.name := by
      cases manner with
      | quiet => exact absurd rfl differs
      | output => decide
    unfold presentation
    rw [coversBefore.contains_eq name, coversAfter.contains_eq name]
  verbose := by
    have name : "verbose" ≠ manner.name := by cases manner <;> decide
    unfold presentation
    rw [coversBefore.contains_eq name, coversAfter.contains_eq name]

theorem helpOn_ne_command {command : Command} {shown : Presentation} (arguments : List String) :
    helpOn arguments ≠ .command command shown := by
  intro asked
  unfold helpOn at asked
  split at asked
  · cases asked
  · split at asked <;> cases asked
  · cases asked

/-- **Arguments without an option of the presentation** ask for the same command, and show its
result as all of them do, but for that option. -/
theorem parse_without {command : Command} {shown : Presentation}
    (without : Without manner arguments others)
    (parsed : parse arguments = .command command shown) :
    ∃ other, parse others = .command command other ∧ Agree manner shown other := by
  unfold parse at parsed ⊢
  have first : (readLevel true topLevel default arguments).Covers manner
      (readLevel true topLevel default others) := readLevel_without without (.refl default)
  generalize readLevel true topLevel default arguments = found at first parsed
  generalize readLevel true topLevel default others = foundOthers at first
  cases first with
  | finished _ => cases parsed
  | version => cases parsed
  | help => cases parsed
  | fault _ => cases parsed
  | @atCommand name before otherBefore rest others coversBefore without =>
    dsimp only at parsed ⊢
    cases isLevel : levelOf? name with
    | none =>
      rw [isLevel] at parsed
      dsimp only at parsed
      split at parsed
      · exact absurd parsed (helpOn_ne_command rest)
      · cases parsed
    | some level =>
      rw [isLevel] at parsed
      dsimp only at parsed ⊢
      have later : (readLevel false level default rest).Covers manner
          (readLevel false level default others) := readLevel_without without (.refl default)
      generalize readLevel false level default rest = found at later parsed
      generalize readLevel false level default others = foundOthers at later
      cases later with
      | version => cases parsed
      | help => cases parsed
      | fault _ => cases parsed
      | atCommand _ _ => cases parsed
      | @finished after otherAfter coversAfter =>
        dsimp only at parsed ⊢
        rw [coversAfter.command_eq]
        cases isCommand : command? name after with
        | none =>
          rw [isCommand] at parsed
          cases parsed
        | some found =>
          rw [isCommand] at parsed
          cases parsed
          exact ⟨_, rfl, agree_presentation coversBefore coversAfter⟩

end AdapterWiring.Invocation
