import AdapterWiring.Proofs.Adapter.Rotations

/-!
# The search, step by step

The search is a recursion that carries one path along: a call puts its name at
the end of it, makes a call for each preferred name that was not visited, and
takes its name away again. Here it is taken apart into its steps, with the calls
under way written out, so that one can speak of every moment of it: what the
path holds then, and when a call returns.

* **Moment, step** — the state between two steps, and a step.
* **Moves** — the steps as a relation, a rule for each kind.
* **Framed, Sound** — what belongs to a path and the calls under way; kept by
  each step (`Sound.move`), so true of every moment (`sound_moment`).
* **Explores.runs** — the steps that a call takes, from its entry to its end.
* **Explores.closed** — what a call visits is closed under links, so it leaves
  no name out that can be reached through names not visited before.
* **visits_once** — all of this for the whole search.
-/

namespace AdapterWiring.Precedence

variable {precedence : Precedence}

/-! ## Steps -/

/-- The search between two steps. -/
structure Moment where
  /-- The names that a call was made for. -/
  visited : NameSet
  /-- The names of the calls under way, the latest last. -/
  path : List String
  /-- The cycles found, in order. -/
  cycles : List Cycle
  /-- What each call under way has still to look at, the latest call first; last comes what the search
  itself has to. -/
  calls : List (List String)

/-- One step: the latest call looks at its next name, or returns and takes its own off the path. -/
def Moment.step (precedence : Precedence) (moment : Moment) : Moment :=
  match moment.calls with
  | [] => moment
  | [] :: callers => { moment with path := moment.path.dropLast, calls := callers }
  | (name :: rest) :: callers =>
    if name ∈ moment.path then
      { moment with
        cycles := moment.cycles ++ [closedAt moment.path name], calls := rest :: callers }
    else if name ∈ moment.visited then { moment with calls := rest :: callers }
    else
      { moment with
        visited := moment.visited.insert name
        path := moment.path ++ [name]
        calls := (precedence.preceding name).toList :: rest :: callers }

/-- The search before its first step. -/
def start (precedence : Precedence) : Moment := ⟨∅, [], [], [precedence.names.toList]⟩

/-- The search after so many steps. -/
def moment (precedence : Precedence) (steps : Nat) : Moment :=
  (Moment.step precedence)^[steps] precedence.start

/-- The next step makes a call for a name. -/
def Moment.Enters (moment : Moment) (name : String) : Prop :=
  ∃ rest callers, moment.calls = (name :: rest) :: callers ∧
    name ∉ moment.path ∧ name ∉ moment.visited

/-- What a step can do. -/
inductive Moves (precedence : Precedence) : Moment → Moment → Prop
  | stop {visited : NameSet} {path : List String} {cycles : List Cycle} :
    Moves precedence ⟨visited, path, cycles, []⟩ ⟨visited, path, cycles, []⟩
  | leave {visited : NameSet} {path : List String} {cycles : List Cycle}
    {callers : List (List String)} :
    Moves precedence ⟨visited, path, cycles, [] :: callers⟩ ⟨visited, path.dropLast, cycles, callers⟩
  | close {visited : NameSet} {path rest : List String} {cycles : List Cycle} {name : String}
    {callers : List (List String)} : name ∈ path →
    Moves precedence ⟨visited, path, cycles, (name :: rest) :: callers⟩
      ⟨visited, path, cycles ++ [closedAt path name], rest :: callers⟩
  | skip {visited : NameSet} {path rest : List String} {cycles : List Cycle} {name : String}
    {callers : List (List String)} : name ∉ path → name ∈ visited →
    Moves precedence ⟨visited, path, cycles, (name :: rest) :: callers⟩
      ⟨visited, path, cycles, rest :: callers⟩
  | enter {visited : NameSet} {path rest : List String} {cycles : List Cycle} {name : String}
    {callers : List (List String)} : name ∉ path → name ∉ visited →
    Moves precedence ⟨visited, path, cycles, (name :: rest) :: callers⟩
      ⟨visited.insert name, path ++ [name], cycles,
        (precedence.preceding name).toList :: rest :: callers⟩

theorem moves (precedence : Precedence) (moment : Moment) :
    Moves precedence moment (moment.step precedence) := by
  obtain ⟨visited, path, cycles, calls⟩ := moment
  cases calls with
  | nil => exact .stop
  | cons todo callers =>
    cases todo with
    | nil => exact .leave
    | cons name rest =>
      simp only [Moment.step]
      split
      next onPath => exact .close onPath
      next offPath =>
        split
        next isVisited => exact .skip offPath isVisited
        next fresh => exact .enter offPath fresh

/-- The step of a call that makes another. -/
theorem Moment.step_enter {visited : NameSet} {path rest : List String} {cycles : List Cycle}
    {name : String} {callers : List (List String)} (offPath : name ∉ path)
    (fresh : name ∉ visited) :
    (⟨visited, path, cycles, (name :: rest) :: callers⟩ : Moment).step precedence =
      ⟨visited.insert name, path ++ [name], cycles,
        (precedence.preceding name).toList :: rest :: callers⟩ := by
  simp only [Moment.step, if_neg offPath, if_neg fresh]

theorem moment_succ (precedence : Precedence) (steps : Nat) :
    precedence.moment (steps + 1) = (precedence.moment steps).step precedence :=
  Function.iterate_succ_apply' ..

theorem moment_add (precedence : Precedence) (steps further : Nat) :
    precedence.moment (steps + further) =
      (Moment.step precedence)^[further] (precedence.moment steps) := by
  unfold moment
  rw [Nat.add_comm, Function.iterate_add_apply]

/-! ## What every moment keeps -/

/-- The names of a path belong to the calls under way: each has a link from the one before it, and to
whatever its call has still to look at. -/
inductive Framed (precedence : Precedence) : List String → List (List String) → Prop
  | ended : Framed precedence [] []
  | search {todo : List String} : (∀ name ∈ todo, name ∈ precedence.names) →
    Framed precedence [] [todo]
  | call {path todo : List String} {calls : List (List String)} {name : String} :
    Framed precedence path calls → (∀ last ∈ path.getLast?, precedence.Link last name) →
    (∀ higher ∈ todo, precedence.Link name higher) →
    Framed precedence (path ++ [name]) (todo :: calls)

namespace Framed

variable {path todo : List String} {calls : List (List String)} {name : String}

theorem link (framed : Framed precedence path (todo :: calls)) :
    ∀ last ∈ path.getLast?, ∀ name ∈ todo, precedence.Link last name := by
  cases framed with
  | search _ => simp
  | call _ _ links =>
    intro last isLast name member
    rw [List.getLast?_concat, Option.mem_some_iff] at isLast
    subst isLast
    exact links name member

theorem mem_names (framed : Framed precedence path (todo :: calls)) :
    ∀ name ∈ todo, name ∈ precedence.names := by
  cases framed with
  | search known => exact known
  | call _ _ links => exact fun name member => (links name member).mem_names.2

/-- A call that has looked at a name goes on. -/
theorem rest (framed : Framed precedence path ((name :: todo) :: calls)) :
    Framed precedence path (todo :: calls) := by
  cases framed with
  | search known => exact .search fun other later => known other (List.mem_cons_of_mem _ later)
  | call before link links =>
    exact .call before link fun other later => links other (List.mem_cons_of_mem _ later)

/-- A call that returns leaves the path as it was before. -/
theorem leave (framed : Framed precedence path ([] :: calls)) :
    Framed precedence path.dropLast calls := by
  cases framed with
  | search _ => exact .ended
  | call before _ _ =>
    rw [List.dropLast_concat]
    exact before

/-- A call for the next name. -/
theorem enter (framed : Framed precedence path ((name :: todo) :: calls)) :
    Framed precedence (path ++ [name]) ((precedence.preceding name).toList :: todo :: calls) :=
  .call framed.rest (fun last isLast => framed.link last isLast name (List.mem_cons_self ..))
    fun _ member => member

theorem isChain (framed : Framed precedence path calls) : path.IsChain precedence.Link := by
  induction framed with
  | ended => exact .nil
  | search _ => exact .nil
  | call _ link _ ih =>
    refine ih.append (.singleton _) ?_
    intro last isLast other isOther
    rw [List.head?_cons, Option.mem_some_iff] at isOther
    subst isOther
    exact link last isLast

end Framed

/-- What holds at every moment. -/
structure Sound (precedence : Precedence) (moment : Moment) : Prop where
  framed : Framed precedence moment.path moment.calls
  nodup : moment.path.Nodup
  visited : ∀ name ∈ moment.path, name ∈ moment.visited
  known : ∀ name ∈ moment.visited, name ∈ precedence.names

theorem sound_start (precedence : Precedence) : Sound precedence precedence.start where
  framed := .search fun _ member => member
  nodup := List.nodup_nil
  visited := by simp [start]
  known := by simp [start]

/-- **Step.** Whatever the search does next, it all goes on to hold. -/
theorem Sound.move {moment next : Moment} (sound : Sound precedence moment)
    (moves : Moves precedence moment next) : Sound precedence next := by
  obtain ⟨framed, nodup, visited, known⟩ := sound
  cases moves with
  | stop => exact ⟨framed, nodup, visited, known⟩
  | leave =>
    exact ⟨framed.leave, nodup.sublist (List.dropLast_sublist _),
      fun name onPath => visited name (List.dropLast_subset _ onPath), known⟩
  | close _ => exact ⟨framed.rest, nodup, visited, known⟩
  | skip _ _ => exact ⟨framed.rest, nodup, visited, known⟩
  | @enter _ path _ _ name _ offPath _ =>
    refine ⟨framed.enter, ?_, ?_, ?_⟩
    · rw [← List.concat_eq_append]
      exact nodup.concat offPath
    · intro other onPath
      rw [NameSet.mem_insert]
      rcases List.mem_append.1 onPath with before | isLast
      · exact .inr (visited other before)
      · exact .inl (List.mem_singleton.1 isLast)
    · intro other isVisited
      rcases NameSet.mem_insert.1 isVisited with rfl | before
      · exact framed.mem_names other (List.mem_cons_self ..)
      · exact known other before

/-- **Run.** So it holds at every moment. -/
theorem sound_moment (precedence : Precedence) (steps : Nat) :
    Sound precedence (precedence.moment steps) := by
  induction steps with
  | zero => exact sound_start precedence
  | succ steps ih =>
    rw [moment_succ]
    exact ih.move (moves precedence _)

/-! ## Visited names -/

/-- A name is visited by the call that is made for it. -/
theorem Moves.mem_visited_iff {moment next : Moment} (moves : Moves precedence moment next)
    {name : String} : name ∈ next.visited ↔ name ∈ moment.visited ∨ moment.Enters name := by
  cases moves with
  | stop => simp [Moment.Enters]
  | leave => simp [Moment.Enters]
  | close onPath =>
    refine (or_iff_left ?_).symm
    rintro ⟨_, _, same, offPath, _⟩
    cases same
    exact offPath onPath
  | skip _ isVisited =>
    refine (or_iff_left ?_).symm
    rintro ⟨_, _, same, _, fresh⟩
    cases same
    exact fresh isVisited
  | @enter visited path rest _ entered callers offPath fresh =>
    show name ∈ visited.insert entered ↔ name ∈ visited ∨ _
    rw [NameSet.mem_insert, or_comm]
    refine or_congr_right ⟨?_, ?_⟩
    · rintro rfl
      exact ⟨rest, callers, rfl, offPath, fresh⟩
    · rintro ⟨_, _, same, _⟩
      cases same
      rfl

/-! ## Calls -/

/-- So many steps lead from one moment to another, with more than `depth` calls under way at all of
them. -/
inductive Runs (precedence : Precedence) (depth : Nat) : Nat → Moment → Moment → Prop
  | here {moment : Moment} : depth < moment.calls.length → Runs precedence depth 0 moment moment
  | step {steps : Nat} {moment last : Moment} : depth < moment.calls.length →
    Runs precedence depth steps (moment.step precedence) last →
    Runs precedence depth (steps + 1) moment last

namespace Runs

variable {depth : Nat} {first between last : Moment}

theorem trans {steps further : Nat} (run : Runs precedence depth steps first between)
    (onward : Runs precedence depth further between last) :
    Runs precedence depth (steps + further) first last := by
  induction run with
  | here _ =>
    rw [Nat.zero_add]
    exact onward
  | step deep _ ih =>
    rw [Nat.add_right_comm]
    exact .step deep (ih onward)

theorem mono {steps less : Nat} (run : Runs precedence depth steps first last)
    (le : less ≤ depth) : Runs precedence less steps first last := by
  induction run with
  | here deep => exact .here (Nat.lt_of_le_of_lt le deep)
  | step deep _ ih => exact .step (Nat.lt_of_le_of_lt le deep) ih

theorem iterate {steps : Nat} (run : Runs precedence depth steps first last) :
    (Moment.step precedence)^[steps] first = last ∧
      ∀ some ≤ steps, depth < ((Moment.step precedence)^[some] first).calls.length := by
  induction run with
  | here deep =>
    refine ⟨rfl, fun some le => ?_⟩
    obtain rfl := Nat.le_zero.1 le
    exact deep
  | step deep _ ih =>
    obtain ⟨reached, deeper⟩ := ih
    refine ⟨reached, fun some le => ?_⟩
    cases some with
    | zero => exact deep
    | succ some => exact deeper some (Nat.le_of_succ_le_succ le)

end Runs

/-- A visit to a name takes it off those not visited. -/
theorem diff_insert (names visited : NameSet) (name : String) :
    (names.diff visited).erase name = names.diff (visited.insert name) := by
  ext other
  simp only [NameSet.mem_erase, NameSet.mem_diff, NameSet.mem_insert]
  tauto

theorem mem_of_not_mem_diff {names visited : NameSet} {name : String} (isName : name ∈ names)
    (gone : name ∉ names.diff visited) : name ∈ visited := by
  by_contra fresh
  exact gone (NameSet.mem_diff.2 ⟨isName, fresh⟩)

/-- The search from the end of a path is what the latest call does until it returns. -/
theorem Explores.runs {path todo : List String} {search after : Search}
    (run : Explores precedence path todo search after)
    (known : ∀ name ∈ todo, name ∈ precedence.names) (visited : NameSet)
    (unvisited : search.unvisited = precedence.names.diff visited) (callers : List (List String)) :
    ∃ steps visited', after.unvisited = precedence.names.diff visited' ∧
      Runs precedence callers.length steps ⟨visited, path, search.cycles, todo :: callers⟩
        ⟨visited', path, after.cycles, [] :: callers⟩ := by
  induction run generalizing visited callers with
  | done => exact ⟨0, visited, unvisited, .here (Nat.lt_succ_self _)⟩
  | @close path rest name search after onPath _ ih =>
    obtain ⟨steps, visited', left, runs⟩ :=
      ih (fun other later => known other (List.mem_cons_of_mem _ later)) visited unvisited callers
    refine ⟨steps + 1, visited', left, .step (Nat.lt_succ_self _) ?_⟩
    simpa only [Moment.step, if_pos onPath] using runs
  | @enter path rest name search inner after offPath fresh _ _ ihInner ihRest =>
    rw [unvisited, NameSet.mem_diff] at fresh
    obtain ⟨steps, visited', left, runs⟩ := ihInner (fun higher link => (Link.mem_names link).2)
      (visited.insert name) (by rw [unvisited, diff_insert]) (rest :: callers)
    obtain ⟨further, visited'', left', runs'⟩ := ihRest
      (fun other later => known other (List.mem_cons_of_mem _ later)) visited' left callers
    have leaves : (⟨visited', path ++ [name], inner.cycles, [] :: rest :: callers⟩ : Moment).step
        precedence = ⟨visited', path, inner.cycles, rest :: callers⟩ := by
      simp only [Moment.step, List.dropLast_concat]
    have inside := runs.mono (Nat.le_succ callers.length)
    have onward : Runs precedence callers.length (further + 1)
        ⟨visited', path ++ [name], inner.cycles, [] :: rest :: callers⟩
        ⟨visited'', path, after.cycles, [] :: callers⟩ := by
      refine .step (by simp) ?_
      rw [leaves]
      exact runs'
    refine ⟨steps + (further + 1) + 1, visited'', left', .step (Nat.lt_succ_self _) ?_⟩
    rw [Moment.step_enter offPath fresh.2]
    exact inside.trans onward
  | @skip path rest name search after offPath stale _ ih =>
    have isVisited : name ∈ visited :=
      mem_of_not_mem_diff (known name (List.mem_cons_self ..)) (unvisited ▸ stale)
    obtain ⟨steps, visited', left, runs⟩ :=
      ih (fun other later => known other (List.mem_cons_of_mem _ later)) visited unvisited callers
    refine ⟨steps + 1, visited', left, .step (Nat.lt_succ_self _) ?_⟩
    simpa only [Moment.step, if_neg offPath, if_pos isVisited] using runs

/-- What a call visits is closed under links, as far as it was not visited before. -/
theorem Explores.closed {path todo : List String} {search after : Search}
    (run : Explores precedence path todo search after)
    (entered : ∀ name ∈ path, name ∉ search.unvisited) :
    (∀ name ∈ todo, name ∉ after.unvisited) ∧
      ∀ lower ∈ search.unvisited, lower ∉ after.unvisited →
        ∀ higher, precedence.Link lower higher → higher ∉ after.unvisited := by
  induction run with
  | done => exact ⟨by simp, fun lower before gone => absurd before gone⟩
  | @close path rest name search after onPath run ih =>
    obtain ⟨looked, closed⟩ := ih entered
    refine ⟨List.forall_mem_cons.2 ⟨fun still => ?_, looked⟩, closed⟩
    exact entered name onPath (run.unvisited_subset name still)
  | @enter path rest name search inner after _ fresh inside onward ihInner ihRest =>
    obtain ⟨looked, closed⟩ := ihInner (gone_concat entered name)
    have fewer (other : String) (still : other ∈ inner.unvisited) :
        other ∈ search.unvisited ∧ other ≠ name :=
      NameSet.mem_erase.1 (inside.unvisited_subset other still)
    obtain ⟨looked', closed'⟩ := ihRest fun other onPath still =>
      entered other onPath (fewer other still).1
    have gone {other : String} (left : other ∉ inner.unvisited) : other ∉ after.unvisited :=
      fun still => left (onward.unvisited_subset other still)
    refine ⟨List.forall_mem_cons.2 ⟨gone fun still => (fewer name still).2 rfl, looked'⟩, ?_⟩
    intro lower before left higher link
    by_cases later : lower ∈ inner.unvisited
    · exact closed' lower later left higher link
    · by_cases same : lower = name
      · subst same
        exact gone (looked higher link)
      · exact gone (closed lower (NameSet.mem_erase.2 ⟨before, same⟩) later higher link)
  | @skip path rest name search after _ stale run ih =>
    obtain ⟨looked, closed⟩ := ih entered
    refine ⟨List.forall_mem_cons.2 ⟨fun still => ?_, looked⟩, closed⟩
    exact stale (run.unvisited_subset name still)

/-- So it leaves no name out that could be reached when it was made. -/
theorem Explores.mem_visited {path : List String} {name : String} {visited visited' : NameSet}
    {cycles : List Cycle} {after : Search}
    (run : Explores precedence (path ++ [name]) (precedence.preceding name).toList
      ⟨precedence.names.diff (visited.insert name), cycles⟩ after)
    (left : after.unvisited = precedence.names.diff visited')
    (onPath : ∀ other ∈ path ++ [name], other ∈ visited.insert name)
    (isName : name ∈ precedence.names) {target : String}
    (way : Relation.ReflTransGen
      (fun lower higher => precedence.Link lower higher ∧ lower ∉ visited) name target) :
    target ∈ visited' := by
  have entered (other : String) (member : other ∈ path ++ [name]) :
      other ∉ precedence.names.diff (visited.insert name) :=
    fun still => (NameSet.mem_diff.1 still).2 (onPath other member)
  have isVisited {other : String} (isName : other ∈ precedence.names)
      (gone : other ∉ after.unvisited) : other ∈ visited' :=
    mem_of_not_mem_diff isName (left ▸ gone)
  obtain ⟨looked, closed⟩ := run.closed entered
  induction way with
  | refl =>
    refine isVisited isName fun still => ?_
    exact entered name (by simp) (run.unvisited_subset name still)
  | @tail lower higher _ last ih =>
    obtain ⟨link, fresh⟩ := last
    refine isVisited link.mem_names.2 ?_
    by_cases same : lower = name
    · subst same
      exact looked higher link
    · have before : lower ∈ precedence.names.diff (visited.insert name) :=
        NameSet.mem_diff.2 ⟨link.mem_names.1, by simp [same, fresh]⟩
      have gone : lower ∉ after.unvisited := by
        rw [left, NameSet.mem_diff]
        exact fun still => still.2 ih
      exact closed lower before gone higher link

/-! ## The whole search -/

/-- How many calls are under way, that of the search itself included. -/
def depth (precedence : Precedence) (steps : Nat) : Nat := (precedence.moment steps).calls.length

/-- The call made after so many steps returns after so many others: no later step before that leaves
as few calls under way. -/
def ReturnsAt (precedence : Precedence) (entry exit : Nat) : Prop :=
  entry < exit ∧ precedence.depth exit = precedence.depth entry ∧
    ∀ between, entry < between → between < exit → precedence.depth entry < precedence.depth between

/-- A name occurs in preferences: as one with an entry for those preferred to it, or as one of these.
-/
def Occurs (precedence : Precedence) (name : String) : Prop :=
  precedence.preceding? name ≠ Option.none ∨ ∃ lower, precedence.Link lower name

theorem mem_names_iff {name : String} : name ∈ precedence.names ↔ precedence.Occurs name := by
  have isKey : name ∈ precedence.highers.keys ↔ precedence.preceding? name ≠ Option.none := by
    rw [NameMap.mem_keys, ← Option.isSome_iff_ne_none]
    rfl
  have isValue : (∃ set ∈ precedence.highers.values, name ∈ set) ↔
      ∃ lower, precedence.Link lower name := by
    constructor
    · rintro ⟨set, isSet, member⟩
      obtain ⟨lower, stored⟩ := NameMap.mem_values.1 isSet
      refine ⟨lower, ?_⟩
      simpa [Link, preceding, preceding?, stored] using member
    · rintro ⟨lower, link⟩
      unfold Link preceding preceding? at link
      cases stored : precedence.highers.get? lower with
      | none => simp [stored] at link
      | some set =>
        simp only [stored, Option.getD_some] at link
        exact ⟨set, NameMap.mem_values.2 ⟨lower, stored⟩, link⟩
  rw [names, NameSet.mem_foldl_union, isKey, isValue, Occurs]

/-- The search comes to its end, with every name visited. -/
theorem exists_end (precedence : Precedence) : ∃ steps, (precedence.moment steps).calls = [] ∧
    (precedence.moment steps).cycles = precedence.cycles ∧
    ∀ name ∈ precedence.names, name ∈ (precedence.moment steps).visited := by
  have run := explores precedence [] precedence.names.toList ⟨precedence.names, []⟩
  obtain ⟨steps, visited, left, runs⟩ :=
    run.runs (fun _ member => member) ∅ (by ext name; simp) []
  obtain ⟨reached, _⟩ := runs.iterate
  have last : precedence.moment (steps + 1) = ⟨visited, [], precedence.cycles, []⟩ := by
    rw [moment_succ]
    exact congrArg (Moment.step precedence) reached
  refine ⟨steps + 1, ?_, ?_, fun name isName => ?_⟩
  · rw [last]
  · rw [last]
  · have gone := (run.closed (by simp)).1 name isName
    rw [last]
    exact mem_of_not_mem_diff isName (left ▸ gone)

/-- A name is visited once a call was made for it. -/
theorem mem_visited_iff {steps : Nat} {name : String} :
    name ∈ (precedence.moment steps).visited ↔
      ∃ entry < steps, (precedence.moment entry).Enters name := by
  induction steps with
  | zero => simp [moment, start]
  | succ steps ih =>
    rw [moment_succ, (moves precedence _).mem_visited_iff, ih]
    constructor
    · rintro (⟨entry, before, enters⟩ | enters)
      · exact ⟨entry, Nat.lt_succ_of_lt before, enters⟩
      · exact ⟨steps, Nat.lt_succ_self steps, enters⟩
    · rintro ⟨entry, before, enters⟩
      rcases Nat.lt_succ_iff_lt_or_eq.1 before with earlier | rfl
      · exact .inl ⟨entry, earlier, enters⟩
      · exact .inr enters

/-- No second call is made for a name. -/
theorem enters_unique {name : String} {first second : Nat}
    (enters : (precedence.moment first).Enters name)
    (enters' : (precedence.moment second).Enters name) : first = second := by
  have notBefore {early late : Nat} (entersEarly : (precedence.moment early).Enters name)
      (entersLate : (precedence.moment late).Enters name) : ¬ early < late := by
    intro before
    obtain ⟨_, _, _, _, fresh⟩ := entersLate
    exact fresh (mem_visited_iff.2 ⟨early, before, entersEarly⟩)
  exact Nat.le_antisymm (Nat.not_lt.1 (notBefore enters' enters))
    (Nat.not_lt.1 (notBefore enters enters'))

/-- Each call returns, with the path as it was, and has visited what it could reach. -/
theorem exists_return {entry : Nat} {name : String}
    (enters : (precedence.moment entry).Enters name) : ∃ exit, precedence.ReturnsAt entry exit ∧
      (precedence.moment exit).path = (precedence.moment entry).path ∧
      ∀ target, Relation.ReflTransGen (fun lower higher => precedence.Link lower higher ∧
          lower ∉ (precedence.moment entry).visited) name target →
        target ∈ (precedence.moment exit).visited := by
  have sound := precedence.sound_moment entry
  have sound' := precedence.sound_moment (entry + 1)
  cases here : precedence.moment entry with
  | mk visited path cycles calls =>
  rw [here] at enters sound
  obtain ⟨rest, callers, rfl, offPath, fresh⟩ := enters
  have next : precedence.moment (entry + 1) = ⟨visited.insert name, path ++ [name], cycles,
      (precedence.preceding name).toList :: rest :: callers⟩ := by
    rw [moment_succ, here]
    exact Moment.step_enter offPath fresh
  rw [next] at sound'
  have run := explores precedence (path ++ [name]) (precedence.preceding name).toList
    ⟨precedence.names.diff (visited.insert name), cycles⟩
  obtain ⟨steps, visited', left, runs⟩ := run.runs (fun higher link => (Link.mem_names link).2)
    (visited.insert name) rfl (rest :: callers)
  rw [← next] at runs
  obtain ⟨reached, deeper⟩ := runs.iterate
  rw [← moment_add] at reached
  refine ⟨entry + 1 + steps + 1, ⟨by omega, ?_, ?_⟩, ?_, ?_⟩
  · simp [depth, moment_succ, reached, here, Moment.step]
  · intro between later before
    obtain ⟨further, rfl⟩ := Nat.exists_eq_add_of_le (Nat.succ_le_of_lt later)
    have deep := deeper further (by omega)
    rw [← moment_add] at deep
    simpa [depth, here] using deep
  · simp [moment_succ, reached, Moment.step]
  · intro target way
    have isVisited := run.mem_visited left sound'.visited
      (sound.framed.mem_names name (List.mem_cons_self ..)) way
    simpa [moment_succ, reached, Moment.step] using isVisited

/-- **Visits.** The search comes to an end, with the cycles that it gives. On the way it makes exactly
one call for each name that occurs, and none for another. At every moment the path has no name twice,
all its names are visited, and each is preferred to the one before it. Each call returns with the path
as it was, and by then every name is visited that can be reached from its own through names that were
not visited when it was made. -/
theorem visits_once (precedence : Precedence) :
    (∃ last, (precedence.moment last).calls = [] ∧
      (precedence.moment last).cycles = precedence.cycles) ∧
    (∀ name, precedence.Occurs name → ∃! entry, (precedence.moment entry).Enters name) ∧
    (∀ name entry, (precedence.moment entry).Enters name → precedence.Occurs name) ∧
    (∀ steps, (precedence.moment steps).path.Nodup ∧
      (∀ name ∈ (precedence.moment steps).path, name ∈ (precedence.moment steps).visited) ∧
      (precedence.moment steps).path.IsChain precedence.Link) ∧
    ∀ name entry, (precedence.moment entry).Enters name → ∃ exit, precedence.ReturnsAt entry exit ∧
      (precedence.moment exit).path = (precedence.moment entry).path ∧
      ∀ target, Relation.ReflTransGen (fun lower higher => precedence.Link lower higher ∧
          lower ∉ (precedence.moment entry).visited) name target →
        target ∈ (precedence.moment exit).visited := by
  obtain ⟨last, ended, found, all⟩ := exists_end precedence
  refine ⟨⟨last, ended, found⟩, ?_, ?_, ?_, fun name entry enters => exists_return enters⟩
  · intro name occurs
    obtain ⟨entry, _, enters⟩ := mem_visited_iff.1 (all name (mem_names_iff.2 occurs))
    exact ⟨entry, enters, fun other enters' => enters_unique enters' enters⟩
  · intro name entry enters
    obtain ⟨rest, callers, calls, _⟩ := enters
    have framed := (precedence.sound_moment entry).framed
    rw [calls] at framed
    exact mem_names_iff.1 (framed.mem_names name (List.mem_cons_self ..))
  · intro steps
    have sound := precedence.sound_moment steps
    exact ⟨sound.nodup, sound.visited, sound.framed.isChain⟩

theorem visits_once_detour :
    detour.Occurs "C" ∧ (∃! entry, (detour.moment entry).Enters "C") ∧
    (detour.moment 1).Enters "B" ∧
    ∃ exit, detour.ReturnsAt 1 exit ∧ (detour.moment exit).path = ["A"] ∧
      "C" ∈ (detour.moment exit).visited := by
  have link : detour.Link "B" "C" := (by decide : "C" ∈ detour.preceding "B")
  have occurs : detour.Occurs "C" := .inr ⟨"B", link⟩
  have enters : (detour.moment 1).Enters "B" :=
    ⟨[], [["B", "C"]], by cbv, by decide, by decide⟩
  obtain ⟨_, once, _, _, returns⟩ := visits_once detour
  obtain ⟨exit, returnsAt, samePath, reached⟩ := returns "B" 1 enters
  refine ⟨occurs, once "C" occurs, enters, exit, returnsAt, ?_, reached "C" (.single ?_)⟩
  · rw [samePath]
    cbv
  · exact ⟨link, by decide⟩

end AdapterWiring.Precedence
