import AdapterWiring.Adapter.Cycle
import Mathlib.Data.List.Chain
import Mathlib.Tactic.Common

/-!
# Which cycles the search finds

The search leaves each name once, after a look at all its links. A link from a
name to one that is left later would lead to a name still on the path, and such
a link closes a cycle that the search lists. So whoever follows links without
end takes one that closes a listed cycle: names can be left one after the other
only finitely often.

* **links, closing?** — the links of a cycle, and the one that closes it.
* **Within, Acyclic** — the cycles that preferences have; those that have none.
* **withLinks, withoutLinks** — preferences declared, and taken back.
* **Explores** — the search as a relation, a rule for each case of `explore`.
* **Explores.within** — every cycle listed is one that the preferences have.
* **Left, Explores.left** — the order in which names are left, and that a search
  extends it.
* **exists_closing, cycles_complete** — what this says of every cycle.
-/

namespace AdapterWiring

/-! ## Cycles of given preferences -/

namespace Cycle

/-- The links of a cycle: from each name to the next one, and from the last to the first. -/
def links (cycle : Cycle) : List (String × String) :=
  cycle.members.zip (cycle.members.drop 1 ++ cycle.members.take 1)

/-- The link that closes a cycle, from its last name to its first. -/
def closing? (cycle : Cycle) : Option (String × String) := do
  return (← cycle.members.getLast?, ← cycle.members.head?)

/-- Each name of the cycle is followed by one preferred to it, and the last by the first. -/
def Within (cycle : Cycle) (precedence : Precedence) : Prop :=
  cycle.members ≠ [] ∧ ∀ link ∈ cycle.links, link.2 ∈ precedence.preceding link.1

instance (cycle : Cycle) (precedence : Precedence) : Decidable (cycle.Within precedence) :=
  inferInstanceAs (Decidable (_ ∧ _))

theorem closing?_eq_some_iff {cycle : Cycle} {lower higher : String} :
    cycle.closing? = some (lower, higher) ↔
      cycle.members.getLast? = some lower ∧ cycle.members.head? = some higher := by
  unfold closing?
  cases cycle.members.getLast? <;> cases cycle.members.head? <;> simp

/-- Every name of a cycle has a link to a name of the cycle. -/
theorem exists_link {cycle : Cycle} {name : String} (member : name ∈ cycle.members) :
    ∃ next ∈ cycle.members, (name, next) ∈ cycle.links := by
  obtain ⟨members⟩ := cycle
  have sameLength : (members.drop 1 ++ members.take 1).length = members.length := by
    simp only [List.length_append, List.length_drop, List.length_take]
    omega
  obtain ⟨place, inside, rfl⟩ := List.mem_iff_getElem.1 member
  have inside' : place < (members.drop 1 ++ members.take 1).length := sameLength ▸ inside
  refine ⟨(members.drop 1 ++ members.take 1)[place], ?_, ?_⟩
  · rcases List.mem_append.1 (List.getElem_mem inside') with later | first
    · exact List.mem_of_mem_drop later
    · exact List.mem_of_mem_take first
  · rw [links, List.mem_iff_getElem]
    exact ⟨place, by rw [List.length_zip, sameLength]; omega, by simp⟩

end Cycle

namespace Precedence

variable {precedence : Precedence}

/-- There is no cycle. -/
def Acyclic (precedence : Precedence) : Prop := ∀ cycle : Cycle, ¬ cycle.Within precedence

/-- `higher` is preferred to `lower`. -/
def Link (precedence : Precedence) (lower higher : String) : Prop :=
  higher ∈ precedence.preceding lower

/-- A cycle goes along links and comes back to its first name. -/
theorem within_cons_iff {first : String} {rest : List String} :
    Cycle.Within ⟨first :: rest⟩ precedence ↔
      List.IsChain precedence.Link (first :: rest ++ [first]) := by
  rw [List.isChain_cons_append_singleton_iff_forall₂, List.forall₂_iff_zip]
  simp [Cycle.Within, Cycle.links, Link]

/-! ## Preferences declared and taken back -/

/-- The preferences with more links, declared one after the other. -/
def withLinks (precedence : Precedence) (links : List (String × String)) : Precedence :=
  links.foldl (fun precedence link => precedence.declare link.2 link.1) precedence

theorem mem_preceding_withLinks {links : List (String × String)} {name other : String} :
    other ∈ (precedence.withLinks links).preceding name ↔
      (name, other) ∈ links ∨ other ∈ precedence.preceding name := by
  induction links generalizing precedence with
  | nil => simp [withLinks]
  | cons link rest ih =>
    have step : precedence.withLinks (link :: rest) =
        (precedence.declare link.2 link.1).withLinks rest := rfl
    rw [step, ih, mem_preceding_declare, List.mem_cons, Prod.ext_iff]
    tauto

/-- Take the preference of `higher` to `lower` back. -/
def retract (precedence : Precedence) (higher lower : String) : Precedence :=
  ⟨precedence.highers.insert lower ((precedence.preceding lower).erase higher)⟩

/-- The preferences without some links. -/
def withoutLinks (precedence : Precedence) (links : List (String × String)) : Precedence :=
  links.foldl (fun precedence link => precedence.retract link.2 link.1) precedence

theorem mem_preceding_retract {higher lower name other : String} :
    other ∈ (precedence.retract higher lower).preceding name ↔
      other ∈ precedence.preceding name ∧ (name, other) ≠ (lower, higher) := by
  unfold retract preceding preceding?
  rw [NameMap.get?_insert]
  split
  next same => subst same; simp
  next different => simp [different]

theorem mem_preceding_withoutLinks {links : List (String × String)} {name other : String} :
    other ∈ (precedence.withoutLinks links).preceding name ↔
      other ∈ precedence.preceding name ∧ (name, other) ∉ links := by
  induction links generalizing precedence with
  | nil => simp [withoutLinks]
  | cons link rest ih =>
    have step : precedence.withoutLinks (link :: rest) =
        (precedence.retract link.2 link.1).withoutLinks rest := rfl
    rw [step, ih, mem_preceding_retract, List.mem_cons]
    tauto

/-! ## The names that occur -/

/-- Both ends of a link are among the names that occur. -/
theorem Link.mem_names {lower higher : String} (link : precedence.Link lower higher) :
    lower ∈ precedence.names ∧ higher ∈ precedence.names := by
  unfold Link preceding preceding? at link
  cases stored : precedence.highers.get? lower with
  | none => simp [stored] at link
  | some highers =>
    simp only [stored, Option.getD_some] at link
    simp only [names, NameSet.mem_foldl_union]
    constructor
    · exact .inl (NameMap.mem_keys.2 (by simp [stored]))
    · exact .inr ⟨highers, NameMap.mem_values.2 ⟨lower, stored⟩, link⟩

/-! ## The search as a relation -/

/-- A search from the last name of a path along given names, by what it does at each of them. -/
inductive Explores (precedence : Precedence) : List String → List String → Search → Search → Prop
  | done {path : List String} {search : Search} : Explores precedence path [] search search
  | close {path rest : List String} {name : String} {search after : Search} :
    name ∈ path →
    Explores precedence path rest
      { search with cycles := search.cycles ++ [closedAt path name] } after →
    Explores precedence path (name :: rest) search after
  | enter {path rest : List String} {name : String} {search inner after : Search} :
    name ∉ path → name ∈ search.unvisited →
    Explores precedence (path ++ [name]) (precedence.preceding name).toList
      { search with unvisited := search.unvisited.erase name } inner →
    Explores precedence path rest inner after →
    Explores precedence path (name :: rest) search after
  | skip {path rest : List String} {name : String} {search after : Search} :
    name ∉ path → name ∉ search.unvisited →
    Explores precedence path rest search after →
    Explores precedence path (name :: rest) search after

theorem explores (precedence : Precedence) (path todo : List String) (search : Search) :
    Explores precedence path todo search (explore precedence path todo search).1 := by
  fun_induction explore precedence path todo search with
  | case1 => exact .done
  | case2 path search name rest onPath found after le result ih =>
    rw [result] at ih
    exact .close onPath ih
  | case3 path search name rest offPath fresh entered _ inner _ first after _ second ihInner
      ihRest =>
    rw [first] at ihInner
    rw [second] at ihRest
    exact .enter offPath fresh ihInner ihRest
  | case4 path search name rest offPath stale ih => exact .skip offPath stale ih

/-- A search forgets no cycle. -/
theorem Explores.mem_cycles {path todo : List String} {search after : Search}
    (run : Explores precedence path todo search after) :
    ∀ cycle ∈ search.cycles, cycle ∈ after.cycles := by
  induction run with
  | done => exact fun _ listed => listed
  | close _ _ ih => exact fun cycle listed => ih cycle (List.mem_append_left _ listed)
  | enter _ _ _ _ ihInner ihRest => exact fun cycle listed => ihRest cycle (ihInner cycle listed)
  | skip _ _ _ ih => exact ih

/-! ## Cycles that close at a name of the path -/

/-- A cycle that closes at a name of the path is the path from that name on. -/
theorem exists_closedAt {path : List String} {name : String} (onPath : name ∈ path) :
    ∃ before rest, path = before ++ name :: rest ∧ closedAt path name = ⟨name :: rest⟩ := by
  induction path with
  | nil => simp at onPath
  | cons head tail ih =>
    by_cases same : head = name
    · subst same
      exact ⟨[], tail, rfl, by simp [closedAt]⟩
    · have later : name ∈ tail := (List.mem_cons.1 onPath).resolve_left (Ne.symm same)
      obtain ⟨before, rest, rfl, closed⟩ := ih later
      refine ⟨head :: before, rest, rfl, ?_⟩
      simpa [closedAt, same] using closed

/-- Its closing link goes from the last name of the path to that name. -/
theorem closing?_closedAt {path : List String} {name last : String} (onPath : name ∈ path)
    (isLast : path.getLast? = some last) : (closedAt path name).closing? = some (last, name) := by
  obtain ⟨before, rest, rfl, closed⟩ := exists_closedAt onPath
  rw [closed, Cycle.closing?_eq_some_iff]
  simpa using isLast

/-- It is a cycle of the preferences, if the path goes along links and its last name has one to
that name. -/
theorem within_closedAt {path : List String} {name : String} (onPath : name ∈ path)
    (chain : path.IsChain precedence.Link)
    (link : ∀ last ∈ path.getLast?, precedence.Link last name) :
    (closedAt path name).Within precedence := by
  obtain ⟨before, rest, rfl, closed⟩ := exists_closedAt onPath
  rw [closed, within_cons_iff]
  refine chain.right_of_append.append (.singleton name) ?_
  intro last isLast other isOther
  rw [List.head?_cons, Option.mem_some_iff] at isOther
  subst isOther
  exact link last (by simpa using isLast)

/-- **Soundness.** A search from a path along links lists nothing but cycles that the preferences
have. -/
theorem Explores.within {path todo : List String} {search after : Search}
    (run : Explores precedence path todo search after) (chain : path.IsChain precedence.Link)
    (links : ∀ last ∈ path.getLast?, ∀ name ∈ todo, precedence.Link last name)
    (sound : ∀ cycle ∈ search.cycles, cycle.Within precedence) :
    ∀ cycle ∈ after.cycles, cycle.Within precedence := by
  induction run with
  | done => exact sound
  | @close path rest name search after onPath _ ih =>
    refine ih chain (fun last isLast other later =>
      links last isLast other (List.mem_cons_of_mem _ later)) ?_
    intro cycle listed
    rcases List.mem_append.1 listed with before | new
    · exact sound cycle before
    · rw [List.mem_singleton.1 new]
      exact within_closedAt onPath chain fun last isLast =>
        links last isLast name (List.mem_cons_self ..)
  | @enter path rest name search inner after _ _ _ _ ihInner ihRest =>
    refine ihRest chain (fun last isLast other later =>
      links last isLast other (List.mem_cons_of_mem _ later)) (ihInner ?_ ?_ sound)
    -- the path that the search goes on from ends with `name`
    · refine chain.append (.singleton name) fun last isLast other isOther => ?_
      rw [List.head?_cons, Option.mem_some_iff] at isOther
      subst isOther
      exact links last isLast name (List.mem_cons_self ..)
    · intro last isLast other member
      rw [List.getLast?_concat, Option.mem_some_iff] at isLast
      subst isLast
      exact member
  | skip _ _ _ ih =>
    exact ih chain (fun last isLast other later =>
      links last isLast other (List.mem_cons_of_mem _ later)) sound

/-! ## The order in which names are left -/

/-- Names in the order in which a search has left them, the latest first. A link of one of them
leads to a name left before it or closes a cycle. -/
inductive Left (precedence : Precedence) (cycles : List Cycle) : List String → Prop
  | nil : Left precedence cycles []
  | cons {name : String} {earlier : List String} : Left precedence cycles earlier →
    (∀ higher, precedence.Link name higher →
      higher ∈ earlier ∨ ∃ cycle ∈ cycles, cycle.closing? = some (name, higher)) →
    Left precedence cycles (name :: earlier)

theorem Left.mono {cycles others : List Cycle} {names : List String}
    (left : precedence.Left cycles names) (more : ∀ cycle ∈ cycles, cycle ∈ others) :
    precedence.Left others names := by
  induction left with
  | nil => exact .nil
  | cons _ links ih =>
    refine .cons ih fun higher link => ?_
    rcases links higher link with before | ⟨cycle, listed, closing⟩
    · exact .inl before
    · exact .inr ⟨cycle, more cycle listed, closing⟩

/-- A name that a search has entered is on the path or left. -/
def Entered (precedence : Precedence) (unvisited : NameSet) (path names : List String) : Prop :=
  ∀ name ∈ precedence.names, name ∉ unvisited → name ∈ path ∨ name ∈ names

theorem Entered.enter {unvisited : NameSet} {path names : List String}
    (entered : precedence.Entered unvisited path names) (name : String) :
    precedence.Entered (unvisited.erase name) (path ++ [name]) names := by
  intro other isName gone
  by_cases same : other = name
  · exact .inl (by simp [same])
  · have gone' : other ∉ unvisited := fun still => gone (NameSet.mem_erase.2 ⟨still, same⟩)
    rcases entered other isName gone' with onPath | before
    · exact .inl (List.mem_append_left _ onPath)
    · exact .inr before

theorem Entered.leave {unvisited : NameSet} {path names : List String} {name : String}
    (entered : precedence.Entered unvisited (path ++ [name]) names) :
    precedence.Entered unvisited path (name :: names) := by
  intro other isName gone
  rcases entered other isName gone with onPath | before
  · rcases List.mem_append.1 onPath with onPath | isLast
    · exact .inl onPath
    · exact .inr (List.mem_cons.2 (.inl (List.mem_singleton.1 isLast)))
  · exact .inr (List.mem_cons_of_mem _ before)

/-- What a search does to the names left: more are left, all that it enters among them, and each
name it looks at is left or closes a cycle with the path. -/
theorem Explores.left {path todo : List String} {search after : Search}
    (run : Explores precedence path todo search after)
    (known : ∀ name ∈ todo, name ∈ precedence.names) {names : List String}
    (left : precedence.Left search.cycles names)
    (entered : precedence.Entered search.unvisited path names) :
    ∃ others, precedence.Left after.cycles others ∧ (∀ name ∈ names, name ∈ others) ∧
      precedence.Entered after.unvisited path others ∧
      ∀ name ∈ todo, name ∈ others ∨
        ∃ cycle ∈ after.cycles, ∃ last ∈ path.getLast?,
          cycle.closing? = some (last, name) := by
  induction run generalizing names with
  | done => exact ⟨names, left, fun _ member => member, entered, by simp⟩
  | @close path rest name search after onPath run ih =>
    obtain ⟨others, left', kept, entered', looked⟩ :=
      ih (fun other later => known other (List.mem_cons_of_mem _ later))
        (left.mono fun cycle listed => List.mem_append_left _ listed) entered
    refine ⟨others, left', kept, entered', fun other member => ?_⟩
    rcases List.mem_cons.1 member with rfl | later
    · obtain ⟨last, isLast⟩ := Option.isSome_iff_exists.1
        (List.getLast?_isSome.2 (List.ne_nil_of_mem onPath))
      have listed := run.mem_cycles _ (List.mem_append_right _ (List.mem_singleton_self _))
      exact .inr ⟨_, listed, last, isLast, closing?_closedAt onPath isLast⟩
    · exact looked other later
  | @enter path rest name search inner after _ _ _ _ ihInner ihRest =>
    obtain ⟨others, left', kept, entered', looked⟩ :=
      ihInner (fun higher link => (Link.mem_names link).2) left (entered.enter name)
    -- all links of `name` have been looked at, so it is left next
    have leftName : precedence.Left inner.cycles (name :: others) := by
      refine .cons left' fun higher link => ?_
      rcases looked higher link with before | ⟨cycle, listed, last, isLast, closing⟩
      · exact .inl before
      · rw [List.getLast?_concat, Option.mem_some_iff] at isLast
        subst isLast
        exact .inr ⟨cycle, listed, closing⟩
    obtain ⟨final, left'', kept', entered'', looked'⟩ :=
      ihRest (fun other later => known other (List.mem_cons_of_mem _ later)) leftName
        entered'.leave
    have keptAll (other : String) (member : other ∈ names) : other ∈ final :=
      kept' other (List.mem_cons_of_mem _ (kept other member))
    refine ⟨final, left'', keptAll, entered'', fun other member => ?_⟩
    rcases List.mem_cons.1 member with rfl | later
    · exact .inl (kept' _ (List.mem_cons_self ..))
    · exact looked' other later
  | @skip path rest name search after offPath stale _ ih =>
    obtain ⟨others, left', kept, entered', looked⟩ :=
      ih (fun other later => known other (List.mem_cons_of_mem _ later)) left entered
    refine ⟨others, left', kept, entered', fun other member => ?_⟩
    rcases List.mem_cons.1 member with rfl | later
    · have isName := known other (List.mem_cons_self ..)
      exact .inl (kept other ((entered other isName stale).resolve_left offPath))
    · exact looked other later

/-- Links that stay among some of the names left, one from each, cannot avoid the closing ones. -/
theorem Left.exists_closing {cycles : List Cycle} {names : List String}
    (left : precedence.Left cycles names) {links : String → String → Prop}
    (declared : ∀ lower higher, links lower higher → precedence.Link lower higher)
    {among : String → Prop}
    (endless : ∀ lower, among lower → ∃ higher, among higher ∧ links lower higher)
    {start : String} (member : start ∈ names) (isAmong : among start) :
    ∃ cycle ∈ cycles, ∃ lower higher,
      links lower higher ∧ cycle.closing? = some (lower, higher) := by
  induction left generalizing start with
  | nil => simp at member
  | @cons name earlier _ onward ih =>
    rcases List.mem_cons.1 member with rfl | before
    · obtain ⟨higher, alsoAmong, link⟩ := endless start isAmong
      rcases onward higher (declared _ _ link) with before | ⟨cycle, listed, closing⟩
      · exact ih before alsoAmong
      · exact ⟨cycle, listed, start, higher, link, closing⟩
    · exact ih before isAmong

/-! ## All cycles -/

/-- Every cycle listed is one that the preferences have. -/
theorem within_of_mem_cycles {cycle : Cycle} (listed : cycle ∈ precedence.cycles) :
    cycle.Within precedence :=
  (explores precedence [] precedence.names.toList ⟨precedence.names, []⟩).within .nil (by simp)
    (by simp) cycle listed

/-- Whoever follows links without end takes one that closes a cycle listed. -/
theorem exists_closing (links : String → String → Prop) (among : String → Prop)
    (declared : ∀ lower higher, links lower higher → precedence.Link lower higher)
    (endless : ∀ lower, among lower → ∃ higher, among higher ∧ links lower higher)
    {start : String} (isAmong : among start) :
    ∃ cycle ∈ precedence.cycles, ∃ lower higher,
      links lower higher ∧ cycle.closing? = some (lower, higher) := by
  obtain ⟨names, left, _, _, looked⟩ :=
    (explores precedence [] precedence.names.toList ⟨precedence.names, []⟩).left
      (fun _ member => member) .nil fun _ isName gone => absurd isName gone
  obtain ⟨higher, _, link⟩ := endless start isAmong
  have isName := (Link.mem_names (declared _ _ link)).1
  have member : start ∈ names := by
    rcases looked start isName with member | ⟨_, _, last, isLast, _⟩
    · exact member
    · simp at isLast
  exact left.exists_closing declared endless member isAmong

/-- **Completeness.** Every cycle of the preferences has a link that closes a cycle listed. So
taking the closing links back leaves no cycle, and no cycle is listed just where there is none. -/
theorem cycles_complete (precedence : Precedence) :
    (∀ cycle : Cycle, cycle.Within precedence →
      ∃ found ∈ precedence.cycles, ∃ link ∈ cycle.links, found.closing? = some link) ∧
    (precedence.withoutLinks (precedence.cycles.filterMap Cycle.closing?)).Acyclic ∧
    (precedence.cycles = [] ↔ precedence.Acyclic) := by
  have complete (cycle : Cycle) (within : cycle.Within precedence) :
      ∃ found ∈ precedence.cycles, ∃ link ∈ cycle.links, found.closing? = some link := by
    obtain ⟨start, member⟩ := List.exists_mem_of_ne_nil _ within.1
    obtain ⟨found, listed, lower, higher, link, closing⟩ := exists_closing
      (fun lower higher => (lower, higher) ∈ cycle.links) (· ∈ cycle.members)
      (fun _ _ link => within.2 _ link) (fun _ isMember => Cycle.exists_link isMember) member
    exact ⟨found, listed, _, link, closing⟩
  refine ⟨complete, fun cycle remains => ?_, fun none cycle within => ?_, fun acyclic => ?_⟩
  · have kept (link : String × String) (isLink : link ∈ cycle.links) :=
      mem_preceding_withoutLinks.1 (remains.2 link isLink)
    obtain ⟨found, listed, link, isLink, closing⟩ :=
      complete cycle ⟨remains.1, fun link isLink => (kept link isLink).1⟩
    exact (kept link isLink).2 (List.mem_filterMap.2 ⟨found, listed, closing⟩)
  · obtain ⟨found, listed, _⟩ := complete cycle within
    simp [none] at listed
  · refine List.eq_nil_iff_forall_not_mem.2 fun cycle listed => ?_
    exact acyclic cycle (within_of_mem_cycles listed)

/-- Two cycles that share a link: the search walks A, M, Z only, and A, Z closes with it. -/
def chord : Precedence :=
  (((none.declare "M" "A").declare "Z" "A").declare "Z" "M").declare "A" "Z"

theorem cycles_complete_chord :
    Cycle.Within ⟨["A", "Z"]⟩ chord ∧ ∃ found ∈ chord.cycles,
      ∃ link ∈ Cycle.links ⟨["A", "Z"]⟩, found.closing? = some link := by
  have within : Cycle.Within ⟨["A", "Z"]⟩ chord := by decide
  exact ⟨within, (cycles_complete chord).1 _ within⟩

end Precedence

end AdapterWiring
