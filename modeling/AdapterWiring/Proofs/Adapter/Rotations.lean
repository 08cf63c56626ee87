import AdapterWiring.Proofs.Adapter.Cycles
import Mathlib

/-!
# No cycle is listed twice

A cycle can be written from each of its names on. The search writes it from the
one that it entered first, since a path holds its names in the order in which
they are entered. So two listings of one cycle would be the same list, and close
with the same link; but each name is entered once, and each of its links is
looked at once.

* **eq_of_sublist** — parts of one order with the same names are the same.
* **InOrder, Explores.inOrder** — the path and the cycles listed are parts of the
  order in which names are entered.
* **ClosesAmong, Explores.exists_found** — where the cycles close that a search
  adds, no two of them with the same link.
* **cycles_sound** — what is listed are cycles, none of them twice.
-/

namespace AdapterWiring

/-- Lists in the order of one list without repetitions are equal if they have the same members. -/
theorem eq_of_sublist {α : Type} {order first second : List α} (nodup : order.Nodup)
    (isFirst : first.Sublist order) (isSecond : second.Sublist order)
    (same : ∀ item, item ∈ first ↔ item ∈ second) : first = second := by
  induction order generalizing first second with
  | nil => rw [List.sublist_nil.1 isFirst, List.sublist_nil.1 isSecond]
  | cons head rest ih =>
    obtain ⟨fresh, nodupRest⟩ := List.nodup_cons.1 nodup
    cases isFirst with
    | cons _ isFirst =>
      cases isSecond with
      | cons _ isSecond => exact ih nodupRest isFirst isSecond same
      | cons_cons _ isSecond =>
        exact absurd (isFirst.subset ((same head).2 (List.mem_cons_self ..))) fresh
    | @cons_cons first _ _ isFirst =>
      cases isSecond with
      | cons _ isSecond =>
        exact absurd (isSecond.subset ((same head).1 (List.mem_cons_self ..))) fresh
      | @cons_cons second _ _ isSecond =>
        -- the head stands in neither of the rests
        have sameRest (item : α) : item ∈ first ↔ item ∈ second := by
          by_cases isHead : item = head
          · subst isHead
            exact iff_of_false (fun member => fresh (isFirst.subset member))
              (fun member => fresh (isSecond.subset member))
          · simpa [isHead] using same item
        rw [ih nodupRest isFirst isSecond sameRest]

namespace Precedence

variable {precedence : Precedence}

/-! ## The order in which names are entered -/

/-- Names that a search has entered stay so, and `name` is one of them then. -/
theorem gone_concat {names : List String} {unvisited : NameSet}
    (gone : ∀ other ∈ names, other ∉ unvisited) (name : String) :
    ∀ other ∈ names ++ [name], other ∉ unvisited.erase name := by
  intro other member still
  obtain ⟨still, different⟩ := NameSet.mem_erase.1 still
  rcases List.mem_append.1 member with before | isLast
  · exact gone other before still
  · exact different (List.mem_singleton.1 isLast)

/-- Names in the order in which a search has entered them, each once. The path and the cycles listed
keep to that order. -/
structure InOrder (entered path : List String) (search : Search) : Prop where
  nodup : entered.Nodup
  gone : ∀ name ∈ entered, name ∉ search.unvisited
  path : path.Sublist entered
  cycles : ∀ cycle ∈ search.cycles, cycle.members.Sublist entered

/-- A cycle that closes at a name of the path keeps to the order. -/
theorem InOrder.close {entered path : List String} {search : Search}
    (inOrder : InOrder entered path search) (name : String) :
    InOrder entered path { search with cycles := search.cycles ++ [closedAt path name] } where
  nodup := inOrder.nodup
  gone := inOrder.gone
  path := inOrder.path
  cycles cycle listed := by
    rcases List.mem_append.1 listed with before | new
    · exact inOrder.cycles cycle before
    · rw [List.mem_singleton.1 new]
      exact (List.dropWhile_sublist _).trans inOrder.path

/-- A name that is entered comes last. -/
theorem InOrder.enter {entered path : List String} {search : Search} {name : String}
    (inOrder : InOrder entered path search) (fresh : name ∈ search.unvisited) :
    InOrder (entered ++ [name]) (path ++ [name])
      { search with unvisited := search.unvisited.erase name } where
  nodup := by
    have new : name ∉ entered := fun before => inOrder.gone name before fresh
    rw [← List.concat_eq_append]
    exact inOrder.nodup.concat new
  gone := gone_concat inOrder.gone name
  path := inOrder.path.append (.refl _)
  cycles cycle listed := (inOrder.cycles cycle listed).trans (List.sublist_append_left ..)

/-- A search enters more names, after those before. -/
theorem Explores.inOrder {path todo : List String} {search after : Search}
    (run : Explores precedence path todo search after) {entered : List String}
    (inOrder : InOrder entered path search) : ∃ others, InOrder others path after := by
  induction run generalizing entered with
  | done => exact ⟨entered, inOrder⟩
  | @close _ _ name _ _ _ _ ih => exact ih (inOrder.close name)
  | enter _ fresh _ _ ihInner ihRest =>
    obtain ⟨others, inner⟩ := ihInner (inOrder.enter fresh)
    -- on the way back the path ends before `name` again
    exact ihRest { inner with path := (List.sublist_append_left ..).trans inner.path }
  | skip _ _ _ ih => exact ih inOrder

/-! ## The links with which cycles close -/

/-- A search forgets no name that it has entered. -/
theorem Explores.unvisited_subset {path todo : List String} {search after : Search}
    (run : Explores precedence path todo search after) :
    ∀ name ∈ after.unvisited, name ∈ search.unvisited := by
  induction run with
  | done => exact fun _ member => member
  | close _ _ ih => exact ih
  | enter _ _ _ _ ihInner ihRest =>
    exact fun name member => (NameSet.mem_erase.1 (ihInner name (ihRest name member))).1
  | skip _ _ _ ih => exact ih

/-- A cycle closes with a link from the last name of the path to one of those to look at, or with a
link from a name that is entered between two states of a search. -/
def ClosesAmong (path todo : List String) (before after : NameSet) (cycle : Cycle) : Prop :=
  ∃ lower higher, cycle.closing? = some (lower, higher) ∧
    (lower ∈ path.getLast? ∧ higher ∈ todo ∨ lower ∈ before ∧ lower ∉ after)

/-- What is looked at later is looked at, and what is entered later is entered. -/
theorem ClosesAmong.later {path rest : List String} {name : String}
    {before between after : NameSet} {cycle : Cycle}
    (closes : ClosesAmong path rest between after cycle)
    (fewer : ∀ other ∈ between, other ∈ before) :
    ClosesAmong path (name :: rest) before after cycle := by
  obtain ⟨lower, higher, closing, ⟨isLast, member⟩ | ⟨entered, left⟩⟩ := closes
  · exact ⟨lower, higher, closing, .inl ⟨isLast, List.mem_cons_of_mem _ member⟩⟩
  · exact ⟨lower, higher, closing, .inr ⟨fewer lower entered, left⟩⟩

/-- The cycles found beyond a name that is entered close with links from names entered then. -/
theorem ClosesAmong.beyond {path todo : List String} {name : String} {before after : NameSet}
    {cycle : Cycle} (closes : ClosesAmong (path ++ [name]) todo (before.erase name) after cycle)
    (fresh : name ∈ before) (gone : name ∉ after) :
    ∃ lower higher, cycle.closing? = some (lower, higher) ∧ lower ∈ before ∧ lower ∉ after := by
  obtain ⟨lower, higher, closing, ⟨isLast, _⟩ | ⟨entered, left⟩⟩ := closes
  · rw [List.getLast?_concat, Option.mem_some_iff] at isLast
    subst isLast
    exact ⟨name, higher, closing, fresh, gone⟩
  · exact ⟨lower, higher, closing, (NameSet.mem_erase.1 entered).1, left⟩

/-- The cycles that a search adds close with different links, none of which it has looked at
before. -/
theorem Explores.exists_found {path todo : List String} {search after : Search}
    (run : Explores precedence path todo search after) (distinct : todo.Nodup)
    (entered : ∀ name ∈ path, name ∉ search.unvisited) :
    ∃ found, after.cycles = search.cycles ++ found ∧
      (found.map Cycle.closing?).Nodup ∧
      ∀ cycle ∈ found, ClosesAmong path todo search.unvisited after.unvisited cycle := by
  induction run with
  | done => exact ⟨[], by simp, by simp, by simp⟩
  | @close path rest name search after onPath _ ih =>
    obtain ⟨notLater, distinct⟩ := List.nodup_cons.1 distinct
    obtain ⟨found, added, apart, among⟩ := ih distinct entered
    obtain ⟨last, isLast⟩ := Option.isSome_iff_exists.1
      (List.getLast?_isSome.2 (List.ne_nil_of_mem onPath))
    have closing := closing?_closedAt onPath isLast
    refine ⟨closedAt path name :: found, by simp [added], ?_, ?_⟩
    · rw [List.map_cons, List.nodup_cons, closing]
      refine ⟨fun again => ?_, apart⟩
      obtain ⟨cycle, isFound, same⟩ := List.mem_map.1 again
      obtain ⟨lower, higher, closing', ⟨_, member⟩ | ⟨fresh, _⟩⟩ := among cycle isFound
      · cases same.symm.trans closing'
        exact notLater member
      · cases same.symm.trans closing'
        exact entered last (List.mem_of_getLast? isLast) fresh
    · have here : ClosesAmong path (name :: rest) search.unvisited after.unvisited
          (closedAt path name) :=
        ⟨last, name, closing, .inl ⟨isLast, List.mem_cons_self ..⟩⟩
      exact List.forall_mem_cons.2
        ⟨here, fun cycle isFound => (among cycle isFound).later fun _ member => member⟩
  | @enter path rest name search inner after _ fresh inside onward ihInner ihRest =>
    obtain ⟨_, distinct⟩ := List.nodup_cons.1 distinct
    obtain ⟨first, addedFirst, apartFirst, amongFirst⟩ :=
      ihInner (SortedNames.nodup (precedence.preceding name).sorted) (gone_concat entered name)
    have fewer (other : String) (still : other ∈ inner.unvisited) :
        other ∈ search.unvisited ∧ other ≠ name :=
      NameSet.mem_erase.1 (inside.unvisited_subset other still)
    obtain ⟨second, addedSecond, apartSecond, amongSecond⟩ := ihRest distinct
      fun other onPath still => entered other onPath (fewer other still).1
    have beyond (cycle : Cycle) (isFound : cycle ∈ first) :=
      (amongFirst cycle isFound).beyond fresh fun still => (fewer name still).2 rfl
    refine ⟨first ++ second, by rw [addedSecond, addedFirst, List.append_assoc], ?_, ?_⟩
    · rw [List.map_append, List.nodup_append']
      refine ⟨apartFirst, apartSecond, fun link isFirst isSecond => ?_⟩
      obtain ⟨cycle, isFound, rfl⟩ := List.mem_map.1 isFirst
      obtain ⟨other, isOther, same⟩ := List.mem_map.1 isSecond
      obtain ⟨lower, higher, closing, before, left⟩ := beyond cycle isFound
      rw [closing] at same
      -- a link from a name entered beyond `name` is neither from the path nor from a later name
      obtain ⟨lower', higher', closing', ⟨isLast, _⟩ | ⟨still, _⟩⟩ := amongSecond other isOther
      · cases same.symm.trans closing'
        exact entered lower (List.mem_of_getLast? isLast) before
      · cases same.symm.trans closing'
        exact left still
    · intro cycle isFound
      rcases List.mem_append.1 isFound with isFirst | isSecond
      · obtain ⟨lower, higher, closing, before, left⟩ := beyond cycle isFirst
        exact ⟨lower, higher, closing, .inr ⟨before, fun still =>
          left (onward.unvisited_subset lower still)⟩⟩
      · exact (amongSecond cycle isSecond).later fun other still => (fewer other still).1
  | skip _ _ _ ih =>
    obtain ⟨found, added, apart, among⟩ := ih (List.nodup_cons.1 distinct).2 entered
    exact ⟨found, added, apart,
      fun cycle isFound => (among cycle isFound).later fun _ member => member⟩

/-! ## All cycles -/

/-- All cycles listed are written in one order. -/
theorem exists_inOrder (precedence : Precedence) :
    ∃ entered : List String, entered.Nodup ∧
      ∀ cycle ∈ precedence.cycles, cycle.members.Sublist entered := by
  obtain ⟨entered, inOrder⟩ :=
    (explores precedence [] precedence.names.toList ⟨precedence.names, []⟩).inOrder
      ⟨List.nodup_nil, by simp, .refl _, by simp⟩
  exact ⟨entered, inOrder.nodup, inOrder.cycles⟩

/-- No two cycles listed close with the same link. -/
theorem nodup_closing? (precedence : Precedence) :
    (precedence.cycles.map Cycle.closing?).Nodup := by
  obtain ⟨found, added, apart, _⟩ :=
    (explores precedence [] precedence.names.toList ⟨precedence.names, []⟩).exists_found
      (SortedNames.nodup precedence.names.sorted) (by simp)
  rw [cycles, added]
  exact apart

/-- **Soundness.** Every cycle listed has a name, no name twice, and goes along preferences from each
name to the next and from the last to the first. No two cycles listed are the same up to the name
that they start with. -/
theorem cycles_sound (precedence : Precedence) :
    (∀ cycle ∈ precedence.cycles,
      cycle.members ≠ [] ∧ cycle.members.Nodup ∧ cycle.Within precedence) ∧
    precedence.cycles.Pairwise fun first second => ¬ first.members ~r second.members := by
  obtain ⟨entered, nodup, written⟩ := exists_inOrder precedence
  constructor
  · intro cycle listed
    have within := within_of_mem_cycles listed
    exact ⟨within.1, nodup.sublist (written cycle listed), within⟩
  · refine (List.pairwise_map.1 precedence.nodup_closing?).imp_of_mem ?_
    intro first second isFirst isSecond apart rotated
    have same : first.members = second.members :=
      eq_of_sublist nodup (written first isFirst) (written second isSecond)
        fun _ => rotated.mem_iff
    exact apart (by rw [Cycle.closing?, Cycle.closing?, same])

/-- Two cycles one of which takes a longer way. -/
def detour : Precedence :=
  (((none.declare "B" "A").declare "A" "B").declare "C" "B").declare "A" "C"

theorem cycles_sound_detour :
    detour.cycles = [⟨["A", "B"]⟩, ⟨["A", "B", "C"]⟩] ∧
    Cycle.Within ⟨["A", "B", "C"]⟩ detour ∧ ["A", "B", "C"].Nodup ∧
    ¬ ["A", "B"] ~r ["A", "B", "C"] := by
  have listed : detour.cycles = [⟨["A", "B"]⟩, ⟨["A", "B", "C"]⟩] := by cbv
  obtain ⟨sound, apart⟩ := cycles_sound detour
  rw [listed] at sound apart
  obtain ⟨_, nodup, within⟩ := sound ⟨["A", "B", "C"]⟩ (by simp)
  exact ⟨listed, within, nodup, (List.pairwise_cons.1 apart).1 _ (List.mem_singleton_self _)⟩

end Precedence

end AdapterWiring
