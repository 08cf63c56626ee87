import AdapterWiring.Files.Store
import AdapterWiring.Proofs.Files.Normalization

/-!
# What a store answers

A store is a map on normal forms: what counts for a path is the last text put
under a path with its normal form. The entries of a map come in no particular
order; a store can depend on the order, but only where two of them clash.

* **LastFor** — the last text for a path among some entries.
* **read_ofList_ok_iff, read_ofList_error_iff** — what is read, for all entries.
* **Consistent** — no two entries clash.
* **consistent_iff** — the order shows in the answers exactly where some do.
* **store_normalized** — all of this.
-/

namespace AdapterWiring.Store

open AdapterWiring.Path

/-! ## Entries -/

/-- The last text for a path: no later entry has a path with its normal form. -/
def LastFor (entries : List (String × String)) (path text : String) : Prop :=
  ∃ before given after, entries = before ++ (given, text) :: after ∧
    normalize given = normalize path ∧ ∀ later ∈ after, normalize later.1 ≠ normalize path

/-- Of texts put into a store one by one the last one is on top. -/
theorem entries_foldl_insert (texts : List (String × String)) (store : Store) :
    (texts.foldl (fun store (path, text) => store.insert path text) store).entries =
      (ofMap texts).entries ++ store.entries := by
  induction texts generalizing store with
  | nil => rfl
  | cons entry texts ih =>
    rw [List.foldl_cons, ih]
    simp [insert, ofMap]

/-- The entries of a map end up as if they were put into the store one by one. -/
theorem ofMap_eq_ofList (entries : List (String × String)) : ofMap entries = ofList entries := by
  have same : (ofList entries).entries = (ofMap entries).entries := by
    rw [ofList, entries_foldl_insert, empty, List.append_nil]
  cases stored : ofList entries
  rw [stored] at same
  exact congrArg Store.mk same.symm

/-- Texts put into the store of a map come after its entries. -/
theorem foldl_insert_ofMap (entries texts : List (String × String)) :
    texts.foldl (fun store (path, text) => store.insert path text) (ofMap entries) =
      ofList (entries ++ texts) := by
  rw [ofMap_eq_ofList, ofList, ofList, List.foldl_append]

/-! ## Answers -/

section Answers

variable {entries : List (String × String)} {store : Store} {path text : String}

theorem read_ok_iff :
    store.read path = .ok text ↔ store.entries.lookup (normalize path) = some text := by
  unfold read
  split
  next found => rw [found, Except.ok.injEq, Option.some.injEq]
  next missing => simp [missing]

theorem read_error_iff {failure : ReadError} : store.read path = .error failure ↔
    store.entries.lookup (normalize path) = none ∧ failure = .notStored (normalize path) := by
  unfold read
  split
  next found => simp [found]
  next missing => simp [missing, eq_comm]

/-- Stores that give the same texts give the same answers. -/
theorem read_eq_of_ok_iff {other : Store}
    (same : ∀ text, store.read path = .ok text ↔ other.read path = .ok text) :
    store.read path = other.read path := by
  cases answer : store.read path with
  | ok text => exact ((same text).1 answer).symm
  | error failure =>
    cases otherwise : other.read path with
    | ok text => rw [(same text).2 otherwise] at answer; cases answer
    | error _ => rw [(read_error_iff.1 answer).2, (read_error_iff.1 otherwise).2]

/-- The text that is read is the last one for the path. -/
theorem read_ofList_ok_iff : (ofList entries).read path = .ok text ↔ LastFor entries path text := by
  rw [← ofMap_eq_ofList, read_ok_iff, List.lookup_eq_some_iff]
  constructor
  · rintro ⟨later, earlier, split, others⟩
    -- the last entry comes first in the store
    have inOrder := congrArg List.reverse split
    rw [ofMap, List.reverse_reverse, List.reverse_append, List.reverse_cons, List.append_assoc,
      List.singleton_append] at inOrder
    obtain ⟨before, rest, rfl, _, mapped⟩ := List.map_eq_append_iff.1 inOrder
    obtain ⟨⟨given, _⟩, after, rfl, same, stored⟩ := List.map_eq_cons_iff.1 mapped
    obtain ⟨sameForm, rfl⟩ := Prod.mk.inj same
    refine ⟨before, given, after, rfl, sameForm, fun entry member sameEntry => ?_⟩
    have isLater : (normalize entry.1, entry.2) ∈ later := by
      rw [← List.mem_reverse, ← stored]
      exact List.mem_map_of_mem member
    exact bne_iff_ne.1 (others _ isLater) sameEntry.symm
  · rintro ⟨before, given, after, rfl, sameForm, others⟩
    refine ⟨(ofMap after).entries, (ofMap before).entries, by simp [ofMap, sameForm],
      fun stored member => ?_⟩
    obtain ⟨entry, isLater, rfl⟩ := List.mem_map.1 (List.mem_reverse.1 member)
    exact bne_iff_ne.2 (others entry isLater).symm

/-- A path fails where no entry has a path with its normal form, and the failure names that. -/
theorem read_ofList_error_iff {failure : ReadError} : (ofList entries).read path = .error failure ↔
    (∀ entry ∈ entries, normalize entry.1 ≠ normalize path) ∧
      failure = .notStored (normalize path) := by
  rw [← ofMap_eq_ofList, read_error_iff, List.lookup_eq_none_iff]
  refine and_congr_left' ⟨fun others entry member => ?_, fun others stored member => ?_⟩
  · have isStored : (normalize entry.1, entry.2) ∈ (ofMap entries).entries :=
      List.mem_reverse.2 (List.mem_map_of_mem member)
    exact (bne_iff_ne.1 (others _ isStored)).symm
  · obtain ⟨entry, isEntry, rfl⟩ := List.mem_map.1 (List.mem_reverse.1 member)
    exact bne_iff_ne.2 (others entry isEntry).symm

end Answers

/-! ## The order of the entries -/

/-- No two entries clash: those with one normal form hold one text. -/
def Consistent (entries : List (String × String)) : Prop :=
  ∀ first ∈ entries, ∀ second ∈ entries,
    normalize first.1 = normalize second.1 → first.2 = second.2

instance (entries : List (String × String)) : Decidable (Consistent entries) :=
  inferInstanceAs <| Decidable <| ∀ first ∈ entries, ∀ second ∈ entries,
    normalize first.1 = normalize second.1 → first.2 = second.2

/-- Where no two entries clash, each one counts, wherever it stands. -/
theorem Consistent.lastFor_iff {entries : List (String × String)} (consistent : Consistent entries)
    {path text : String} : LastFor entries path text ↔
      ∃ given, (given, text) ∈ entries ∧ normalize given = normalize path := by
  constructor
  · rintro ⟨before, given, after, rfl, sameForm, _⟩
    exact ⟨given, by simp, sameForm⟩
  · rintro ⟨given, member, sameForm⟩
    -- something is read for the path, and it does not clash with this entry
    cases answer : (ofList entries).read path with
    | ok last =>
      have isLast := read_ofList_ok_iff.1 answer
      obtain ⟨before, other, after, rfl, sameOther, _⟩ := isLast
      have sameText : text = last :=
        consistent (given, text) member (other, last) (by simp) (sameForm.trans sameOther.symm)
      rw [sameText]
      exact read_ofList_ok_iff.1 answer
    | error failure =>
      exact absurd sameForm ((read_ofList_error_iff.1 answer).1 (given, text) member)

theorem Consistent.perm {first second : List (String × String)} (consistent : Consistent first)
    (perm : first.Perm second) : Consistent second :=
  fun one isOne other isOther =>
    consistent one (perm.mem_iff.2 isOne) other (perm.mem_iff.2 isOther)

/-- Entries that do not clash can be put into a store in any order. -/
theorem Consistent.read_eq {first second : List (String × String)} (consistent : Consistent first)
    (perm : first.Perm second) (path : String) :
    (ofList first).read path = (ofList second).read path := by
  refine read_eq_of_ok_iff fun text => ?_
  rw [read_ofList_ok_iff, read_ofList_ok_iff, consistent.lastFor_iff,
    (consistent.perm perm).lastFor_iff]
  simp only [perm.mem_iff]

/-- Each entry can come last. -/
theorem exists_perm_read {entries : List (String × String)} {entry : String × String}
    (member : entry ∈ entries) :
    ∃ order, order.Perm entries ∧ (ofList order).read entry.1 = .ok entry.2 := by
  have last : LastFor (entries.erase entry ++ [entry]) entry.1 entry.2 :=
    ⟨entries.erase entry, entry.1, [], rfl, rfl, by simp⟩
  exact ⟨entries.erase entry ++ [entry],
    List.perm_append_comm.trans (List.perm_cons_erase member).symm, read_ofList_ok_iff.2 last⟩

/-- The answers do not depend on the order exactly if no two entries clash. -/
theorem consistent_iff {entries : List (String × String)} : Consistent entries ↔
    ∀ first second : List (String × String), first.Perm entries → second.Perm entries →
      ∀ path, (ofMap first).read path = (ofMap second).read path := by
  simp only [ofMap_eq_ofList]
  constructor
  · intro consistent first second permFirst permSecond path
    exact (consistent.perm permFirst.symm).read_eq (permFirst.trans permSecond.symm) path
  · intro sameAnswers one isOne other isOther sameForm
    obtain ⟨first, permFirst, readsOne⟩ := exists_perm_read isOne
    obtain ⟨second, permSecond, readsOther⟩ := exists_perm_read isOther
    have readsBoth : (ofList second).read one.1 = .ok other.2 := by
      unfold read at readsOther ⊢
      rw [sameForm]
      exact readsOther
    have same := sameAnswers first second permFirst permSecond one.1
    rw [readsOne, readsBoth] at same
    exact Except.ok.inj same

/-! ## All of it -/

/-- **A store is a map on normal forms.** A path can be put in normal form before a relative one is
put below it, so normal forms are their own normal forms. Whatever texts are put into a store, a
path gives the last one whose path has its normal form; and where there is none, the failure names
the normal form. Those put into the store of a map come after its entries. The store of a map gives
the same answers for all orders of its entries exactly if those with one normal form hold one text;
and then the entries can as well be put into a store one by one, in any order. -/
theorem store_normalized :
    (∀ path below : String, isAbsolute below = false →
      normalize (join path below) = normalize (join (render (normalize path)) below)) ∧
    (∀ path : String, normalize (render (normalize path)) = normalize path) ∧
    (∀ (texts : List (String × String)) (path text : String),
      (ofList texts).read path = .ok text ↔ LastFor texts path text) ∧
    (∀ (texts : List (String × String)) (path : String) (failure : ReadError),
      (ofList texts).read path = .error failure ↔
        (∀ entry ∈ texts, normalize entry.1 ≠ normalize path) ∧
          failure = .notStored (normalize path)) ∧
    (∀ entries texts : List (String × String),
      texts.foldl (fun store (path, text) => store.insert path text) (ofMap entries) =
        ofList (entries ++ texts)) ∧
    ∀ entries : List (String × String),
      ((∀ first second : List (String × String), first.Perm entries → second.Perm entries →
          ∀ path, (ofMap first).read path = (ofMap second).read path) ↔ Consistent entries) ∧
      (Consistent entries → ∀ order other : List (String × String), order.Perm entries →
        other.Perm entries → ∀ path, (ofMap order).read path = (ofList other).read path) := by
  refine ⟨fun path below relative => (normalize_join_normalize relative).symm,
    fun path => normalize_render (isNormal_normalize path), fun _ _ _ => read_ofList_ok_iff,
    fun _ _ _ => read_ofList_error_iff, foldl_insert_ofMap,
    fun entries => ⟨consistent_iff.symm, ?_⟩⟩
  intro consistent order other permOrder permOther path
  rw [ofMap_eq_ofList]
  exact (consistent.perm permOrder.symm).read_eq (permOrder.trans permOther.symm) path

/-- Two spellings of one path clash, so the order of the entries shows; above the root there is
nothing, so a path that goes there is a relative one. -/
theorem store_normalized_spellings :
    let clashing := [("a/b", "first"), ("a/x/../b", "second")]
    let agreeing := [("/../c", "third"), ("a/b", "first"), ("./c", "third")]
    normalize (join "/.." "b/./c") = normalize (join (render (normalize "/..")) "b/./c") ∧
    (ofList clashing).read "./a//b/" = .ok "second" ∧
    (ofList clashing).read "/a/b" = .error (.notStored [.root, .name "a", .name "b"]) ∧
    (¬ ∀ first second : List (String × String), first.Perm clashing → second.Perm clashing →
      ∀ path, (ofMap first).read path = (ofMap second).read path) ∧
    ∀ path, (ofMap agreeing).read path = (ofList agreeing.reverse).read path := by
  intro clashing agreeing
  obtain ⟨composes, _, gives, fails, _, maps⟩ := store_normalized
  have clash : ¬ Consistent [("a/b", "first"), ("a/x/../b", "second")] := by decide +kernel
  have agree : Consistent [("/../c", "third"), ("a/b", "first"), ("./c", "third")] := by
    decide +kernel
  refine ⟨composes _ _ (by decide), (gives _ _ _).2 ?_, (fails _ _ _).2 ?_,
    fun same => clash ((maps _).1.1 same),
    (maps agreeing).2 agree _ _ (.refl _) (List.reverse_perm _)⟩
  · exact ⟨[("a/b", "first")], "a/x/../b", [], rfl, by decide +kernel, by simp⟩
  · exact ⟨by decide +kernel, by decide +kernel⟩

end AdapterWiring.Store
