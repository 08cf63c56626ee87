import AdapterWiring.Adapter.JsonForm
import AdapterWiring.Proofs.Adapter.Explicit
import Mathlib.Data.List.Forall2

/-!
# Where adapters are filed

A library looks adapters up by the names they are filed under, and resolution
speaks of adapters by their own names. The operations keep the two the same. A
document gives both and is not asked to agree with itself, so a library that is
read files an adapter where the document does.

* **get?_of_nameMap?** — what a JSON object says under a name: its last member
  of that name.
* **NamesKeys** — a document that files each adapter under the adapter's name;
  `wellFiled_iff_namesKeys` says that reading keeps to the document.
* **Obtained** — the libraries that a program comes by: made by the operations,
  or read from documents and changed by them.
* **filed_under_own_name** — libraries obtained from such documents have one
  name for each adapter.
* **read_under_another_name** — a document for which that fails.
-/

namespace AdapterWiring

/-! ## Maps in JSON -/

namespace Json

/-- Items are read one by one. -/
theorem mapM_eq_some_iff {α β : Type} {read? : α → Option β} {items : List α} {results : List β} :
    items.mapM read? = some results ↔
      List.Forall₂ (fun item result => read? item = some result) items results := by
  induction items generalizing results with
  | nil => cases results <;> simp
  | cons head rest ih =>
    rw [List.mapM_cons]
    cases first : read? head with
    | none => cases results <;> simp [first]
    | some result =>
      cases later : rest.mapM read? with
      | none => cases results <;> simp [← ih, later]
      | some others => cases results <;> simp [← ih, later, first]

variable {α : Type} {item? : Json → Option α}

/-- The value of an object under a name: of several members the last counts. -/
def under? (members : List (Str × Json)) (name : String) : Option Json :=
  members.reverse.findSome? fun (key, item) => if key.text? = some name then some item else none

/-- A map that is read has under a name what the object has there. -/
theorem get?_of_nameMap? {members : List (Str × Json)} {map : NameMap α}
    (read : nameMap? item? (.object members) = some map) (name : String) :
    map.get? name = (under? members name).bind item? := by
  rw [nameMap?, Option.bind_eq_bind, Option.bind_eq_some_iff] at read
  obtain ⟨entries, readEntries, same⟩ := read
  obtain rfl := Option.some.inj same
  rw [NameMap.get?_ofList, under?]
  have backward := List.rel_reverse (mapM_eq_some_iff.1 readEntries)
  -- from the end of the object on, the first member of the name decides
  generalize entries.reverse = results at backward
  generalize members.reverse = items at backward ⊢
  induction backward with
  | nil => rfl
  | @cons member entry items results readMember _ ih =>
    obtain ⟨key, item⟩ := member
    simp only [Option.bind_eq_bind, Option.bind_eq_some_iff] at readMember
    obtain ⟨text, isText, value, isValue, pair⟩ := readMember
    obtain rfl := Option.some.inj pair
    rw [SortedEntries.find?, List.findSome?_cons, ih]
    by_cases here : text = name
    · simp [here, isText, isValue]
    · simp [here, isText]

end Json

namespace Library

/-! ## Documents -/

/-- The object of a document that holds its adapters. -/
def adapterMembers? (document : Json) : Option (List (Json.Str × Json)) := do
  let record ← document.record? ["adapters", "precedence"]
  match record.members.lookup "adapters" with
  | some (.object members) => some members
  | _ => none

/-- A document that has under each name the adapter of that name. -/
def NamesKeys (document : Json) : Prop :=
  ∀ members, adapterMembers? document = some members → ∀ name item,
    Json.under? members name = some item → ∀ adapter, Descriptor.ofJson? item = some adapter →
      adapter.name = name

variable {library : Library} {document : Json}

/-- A library that is read files what its document has under each name. -/
theorem get?_of_ofJson? (read : ofJson? document = some library) :
    ∃ members, adapterMembers? document = some members ∧ ∀ name adapter,
      library.get? name = some adapter ↔
        ∃ item, Json.under? members name = some item ∧ Descriptor.ofJson? item = some adapter := by
  simp only [ofJson?, Option.bind_eq_bind, Option.bind_eq_some_iff] at read
  obtain ⟨record, isRecord, adapters, readAdapters, precedence, _, same⟩ := read
  obtain rfl := Option.some.inj same
  rw [Json.Record.required, Option.bind_eq_bind, Option.bind_eq_some_iff] at readAdapters
  obtain ⟨value, isMember, readMap⟩ := readAdapters
  cases value with
  | object members =>
    refine ⟨members, by simp [adapterMembers?, isRecord, isMember], fun name adapter => ?_⟩
    show adapters.get? name = some adapter ↔ _
    rw [Json.get?_of_nameMap? readMap, Option.bind_eq_some_iff]
  | null => cases readMap
  | bool _ => cases readMap
  | number _ => cases readMap
  | string _ => cases readMap
  | array _ => cases readMap

/-- Reading files each adapter under its own name exactly if the document does. -/
theorem wellFiled_iff_namesKeys (read : ofJson? document = some library) :
    library.WellFiled ↔ NamesKeys document := by
  obtain ⟨members, isMembers, filed⟩ := get?_of_ofJson? read
  constructor
  · intro wellFiled members' isMembers' name item isItem adapter isAdapter
    obtain rfl := Option.some.inj (isMembers.symm.trans isMembers')
    exact wellFiled name adapter ((filed name adapter).2 ⟨item, isItem, isAdapter⟩)
  · intro namesKeys name adapter found
    obtain ⟨item, isItem, isAdapter⟩ := (filed name adapter).1 found
    exact namesKeys members isMembers name item isItem adapter isAdapter

/-! ## Libraries -/

/-- The libraries that a program comes by, where it reads only documents that are accepted. -/
inductive Obtained (accepted : Json → Prop) : Library → Prop
  | empty : Obtained accepted empty
  | read {document : Json} {library : Library} : accepted document →
    ofJson? document = some library → Obtained accepted library
  | insert {library : Library} (adapter : Descriptor) :
    Obtained accepted library → Obtained accepted (library.insert adapter)
  | withPrecedence {library : Library} (precedence : Precedence) :
    Obtained accepted library → Obtained accepted (library.withPrecedence precedence)

theorem Obtained.wellFiled (obtained : library.Obtained NamesKeys) : library.WellFiled := by
  induction obtained with
  | empty => exact Built.empty.wellFiled
  | read accepted read => exact (wellFiled_iff_namesKeys read).2 accepted
  | insert adapter _ ih => exact ih.insert adapter
  | withPrecedence _ _ ih => exact ih

namespace WellFiled

theorem contains_iff (filed : library.WellFiled) {name : String} :
    library.contains name = true ↔ ∃ adapter ∈ library.descriptors, adapter.name = name := by
  constructor
  · intro contained
    obtain ⟨adapter, found⟩ := Option.isSome_iff_exists.1 contained
    exact ⟨adapter, NameMap.mem_values.2 ⟨name, found⟩, filed name adapter found⟩
  · rintro ⟨adapter, member, rfl⟩
    exact filed.contains member

/-- A verdict names adapters of the library, whatever levels it is reached by. -/
theorem contains_of_named (filed : library.WellFiled) {levels : Levels} {wanted name : String}
    (isNamed : name ∈ (library.verdict levels wanted).named) : library.contains name = true := by
  have decides : Decides library.precedence levels wanted
      {adapter | adapter ∈ library.eligible levels wanted} (library.verdict levels wanted) :=
    decides_verdict filed fun _ => .rfl
  obtain ⟨adapter, eligible, rfl⟩ := decides.mem_of_named isNamed
  exact filed.contains (mem_eligible.1 eligible).1

end WellFiled

/-- **Filing.** Let a library be made by its operations, starting from documents that have under each
name the adapter of that name. Then it contains exactly the names of its adapters, has each adapter
under the adapter's name, and lists adapters of different names in the order of the names that they
are filed under; so verdicts, whatever is remembered of the type hierarchy, name adapters that it
contains. Reading any other document files some adapter under another name. -/
theorem filed_under_own_name (library : Library) :
    (library.Obtained NamesKeys →
      (∀ name, library.contains name = true ↔
        ∃ adapter ∈ library.descriptors, adapter.name = name) ∧
      (∀ adapter ∈ library.descriptors, library.get? adapter.name = some adapter) ∧
      library.descriptors.map (·.name) = library.names.toList ∧
      (library.descriptors.map (·.name)).Nodup ∧
      ∀ (oracle : Oracle) (session : Session) (source wanted : String) (verdict : Verdict),
        ((library.resolve (Session.ancestry oracle) source wanted).run session).1 = .ok verdict →
          ∀ name ∈ verdict.named, library.contains name = true) ∧
    ∀ document, ofJson? document = some library → ¬ NamesKeys document →
      ∃ name adapter, library.get? name = some adapter ∧ adapter.name ≠ name := by
  constructor
  · intro obtained
    have filed := obtained.wellFiled
    refine ⟨fun name => filed.contains_iff, fun adapter => filed.get?_name,
      filed.map_name_descriptors, SortedNames.nodup filed.pairwise_names, ?_⟩
    intro oracle session source wanted verdict resolved name isNamed
    -- a session may remember anything; the verdict is one on the levels that it gives
    have byLevels : ((((Session.levels oracle source).run session).1.map
        (.singleton source :: ·)).map (library.verdict · wanted)) = .ok verdict := resolved
    cases levels : ((Session.levels oracle source).run session).1 with
    | error failure => simp [levels, Except.map] at byLevels
    | ok found =>
      simp only [levels, Except.map, Except.ok.injEq] at byLevels
      exact filed.contains_of_named (byLevels ▸ isNamed)
  · intro document read mismatched
    have misfiled : ¬ library.WellFiled := fun filed =>
      mismatched ((wellFiled_iff_namesKeys read).1 filed)
    unfold WellFiled at misfiled
    push Not at misfiled
    exact misfiled

/-- A document that has an adapter under the name of another. -/
def mislabelled : Json :=
  .record [("adapters", .record [
    ("X", Descriptor.toJson ⟨"Y", .singleton "B", [.singleton "A"]⟩)])]

/-- The library that is read from it. -/
def mislabelledLibrary : Library :=
  ⟨.ofList [("X", ⟨"Y", .singleton "B", [.singleton "A"]⟩)], .none⟩

theorem filed_under_own_name_mislabelled :
    let read := roundTrip.insert ⟨"W", ∅, []⟩
    let verdict := ((read.resolve (Session.ancestry (.ofTable mutualTypes)) "B" "A").run
      Session.start).1
    (read.Obtained NamesKeys ∧ read.contains "W" = true ∧
      read.descriptors.map (·.name) = read.names.toList ∧
      verdict = .ok (.ambiguous (.ofList ["X", "Y"])) ∧
      ∀ name ∈ NameSet.ofList ["X", "Y"], read.contains name = true) ∧
    ofJson? mislabelled = some mislabelledLibrary ∧ ¬ NamesKeys mislabelled ∧
    ∃ name adapter, mislabelledLibrary.get? name = some adapter ∧ adapter.name ≠ name := by
  have document : ofJson? roundTrip.toJson = some roundTrip := by decide +kernel
  have namesKeys : NamesKeys roundTrip.toJson :=
    (wellFiled_iff_namesKeys document).1 (Built.ofList _).wellFiled
  have obtained : (roundTrip.insert ⟨"W", ∅, []⟩).Obtained NamesKeys :=
    (Obtained.read namesKeys document).insert _
  have ambiguous : (((roundTrip.insert ⟨"W", ∅, []⟩).resolve
      (Session.ancestry (.ofTable mutualTypes)) "B" "A").run Session.start).1 =
        .ok (.ambiguous (.ofList ["X", "Y"])) := by cbv
  have mislabelledDocument : ofJson? mislabelled = some mislabelledLibrary := by decide +kernel
  have mismatched : ¬ NamesKeys mislabelled := fun keys =>
    absurd ((wellFiled_iff_namesKeys mislabelledDocument).2 keys "X" _ rfl) (by decide)
  have filed := (filed_under_own_name _).1 obtained
  refine ⟨⟨obtained, (filed.1 "W").2 ⟨⟨"W", ∅, []⟩, ?_, rfl⟩, filed.2.2.1, ambiguous,
      filed.2.2.2.2 _ _ _ _ _ ambiguous⟩,
    mislabelledDocument, mismatched,
    (filed_under_own_name _).2 _ mislabelledDocument mismatched⟩
  exact NameMap.mem_values.2 ⟨"W", (NameMap.get?_insert ..).trans (if_pos rfl)⟩

/-- A library that is read need not contain the adapters that it resolves to. -/
theorem read_under_another_name :
    let types := Session.ancestry (.ofTable mutualTypes)
    ofJson? mislabelled = some mislabelledLibrary ∧
    mislabelledLibrary.contains "X" = true ∧
    (∀ adapter ∈ mislabelledLibrary.descriptors, adapter.name ≠ "X") ∧
    mislabelledLibrary.descriptors.map (·.name) ≠ mislabelledLibrary.names.toList ∧
    ((mislabelledLibrary.resolve types "B" "A").run Session.start).1 = .ok (.resolved "Y") ∧
    mislabelledLibrary.contains "Y" = false ∧
    ((mislabelledLibrary.checkExplicit types "Y" "B" "A").run Session.start).1 =
      .error (.unknownAdapter "Y") := by
  refine ⟨?_, ?_, ?_, ?_, ?_, ?_, ?_⟩
  · decide +kernel
  · decide +kernel
  · decide +kernel
  · decide +kernel
  · cbv
  · decide +kernel
  · cbv

end Library

end AdapterWiring
