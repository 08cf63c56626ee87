import AdapterWiring.Proofs.Adapter.Filing
import AdapterWiring.Proofs.Adapter.Preferences
import Mathlib.Data.List.Perm.Basic

/-!
# Respelled JSON

JSON leaves open in which order the members of an object stand, and a record may
have members that it is not asked for. What is read from JSON must depend on
neither.

* **Respelling** — ways to spell a value of a form differently: **record**,
  **tagged**, **map** and **items** put them together from those of the parts.
* **ReadsBack** — values are read from their JSON form, however it is spelled.
* **exists_record, Record.Has** — the record that is read from a respelled one.
* **exists_tagged** — the same of a record with its kind in a member;
  **exists_tagged_read** and **exists_tagged_part** — with what the rest spells.
* **readsBack_text, …, readsBack_map** — the simple forms.
-/

namespace AdapterWiring

/-- A map is that of its entries in any order. -/
theorem NameMap.ofList_of_perm {α : Type} {map : NameMap α} {entries : List (String × α)}
    (perm : entries.Perm map.entries) : NameMap.ofList entries = map := by
  have reversed : entries.reverse.Perm map.entries := (List.reverse_perm entries).trans perm
  refine NameMap.ext_get? fun name => ?_
  rw [NameMap.get?_ofList]
  -- names are not repeated, so it does not matter that the last entry counts
  cases found : SortedEntries.find? name entries.reverse with
  | some value =>
    have member := reversed.mem_iff.1 (SortedEntries.mem_of_find?_eq_some found)
    exact (NameMap.mem_entries_iff.1 member).symm
  | none =>
    refine (Option.eq_none_iff_forall_ne_some.2 fun value isValue => ?_).symm
    have member := reversed.mem_iff.2 (NameMap.mem_entries_iff.2 isValue)
    have isSome := SortedEntries.find?_isSome.2 (List.mem_map.2 ⟨_, member, rfl⟩)
    simp [found] at isSome

namespace Json

/-! ## Spellings -/

/-- Ways to spell a value of some form differently. -/
structure Respelling where
  /-- Whether the second value spells the first. -/
  Respells : Json → Json → Prop
  /-- A value may be left as it is. -/
  refl : ∀ value, Respells value value

/-- Members are spelled differently each, and stand in the same order. -/
abbrev EachRespelled (partOf : String → Respelling) :
    List (String × Json) → List (String × Json) → Prop :=
  List.Forall₂ fun member other =>
    other.1 = member.1 ∧ (partOf member.1).Respells member.2 other.2

/-- The members of an object are spelled differently each, then put in any order, with others that
may be added. -/
inductive MembersRespelled (partOf : String → Respelling) (MayAdd : String → Prop) :
    Json → Json → Prop
  | same (value : Json) : MembersRespelled partOf MayAdd value value
  | object {members respelled added others : List (String × Json)} :
    EachRespelled partOf members respelled → (∀ extra ∈ added, MayAdd extra.1) →
      others.Perm (respelled ++ added) →
        MembersRespelled partOf MayAdd (.record members) (.record others)

/-- The members in reverse, after one that is added. -/
theorem MembersRespelled.reverse {partOf : String → Respelling} {MayAdd : String → Prop}
    {members : List (String × Json)} (changed : List (String × Json))
    (respelled : EachRespelled partOf members changed) (extra : String × Json)
    (mayAdd : MayAdd extra.1) :
    MembersRespelled partOf MayAdd (.record members) (.record (extra :: changed.reverse)) := by
  refine .object respelled (List.forall_mem_singleton.2 mayAdd) ?_
  exact (List.perm_append_singleton extra _).symm.trans ((List.reverse_perm changed).append_right _)

/-- The items of an array are spelled differently each. -/
inductive ItemsRespelled (item : Respelling) : Json → Json → Prop
  | same (value : Json) : ItemsRespelled item value value
  | array {items others : List Json} : List.Forall₂ item.Respells items others →
      ItemsRespelled item (.array items) (.array others)

/-- The respelling of a member by its name. -/
abbrev Parts := List (String × Respelling)

namespace Respelling

/-- A value that is always spelled the same. -/
def keep : Respelling := ⟨fun value other => other = value, fun _ => rfl⟩

/-- An array of values of one form. -/
def items (item : Respelling) : Respelling := ⟨ItemsRespelled item, .same⟩

/-- An object of values of one form, by any names. -/
def map (item : Respelling) : Respelling :=
  ⟨MembersRespelled (fun _ => item) fun _ => False, .same⟩

/-- The respelling of the member of a name. -/
def ofPart (parts : Parts) (name : String) : Respelling := (parts.lookup name).getD keep

/-- A record with some of the given parts; other members may be added. -/
def record (parts : Parts) : Respelling :=
  ⟨MembersRespelled (ofPart parts) (· ∉ parts.map Prod.fst), .same⟩

/-- The parts of the kind that a record is of by its tag. -/
def partsOfKind (tag : String) (kinds : List (String × Parts)) : Json → Parts
  | .object members =>
    match members.lookup (.text tag) with
    | some (.string (.text kind)) => (kinds.lookup kind).getD []
    | _ => []
  | _ => []

/-- A record with its kind in the member `tag`, and with some of the parts of that kind. -/
def tagged (tag : String) (kinds : List (String × Parts)) : Respelling where
  Respells value := (record ((tag, keep) :: partsOfKind tag kinds value)).Respells value
  refl value := (record _).refl value

end Respelling

/-- Values are read from their JSON form as it is, and however it is spelled otherwise. -/
def ReadsBack {α : Type} (respelling : Respelling) (toJson : α → Json) (ofJson? : Json → Option α) :
    Prop :=
  ∀ value other, respelling.Respells (toJson value) other → ofJson? other = some value

/-- Two objects of the same members, each by a name of its own, in any order. -/
def SameObject (first second : Json) : Prop :=
  ∃ members others, first = record members ∧ second = record others ∧
    (members.map Prod.fst).Nodup ∧ others.Perm members

open Respelling

/-! ## Objects -/

section Objects

variable {partOf : String → Respelling} {MayAdd : String → Prop} {other : Json}
  {members others : List (String × Json)} {name : String} {value : Json}

theorem record_injective (same : record members = record others) : members = others := by
  have injective : Function.Injective fun member : String × Json =>
      (Str.text member.1, member.2) := by
    rintro ⟨name, value⟩ ⟨otherName, otherValue⟩ same
    cases same
    rfl
  exact injective.list_map (Json.object.inj same)

/-- What an object with ordinary names may be spelled as. -/
theorem exists_members (respelled : MembersRespelled partOf MayAdd (.record members) other) :
    ∃ changed added others, other = .record others ∧ EachRespelled partOf members changed ∧
      (∀ extra ∈ added, MayAdd extra.1) ∧ others.Perm (changed ++ added) := by
  generalize read : record members = value at respelled
  cases respelled with
  | same _ =>
    refine ⟨members, [], members, read.symm, List.forall₂_same.2 fun member _ => ?_, by simp,
      by simp⟩
    exact ⟨rfl, (partOf member.1).refl _⟩
  | object changed mayAdd perm =>
    obtain rfl := record_injective read
    exact ⟨_, _, _, rfl, changed, mayAdd, perm⟩

theorem map_fst_of_respelled {changed : List (String × Json)}
    (respelled : EachRespelled partOf members changed) :
    changed.map Prod.fst = members.map Prod.fst := by
  induction respelled with
  | nil => rfl
  | cons same _ ih => rw [List.map_cons, List.map_cons, same.1, ih]

theorem exists_respelled {changed : List (String × Json)}
    (respelled : EachRespelled partOf members changed) (member : (name, value) ∈ members) :
    ∃ other, (name, other) ∈ changed ∧ (partOf name).Respells value other := by
  induction respelled with
  | nil => cases member
  | @cons head changedHead _ _ same _ ih =>
    rcases List.mem_cons.1 member with rfl | later
    · obtain ⟨changedName, other⟩ := changedHead
      obtain ⟨rfl, respells⟩ := same
      exact ⟨other, List.mem_cons_self .., respells⟩
    · obtain ⟨other, isMember, respells⟩ := ih later
      exact ⟨other, List.mem_cons_of_mem _ isMember, respells⟩

/-- Where no name is repeated, a member is found under its name. -/
theorem lookup_eq_some_iff (distinct : (members.map Prod.fst).Nodup) :
    members.lookup name = some value ↔ (name, value) ∈ members := by
  induction members with
  | nil => simp
  | cons head rest ih =>
    obtain ⟨key, item⟩ := head
    rw [List.map_cons, List.nodup_cons] at distinct
    rw [List.lookup_cons, List.mem_cons]
    cases same : name == key with
    | true =>
      obtain rfl := eq_of_beq same
      have absent : (name, value) ∉ rest := fun member =>
        distinct.1 (List.mem_map.2 ⟨_, member, rfl⟩)
      simp [absent, eq_comm]
    | false =>
      have different : name ≠ key := ne_of_beq_false same
      simp [different, ih distinct.2]

theorem allDistinct_iff {names : List String} : allDistinct names = true ↔ names.Nodup := by
  induction names with
  | nil => simp [allDistinct]
  | cons name names ih => simp [allDistinct, ih]

/-- A record with ordinary names is read if no known name is repeated. -/
theorem record?_record {names : List String}
    (distinct : ((members.filter fun member => names.contains member.1).map Prod.fst).Nodup) :
    (record members).record? names =
      some ⟨members.filter fun member => names.contains member.1, false⟩ := by
  have named : (members.map fun member => (Str.text member.1, member.2)).mapM
      (fun member : Str × Json => do return (← member.1.text?, member.2)) = some members := by
    rw [mapM_eq_some_iff, List.forall₂_map_left_iff]
    exact List.forall₂_same.2 fun _ _ => rfl
  unfold record? record
  dsimp only
  rw [named, Option.bind_eq_bind, Option.bind_some, if_pos (allDistinct_iff.2 distinct)]

/-- A member that has a name of its own is found under it in any order. -/
theorem lookup_of_perm (distinct : (members.map Prod.fst).Nodup) (perm : others.Perm members) :
    others.lookup name = some value ↔ (name, value) ∈ members := by
  have distinctOthers : (others.map Prod.fst).Nodup := (perm.map Prod.fst).nodup_iff.2 distinct
  rw [lookup_eq_some_iff distinctOthers, perm.mem_iff]

end Objects

/-! ## Records -/

section Records

variable {parts : Parts} {other : Json} {members : List (String × Json)}

/-- A record that was read has some members, spelled differently, and no other parts. -/
structure Record.Has (record : Record) (parts : Parts) (members : List (String × Json)) : Prop where
  named : record.positional = false
  lookup : ∀ name value, (name, value) ∈ members →
    ∃ other, record.members.lookup name = some other ∧ (ofPart parts name).Respells value other
  absent : ∀ name, name ∉ members.map Prod.fst → record.members.lookup name = none

/-- The record that is read from a respelled one. -/
theorem exists_record (respells : (Respelling.record parts).Respells (.record members) other)
    (known : (members.map Prod.fst).Sublist (parts.map Prod.fst))
    (distinct : (parts.map Prod.fst).Nodup) :
    ∃ record, other.record? (parts.map Prod.fst) = some record ∧ record.Has parts members := by
  obtain ⟨changed, added, others, rfl, respelled, unknown, perm⟩ := exists_members respells
  have names := map_fst_of_respelled respelled
  -- of all members those that are asked for are the respelled ones
  let asked (member : String × Json) : Bool := (parts.map Prod.fst).contains member.1
  have keepsChanged : changed.filter asked = changed := by
    refine List.filter_eq_self.2 fun member isMember => ?_
    have isName : member.1 ∈ members.map Prod.fst := names ▸ List.mem_map_of_mem isMember
    exact List.contains_iff_mem.2 (known.subset isName)
  have dropsAdded : added.filter asked = [] := by
    refine List.filter_eq_nil_iff.2 fun member isMember found => ?_
    exact unknown member isMember (List.contains_iff_mem.1 found)
  have found : (others.filter asked).Perm changed := by
    have filtered := perm.filter asked
    rwa [List.filter_append, keepsChanged, dropsAdded, List.append_nil] at filtered
  have distinctChanged : (changed.map Prod.fst).Nodup := names ▸ distinct.sublist known
  have distinctFound : ((others.filter asked).map Prod.fst).Nodup :=
    (found.map Prod.fst).nodup_iff.2 distinctChanged
  refine ⟨_, record?_record distinctFound, rfl, fun name value member => ?_, fun name absent => ?_⟩
  · obtain ⟨other, isMember, respells⟩ := exists_respelled respelled member
    exact ⟨other, (lookup_of_perm distinctChanged found).2 isMember, respells⟩
  · refine Option.eq_none_iff_forall_ne_some.2 fun value isFound => ?_
    have isMember := (lookup_of_perm distinctChanged found).1 isFound
    exact absent (names ▸ List.mem_map.2 ⟨_, isMember, rfl⟩)

namespace Record.Has

variable {record : Record} {name : String} {α : Type} {toJson : α → Json}
  {item? : Json → Option α} {value : α}

/-- A part that has to be there is read. -/
theorem required (has : record.Has parts members)
    (reads : ReadsBack (ofPart parts name) toJson item?)
    (member : (name, toJson value) ∈ members) : record.required name item? = some value := by
  obtain ⟨other, found, respells⟩ := has.lookup name _ member
  unfold Record.required
  rw [found]
  exact reads value other respells

/-- A part with a default is read where it is there. -/
theorem withDefault {fallback : α} (has : record.Has parts members)
    (reads : ReadsBack (ofPart parts name) toJson item?)
    (member : (name, toJson value) ∈ members) :
    record.withDefault name fallback item? = some value := by
  obtain ⟨other, found, respells⟩ := has.lookup name _ member
  unfold Record.withDefault
  rw [found]
  exact reads value other respells

/-- A part that may be missing is read where it is there, if null does not stand for it. -/
theorem optional_some (has : record.Has parts members)
    (reads : ReadsBack (ofPart parts name) toJson item?) (member : (name, toJson value) ∈ members)
    (notNull : item? .null = none) : record.optional name item? = some (some value) := by
  obtain ⟨other, found, respells⟩ := has.lookup name _ member
  have isValue := reads value other respells
  unfold Record.optional
  rw [found]
  cases other with
  | null => cases notNull.symm.trans isValue
  | bool _ => exact congrArg (Option.map some) isValue
  | number _ => exact congrArg (Option.map some) isValue
  | string _ => exact congrArg (Option.map some) isValue
  | array _ => exact congrArg (Option.map some) isValue
  | object _ => exact congrArg (Option.map some) isValue

theorem optional_none (has : record.Has parts members) (absent : name ∉ members.map Prod.fst) :
    record.optional name item? = some none := by
  unfold Record.optional
  rw [has.absent name absent, has.named]
  rfl

end Record.Has

end Records

/-! ## Kinds -/

section Kinds

variable {tag kind : String} {kinds : List (String × Parts)} {parts : Parts}
  {members others : List (String × Json)} {other : Json}

/-- A record with one member of the name of a tag, which names its kind. -/
theorem tagged?_record {names : List String} (isKind : kind ∈ names)
    (single : others.filter (·.1 == tag) = [(tag, text kind)]) (nested : Bool) :
    (record others).tagged? tag names nested =
      some (kind, record (others.filter fun member => !(member.1 == tag))) := by
  let spell (member : String × Json) : Str × Json := (.text member.1, member.2)
  have isTag : (fun member : Str × Json => member.1 == .text tag) ∘ spell = (·.1 == tag) := by
    funext member
    simp [spell]
  have isOther : (fun member : Str × Json => !(member.1 == .text tag)) ∘ spell =
      fun member => !(member.1 == tag) := by
    funext member
    simp [spell]
  have found : (others.map spell).filter (fun member => member.1 == .text tag) =
      [(.text tag, text kind)] := by
    rw [List.filter_map, isTag, single]
    rfl
  have rest : (others.map spell).filter (fun member => !(member.1 == .text tag)) =
      (others.filter fun member => !(member.1 == tag)).map spell := by
    rw [List.filter_map, isOther]
  unfold tagged? record
  dsimp only
  rw [found, rest]
  simp [text, kind?, Str.text?, isKind, spell]

/-- What is read from a respelled record with a tag: its kind, and the record of the rest. -/
theorem exists_tagged
    (respells : (tagged tag kinds).Respells (record ((tag, text kind) :: members)) other)
    (isKind : kinds.lookup kind = some parts) (unnamed : tag ∉ members.map Prod.fst)
    (nested : Bool) :
    ∃ content, other.tagged? tag (kinds.map Prod.fst) nested = some (kind, content) ∧
      (Respelling.record parts).Respells (record members) content := by
  have kindFound : partsOfKind tag kinds (record ((tag, text kind) :: members)) = parts := by
    simp [partsOfKind, record, text, isKind]
  have respelledAll : (Respelling.record ((tag, keep) :: parts)).Respells
      (record ((tag, text kind) :: members)) other := kindFound ▸ respells
  obtain ⟨changed, added, others, rfl, respelled, unknown, perm⟩ := exists_members respelledAll
  cases respelled with
  | @cons _ head _ changed isTag respelled =>
    have names := map_fst_of_respelled respelled
    obtain rfl : head = (tag, text kind) := by
      obtain ⟨name, value⟩ := head
      obtain ⟨rfl, kept⟩ := isTag
      have keeps : ofPart ((name, keep) :: parts) name = keep := by simp [ofPart]
      rw [keeps] at kept
      rw [show value = text kind from kept]
    -- the tag is the only member of its name
    have notTag : ∀ member ∈ changed ++ added, (member.1 == tag) = false := by
      intro member isMember
      rw [beq_eq_false_iff_ne]
      rintro rfl
      rcases List.mem_append.1 isMember with isChanged | isAdded
      · exact unnamed (names ▸ List.mem_map_of_mem isChanged)
      · exact unknown member isAdded (List.mem_cons_self ..)
    have single : others.filter (·.1 == tag) = [(tag, text kind)] := by
      have none : (changed ++ added).filter (·.1 == tag) = [] :=
        List.filter_eq_nil_iff.2 fun member isMember => by simp [notTag member isMember]
      have filtered := perm.filter (·.1 == tag)
      rw [List.cons_append, List.filter_cons_of_pos (by simp), none] at filtered
      exact List.perm_singleton.1 filtered
    have rest : (others.filter fun member => !(member.1 == tag)).Perm (changed ++ added) := by
      have all : (changed ++ added).filter (fun member => !(member.1 == tag)) = changed ++ added :=
        List.filter_eq_self.2 fun member isMember => by simp [notTag member isMember]
      have filtered := perm.filter fun member => !(member.1 == tag)
      rwa [List.cons_append, List.filter_cons_of_neg (by simp), all] at filtered
    have isName : kind ∈ kinds.map Prod.fst := by
      obtain ⟨before, after, split, _⟩ := List.lookup_eq_some_iff.1 isKind
      simp [split]
    refine ⟨_, tagged?_record isName single nested, .object ?_ ?_ rest⟩
    · -- the tag apart, both records have the same parts
      have differs : ∀ member ∈ members, member.1 ≠ tag := by
        rintro member isMember rfl
        exact unnamed (List.mem_map_of_mem isMember)
      refine ((List.forall₂_and_left members changed).2 ⟨differs, respelled⟩).imp ?_
      rintro member other ⟨differs, same, respells⟩
      have samePart : ofPart ((tag, keep) :: parts) member.1 = ofPart parts member.1 := by
        unfold ofPart
        rw [List.lookup_cons, beq_false_of_ne differs]
      exact ⟨same, samePart ▸ respells⟩
    · intro extra isAdded isPart
      exact unknown extra isAdded (List.mem_cons_of_mem _ isPart)

/-- The kind of a respelled record with a tag is read, and so is what the rest of it spells. -/
theorem exists_tagged_read {α : Type} {membersOf : α → List (String × Json)}
    {ofJson? : Json → Option α} {value : α}
    (respells : (tagged tag kinds).Respells (record ((tag, text kind) :: membersOf value)) other)
    (isKind : kinds.lookup kind = some parts) (unnamed : tag ∉ (membersOf value).map Prod.fst)
    (reads : ReadsBack (.record parts) (fun value => record (membersOf value)) ofJson?)
    (nested : Bool) :
    ∃ content, other.tagged? tag (kinds.map Prod.fst) nested = some (kind, content) ∧
      ofJson? content = some value := by
  obtain ⟨content, read, respells⟩ := exists_tagged respells isKind unnamed nested
  exact ⟨content, read, reads value content respells⟩

/-- The same of a kind with a single part of its own. -/
theorem exists_tagged_part {α : Type} {name : String} {item : Respelling} {toJson : α → Json}
    {item? : Json → Option α} {value : α}
    (respells : (tagged tag kinds).Respells (record [(tag, text kind), (name, toJson value)]) other)
    (isKind : kinds.lookup kind = some [(name, item)]) (differs : tag ≠ name)
    (reads : ReadsBack item toJson item?) (nested : Bool) :
    ∃ content part, other.tagged? tag (kinds.map Prod.fst) nested = some (kind, content) ∧
      content.record? [name] = some part ∧ part.required name item? = some value := by
  obtain ⟨content, read, respells⟩ := exists_tagged respells isKind (by simp [differs]) nested
  obtain ⟨part, readPart, has⟩ :=
    exists_record respells (List.Sublist.refl _) (List.nodup_singleton name)
  have isItem : ofPart [(name, item)] name = item := by simp [ofPart]
  have reads : ReadsBack (ofPart [(name, item)] name) toJson item? := by rwa [isItem]
  exact ⟨content, part, read, readPart, has.required reads (List.mem_singleton.2 rfl)⟩

end Kinds

/-! ## Simple forms -/

section Forms

variable {α : Type} {item : Respelling} {toJson : α → Json} {item? : Json → Option α}

theorem readsBack_text : ReadsBack keep text text? := by
  rintro value _ rfl
  rfl

theorem readsBack_bool : ReadsBack keep bool bool? := by
  rintro value _ rfl
  rfl

/-- The digits of a number denote it. -/
theorem natOfLiteral?_toString (value : Nat) : natOfLiteral? (toString value) = some value := by
  have digits : (toString value).toList = Nat.toDigits 10 value := by
    rw [Nat.toString_eq_repr, Nat.toList_repr]
  have nonempty : (Nat.toDigits 10 value).isEmpty = false :=
    List.isEmpty_eq_false_iff.2 Nat.toDigits_ne_nil
  have all : (Nat.toDigits 10 value).any (fun c => !c.isDigit) = false := by
    refine List.any_eq_false.2 fun c isDigit => ?_
    simp [Nat.isDigit_of_mem_toDigits (by decide) (by decide) isDigit]
  unfold natOfLiteral?
  rw [digits, nonempty, all, if_neg (by decide)]
  exact congrArg some (Nat.ofDigitChars_toDigits (by decide) (by decide))

theorem readsBack_line : ReadsBack keep ofLine line? := by
  rintro line _ rfl
  show (natOfLiteral? (toString line.toNat) >>= fun value =>
    if value < UInt32.size then some (UInt32.ofNat value) else none) = some line
  rw [natOfLiteral?_toString, Option.bind_eq_bind, Option.bind_some, if_pos line.toNat_lt,
    UInt32.ofNat_toNat]

theorem readsBack_list (reads : ReadsBack item toJson item?) :
    ReadsBack (items item) (ofList toJson) (list? item?) := by
  intro values other respells
  obtain ⟨others, rfl, each⟩ : ∃ others, other = .array others ∧
      List.Forall₂ item.Respells (values.map toJson) others := by
    generalize read : ofList toJson values = value at respells
    cases respells with
    | same _ => exact ⟨_, read.symm, List.forall₂_same.2 fun value _ => item.refl value⟩
    | array each =>
      cases read
      exact ⟨_, rfl, each⟩
  refine mapM_eq_some_iff.2 (List.Forall₂.flip ?_)
  rw [List.forall₂_map_left_iff] at each
  exact each.imp fun value other respells => reads value other respells

theorem readsBack_names : ReadsBack keep ofNames names? := by
  rintro names _ rfl
  have read : list? text? (ofNames names) = some names.toList :=
    readsBack_list readsBack_text names.toList _ ((items keep).refl _)
  have same : NameSet.ofList names.toList = names := NameSet.ext fun _ => NameSet.mem_ofList
  unfold names?
  rw [read, Option.map_some, same]

theorem readsBack_map (reads : ReadsBack item toJson item?) :
    ReadsBack (map item) (ofNameMap toJson) (nameMap? item?) := by
  intro map other respells
  obtain ⟨changed, added, others, rfl, respelled, nothing, perm⟩ := exists_members respells
  obtain rfl : added = [] := List.eq_nil_iff_forall_not_mem.2 nothing
  rw [List.append_nil] at perm
  rw [EachRespelled, List.forall₂_map_left_iff] at respelled
  have readEach : List.Forall₂ (fun other entry => other.1 = entry.1 ∧
      item? other.2 = some entry.2) changed map.entries := by
    refine List.Forall₂.flip (respelled.imp ?_)
    rintro ⟨name, value⟩ other ⟨same, respells⟩
    exact ⟨same, reads value other.2 respells⟩
  -- what is read in the given order are the entries in some order
  obtain ⟨entries, readOthers, permEntries⟩ := List.perm_comp_forall₂ perm readEach
  have read : (others.map fun member => (Str.text member.1, member.2)).mapM
      (fun member : Str × Json => do return (← member.1.text?, ← item? member.2)) =
        some entries := by
    rw [mapM_eq_some_iff, List.forall₂_map_left_iff]
    refine readOthers.imp fun other entry ⟨same, isValue⟩ => ?_
    simp [Str.text?, isValue, same]
  unfold nameMap? record
  dsimp only
  rw [read, Option.bind_eq_bind, Option.bind_some, NameMap.ofList_of_perm permEntries]
  rfl

end Forms

end Json

end AdapterWiring
