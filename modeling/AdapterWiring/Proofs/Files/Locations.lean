import AdapterWiring.Files.Tree
import AdapterWiring.Proofs.Files.Store

/-!
# Where paths lead

A path leads somewhere from a directory: it is put below the directory, and a
`..` takes the way up, which ends at the root. A normal form knows nothing of
the directory. What it keeps of a path are its names, and a mark if it starts at
the root; a `..` with no name before it is lost, and takes the mark with it.

* **location** — where a path leads from a directory.
* **climb** — how many `..` of a path find no name before them.
* **location_of_absolute, location_of_relative** — the names of a path, after
  what its climb leaves of the directory.
* **normalize_eq_names, normalize_eq_iff** — what a normal form keeps.
* **normalize_keeps_place** — which paths with one normal form lead to one place.
-/

namespace AdapterWiring.Path

open Text

/-! ## Following a path -/

/-- Where a path leads from a directory, by the names on the way from the root. -/
def location (directory path : String) : List String := Tree.namesOf (join directory path)

/-- What a component makes of the names on the way, the last of which comes first. -/
def Component.follow (names : List String) : Component → List String
  | .above => names.tail
  | .name text => text :: names
  | _ => names

/-- The names on the way after components, the last of which comes first. -/
def follow (names : List String) (components : List Component) : List String :=
  components.foldl Component.follow names

/-- How many `..` find no name before them, after so many names. -/
def climbFrom (depth : Nat) : List Component → Nat
  | [] => 0
  | .above :: rest => if depth = 0 then climbFrom 0 rest + 1 else climbFrom (depth - 1) rest
  | .name _ :: rest => climbFrom (depth + 1) rest
  | _ :: rest => climbFrom depth rest

/-- How many directories above its start a path goes. -/
def climb (path : String) : Nat := climbFrom 0 (parts path.toList)

/-- The names on the way that a path describes are those that its parts leave. -/
theorem namesOf_eq (path : String) :
    Tree.namesOf path = (follow [] (parts path.toList)).reverse := by
  unfold Tree.namesOf parts nonemptyPieces follow
  generalize pieces (· == '/') path.toList = found
  generalize ([] : List String) = names
  congr 1
  induction found generalizing names with
  | nil => rfl
  | cons piece found ih =>
    rw [List.filterMap_cons]
    fun_cases componentOfPart? piece with
    | case1 => exact ih names
    | case2 => simpa using ih names
    | case3 => simpa [Component.follow] using ih names.tail
    | case4 piece empty current above =>
      have other (text : String) (different : piece ≠ text.toList) : String.ofList piece ≠ text := by
        rintro rfl
        exact different String.toList_ofList.symm
      have notCurrent := other "." current
      have notAbove := other ".." above
      rw [List.filter_cons_of_pos (by simpa using empty)]
      simpa [notCurrent, notAbove, Component.follow] using ih (String.ofList piece :: names)

/-- What stands below the names that components leave are names that they do not take away. -/
theorem follow_append (names below : List String) (components : List Component) :
    follow (names ++ below) components =
      follow names components ++ below.drop (climbFrom names.length components) := by
  induction components generalizing names below with
  | nil => rfl
  | cons component rest ih =>
    cases component with
    | root => exact ih names below
    | current => exact ih names below
    | name name => exact ih (name :: names) below
    | above =>
      cases names with
      | nil =>
        show follow below.tail rest = follow [] rest ++ below.drop (climbFrom 0 rest + 1)
        rw [← List.drop_tail]
        exact ih [] below.tail
      | cons name names => exact ih names below

/-! ## Where a path leads -/

/-- A path from the root leads to the same place from everywhere. -/
theorem location_of_absolute {path : String} (absolute : isAbsolute path = true)
    (directory : String) : location directory path = Tree.namesOf path := by
  unfold location join
  rw [absolute, Bool.true_or, if_pos rfl]

/-- Any other path goes up from the directory, and then down its names. -/
theorem location_of_relative {path : String} (relative : isAbsolute path = false)
    (directory : String) : location directory path =
      (Tree.namesOf directory).take ((Tree.namesOf directory).length - climb path) ++
        Tree.namesOf path := by
  have onward : follow [] (parts directory.toList ++ parts path.toList) =
      follow [] (parts path.toList) ++ (follow [] (parts directory.toList)).drop (climb path) := by
    rw [follow, List.foldl_append]
    exact follow_append [] (follow [] (parts directory.toList)) (parts path.toList)
  rw [location, namesOf_eq, namesOf_eq directory, namesOf_eq path, parts_join relative, onward,
    List.reverse_append, List.reverse_drop, List.length_reverse]

/-- From the root every path leads down its names. -/
theorem location_of_root {directory : String} (isRoot : Tree.namesOf directory = [])
    (path : String) : location directory path = Tree.namesOf path := by
  cases starts : isAbsolute path with
  | true => exact location_of_absolute starts directory
  | false => rw [location_of_relative starts, isRoot, List.take_nil, List.nil_append]

/-! ## What a normal form keeps -/

/-- Whether the normal form of a path starts at the root: the path does, and never leaves it. -/
def KeepsRoot (path : String) : Prop := isAbsolute path = true ∧ climb path = 0

instance (path : String) : Decidable (KeepsRoot path) := inferInstanceAs (Decidable (_ ∧ _))

/-- A stack of names, with at most the root below them, after components. -/
theorem normalizeFrom_eq_names (names : List String) {bottom : List Component}
    (atMostRoot : bottom = [] ∨ bottom = [.root]) {components : List Component}
    (noRoot : .root ∉ components) :
    normalizeFrom (names.map .name ++ bottom) components =
      (if climbFrom names.length components = 0 then bottom else []) ++
        (follow names components).reverse.map .name := by
  induction components generalizing names bottom with
  | nil =>
    have same : bottom.reverse = bottom := by
      rcases atMostRoot with rfl | rfl <;> rfl
    simp [normalizeFrom, climbFrom, follow, same]
  | cons component rest ih =>
    have noRootLater : .root ∉ rest := fun later => noRoot (List.mem_cons_of_mem _ later)
    cases component with
    | root => exact absurd (List.mem_cons_self ..) noRoot
    | current => exact ih names atMostRoot noRootLater
    | name text => exact ih (text :: names) atMostRoot noRootLater
    | above =>
      cases names with
      | cons name names => exact ih names atMostRoot noRootLater
      | nil =>
        -- with the root gone, what follows is a relative path
        have nothing : bottom.tail = [] := by
          rcases atMostRoot with rfl | rfl <;> rfl
        show normalizeFrom bottom.tail rest = _
        have after := ih [] (.inl rfl) noRootLater
        rw [nothing]
        simpa [climbFrom, follow, Component.follow] using after

theorem root_not_mem_parts (path : List Char) : .root ∉ parts path := by
  intro isPart
  rcases cases_of_mem_parts isPart with same | ⟨name, _, same⟩ <;> cases same

/-- The normal form of a path holds its names, after the root if the path keeps it. -/
theorem normalize_eq_names (path : String) : normalize path =
    (if KeepsRoot path then [.root] else []) ++ (Tree.namesOf path).map .name := by
  have atMostRoot : base path = [] ∨ base path = [.root] := by
    unfold base
    split
    · exact .inr rfl
    · exact .inl rfl
  have found := normalizeFrom_eq_names [] atMostRoot (root_not_mem_parts path.toList)
  have start : (if climb path = 0 then base path else []) =
      if KeepsRoot path then [.root] else [] := by
    unfold KeepsRoot base
    by_cases stays : climb path = 0 <;> simp [stays]
  rw [normalize_eq, namesOf_eq, ← start]
  exact found

/-- Names with the root or without it are told apart. -/
theorem rooted_names_inj {keeps keeps' : Prop} [Decidable keeps] [Decidable keeps']
    {names others : List String} :
    (if keeps then [Component.root] else []) ++ names.map .name =
        (if keeps' then [.root] else []) ++ others.map .name ↔
      names = others ∧ (keeps ↔ keeps') := by
  have sameNames : names.map Component.name = others.map .name ↔ names = others :=
    List.map_inj_right fun _ _ same => Component.name.inj same
  have apart (names others : List String) : .root :: names.map Component.name ≠ others.map .name := by
    cases others <;> simp
  by_cases isKept : keeps <;> by_cases isKept' : keeps' <;>
    simp [isKept, isKept', sameNames, apart, (apart _ _).symm]

/-- Normal forms tell names apart, and whether the root is kept. -/
theorem normalize_eq_iff {path other : String} : normalize path = normalize other ↔
    Tree.namesOf path = Tree.namesOf other ∧ (KeepsRoot path ↔ KeepsRoot other) := by
  rw [normalize_eq_names, normalize_eq_names other, rooted_names_inj]

/-- Every place is that of a directory given from the root. -/
theorem exists_directory (names : List String) (areNames : ∀ name ∈ names, IsName name) :
    ∃ directory, isAbsolute directory = true ∧ Tree.namesOf directory = names := by
  have form := normalize_render ⟨names, areNames, .inr rfl⟩
  have rooted : [Component.root] ++ names.map .name =
      (if True then [.root] else []) ++ names.map .name := by
    rw [if_pos trivial]
  rw [normalize_eq_names] at form
  obtain ⟨sameNames, keeps⟩ := rooted_names_inj.1 (form.trans rooted)
  exact ⟨_, (keeps.2 trivial).1, sameNames⟩

/-! ## Paths that lead to one place -/

/-- Whether two paths lead to one place from every directory given from the root. -/
def SamePlace (path other : String) : Prop :=
  ∀ directory, isAbsolute directory = true → location directory path = location directory other

/-- Paths with the same names lead to one place if both are given from the root, or both go up as
far. -/
theorem samePlace_iff {path other : String} : SamePlace path other ↔
    Tree.namesOf path = Tree.namesOf other ∧ isAbsolute path = isAbsolute other ∧
      (isAbsolute path = false → climb path = climb other) := by
  constructor
  · intro same
    obtain ⟨top, absolute, isTop⟩ := exists_directory [] (by simp)
    have sameNames : Tree.namesOf path = Tree.namesOf other := by
      have atTop := same top absolute
      rwa [location_of_root isTop, location_of_root isTop] at atTop
    -- a directory so deep that neither path goes up to the root
    let depth := climb path + climb other + 1
    obtain ⟨deep, absolute, isDeep⟩ :=
      exists_directory (List.replicate depth "a") (by simp [IsName])
    have down {given : String} (absolute : isAbsolute given = true) :
        (location deep given).length = (Tree.namesOf given).length := by
      rw [location_of_absolute absolute]
    have up {given : String} (relative : isAbsolute given = false) :
        (location deep given).length = depth - climb given + (Tree.namesOf given).length := by
      rw [location_of_relative relative, isDeep, List.length_append, List.length_take,
        List.length_replicate]
      omega
    have lengths := congrArg List.length (same deep absolute)
    cases starts : isAbsolute path with
    | true =>
      cases starts' : isAbsolute other with
      | true => exact ⟨sameNames, rfl, fun relative => by cases relative⟩
      | false =>
        rw [down starts, up starts', sameNames] at lengths
        omega
    | false =>
      cases starts' : isAbsolute other with
      | true =>
        rw [up starts, down starts', sameNames] at lengths
        omega
      | false =>
        rw [up starts, up starts', sameNames] at lengths
        exact ⟨sameNames, rfl, fun _ => by omega⟩
  · rintro ⟨sameNames, sameStart, sameClimb⟩ directory _
    cases starts : isAbsolute path with
    | true =>
      rw [location_of_absolute starts, location_of_absolute (sameStart ▸ starts), sameNames]
    | false =>
      rw [location_of_relative starts, location_of_relative (sameStart ▸ starts), sameNames,
        sameClimb starts]

/-! ## Normal forms and places -/

/-- So paths with one normal form lead to one place if they start and climb alike. -/
theorem samePlace_iff_of_normalize {path other : String}
    (sameForm : normalize path = normalize other) : SamePlace path other ↔
      isAbsolute path = isAbsolute other ∧ (isAbsolute path = false → climb path = climb other) := by
  rw [samePlace_iff]
  exact and_iff_right (normalize_eq_iff.1 sameForm).1

section

variable {path above : String}

/-- Below the directory above, or below the root, a path keeps its normal form. -/
theorem normalize_join_above (relative : isAbsolute path = false)
    (isAbove : above = ".." ∨ above = "/..") :
    normalize (join above path) = normalize path := by
  rw [normalize_join relative, normalize_eq path, base, relative]
  rcases isAbove with rfl | rfl <;> rfl

/-- It leads to another place there. -/
theorem not_samePlace_join_above (relative : isAbsolute path = false)
    (isAbove : above = ".." ∨ above = "/..") : ¬ SamePlace (join above path) path := by
  rw [samePlace_iff_of_normalize (normalize_join_above relative isAbove)]
  rintro ⟨sameStart, sameClimb⟩
  rcases isAbove with rfl | rfl
  · have further : climb (join ".." path) = climb path + 1 := by
      unfold climb
      rw [parts_join relative]
      rfl
    have sameHeight := sameClimb (sameStart.trans relative)
    omega
  · have starts : isAbsolute (join "/.." path) = true := isAbsolute_join relative (by decide)
    rw [starts, relative] at sameStart
    cases sameStart

end

/-- **Normal forms and places.** Of paths that never go above their start, those with one normal form
are those that lead to one place from every directory. A path from the root and one that is not
never lead to one place; they have one normal form just if the first goes above the root and has the
names of the second. In general, paths with one normal form lead to one place just if both are given
from the root, or both go up as far. So below a directory and below the one above it, or the root, a
path has one normal form but leads to different places, and a store gives the text of one for the
other. -/
theorem normalize_keeps_place (path other : String) :
    (climb path = 0 → climb other = 0 →
      (normalize path = normalize other ↔ SamePlace path other)) ∧
    (isAbsolute path = true → isAbsolute other = false →
      ¬ SamePlace path other ∧ (normalize path = normalize other ↔
        climb path ≠ 0 ∧ Tree.namesOf path = Tree.namesOf other)) ∧
    (normalize path = normalize other →
      (SamePlace path other ↔ isAbsolute path = isAbsolute other ∧
        (isAbsolute path = false → climb path = climb other))) ∧
    (isAbsolute path = false → ∀ above ∈ ["..", "/.."],
      normalize (join above path) = normalize path ∧ ¬ SamePlace (join above path) path ∧
        ∀ (store : Store) (text : String),
          (store.insert path text).read (join above path) = .ok text) := by
  refine ⟨?_, ?_, samePlace_iff_of_normalize, ?_⟩
  · intro stays stays'
    have keeps : KeepsRoot path ↔ isAbsolute path = true := and_iff_left stays
    have keeps' : KeepsRoot other ↔ isAbsolute other = true := and_iff_left stays'
    rw [normalize_eq_iff, samePlace_iff, keeps, keeps', Bool.coe_iff_coe, stays, stays']
    simp
  · intro absolute relative
    rw [normalize_eq_iff, samePlace_iff]
    simp [KeepsRoot, absolute, relative, and_comm]
  · intro relative above listed
    have isAbove : above = ".." ∨ above = "/.." := by simpa using listed
    have sameForm := normalize_join_above relative isAbove
    refine ⟨sameForm, not_samePlace_join_above relative isAbove, fun store text => ?_⟩
    rw [Store.read_insert, if_pos sameForm]

/-- Paths with repeated slashes, `.` and `..`, some of which go above their start. -/
theorem normalize_keeps_place_spellings :
    SamePlace "a/./b/../c" "a//c/" ∧ normalize "/a/../c" ≠ normalize "c" ∧
    SamePlace "/x/../../c" "/../c" ∧ ¬ SamePlace "a/../../c" "c" ∧
    ¬ SamePlace (join ".." "c") "c" := by
  obtain ⟨stays, _⟩ := normalize_keeps_place "a/./b/../c" "a//c/"
  obtain ⟨_, apart, _⟩ := normalize_keeps_place "/a/../c" "c"
  obtain ⟨_, _, rooted, _⟩ := normalize_keeps_place "/x/../../c" "/../c"
  obtain ⟨_, _, climbs, _⟩ := normalize_keeps_place "a/../../c" "c"
  obtain ⟨_, _, _, above⟩ := normalize_keeps_place "c" "c"
  refine ⟨(stays (by decide +kernel) (by decide +kernel)).1 (by decide +kernel), ?_,
    (rooted (by decide +kernel)).2 (by decide +kernel), ?_,
    (above (by decide) ".." (by simp)).2.1⟩
  · intro same
    have below := (apart (by decide) (by decide)).2.1 same
    exact below.1 (by decide +kernel)
  · rw [climbs (by decide +kernel)]
    decide +kernel

/-- Two files at different places, of which a store keeps only the one put in last. -/
theorem outer_text_lost :
    location "/base" "/../c" = ["c"] ∧ location "/base" "c" = ["base", "c"] ∧
    normalize "/../c" = normalize "c" ∧
    (Store.ofList [("/../c", "outer"), ("c", "inner")]).read "/../c" = .ok "inner" := by
  decide +kernel

end AdapterWiring.Path
