import AdapterWiring.Files.Path
import AdapterWiring.Proofs.Text.Words
import Mathlib.Tactic.Common

/-!
# Normal forms of paths

A path is put in normal form by a stack: a name is pushed, `..` takes away what
is on top. So a path below another only goes on from the stack that the other
has left, and the stack can be written down as a path in between.

* **parts** — the components of a path, its start left out.
* **normalize_eq, normalizeFrom_append** — a normal form is a run over the parts,
  and runs go on from one another.
* **parts_join, normalize_join** — the parts of a path below another, and its
  normal form.
* **IsNormal, isNormal_normalize** — what normal forms look like.
* **normalize_render** — they are their own normal forms.
* **normalize_join_normalize** — so a path can be put in normal form before
  another is put below it.
-/

namespace AdapterWiring.Path

open Text

/-! ## Parts -/

/-- The components of a path, its start left out. -/
def parts (path : List Char) : List Component :=
  (pieces (· == '/') path).filterMap componentOfPart?

/-- What stands on the stack at the start of a path. -/
def base (path : String) : List Component := if isAbsolute path then [.root] else []

theorem parts_nil : parts [] = [] := rfl

/-- At a slash a path falls apart. -/
theorem parts_append (front back : List Char) :
    parts (front ++ '/' :: back) = parts front ++ parts back := by
  unfold parts
  rw [pieces_append rfl, List.filterMap_append]

/-- A normal form is a run over the parts, from the root if the path is absolute; a `.` at the start
does not count. -/
theorem normalize_eq (path : String) :
    normalize path = normalizeFrom (base path) (parts path.toList) := by
  unfold normalize components base isAbsolute
  cases path.toList with
  | nil => rfl
  | cons first rest =>
    by_cases isRoot : first = '/'
    · subst isRoot
      rfl
    · have relative : ((first :: rest).head? == some '/') = false := by simpa using isRoot
      rw [relative]
      simp only [Bool.false_eq_true, if_false]
      split
      next same => exact absurd (List.cons.inj same).1 isRoot
      · rfl
      · rfl

/-! ## Runs -/

/-- A run goes on from the stack that the run before has left. -/
theorem normalizeFrom_append (kept front back : List Component) :
    normalizeFrom kept (front ++ back) = normalizeFrom (normalizeFrom kept front).reverse back := by
  fun_induction normalizeFrom kept front with
  | case1 kept => rw [List.nil_append, List.reverse_reverse]
  | case2 kept rest ih => exact ih
  | case3 kept rest ih => exact ih
  | case4 kept rest component notCurrent notAbove ih =>
    rw [List.cons_append, normalizeFrom]
    · exact ih
    · exact notCurrent
    · exact notAbove

/-- Names are pushed one after the other. -/
theorem normalizeFrom_names (kept : List Component) (names : List String) :
    normalizeFrom kept (names.map .name) = kept.reverse ++ names.map .name := by
  induction names generalizing kept with
  | nil => rw [List.map_nil, List.append_nil, normalizeFrom]
  | cons name names ih =>
    show normalizeFrom (.name name :: kept) (names.map .name) = _
    rw [ih]
    simp

/-! ## Paths below others -/

/-- The text of a path below another, if there is another. -/
theorem exists_toList_join {path below : String} (relative : isAbsolute below = false)
    (nonempty : path ≠ "") : ∃ front, (join path below).toList = front ++ '/' :: below.toList ∧
      (path.toList = front ∨ path.toList = front ++ ['/']) := by
  unfold join
  rw [relative, Bool.false_or, if_neg (by simpa using nonempty)]
  by_cases closed : path.toList.getLast? = some '/'
  · obtain ⟨front, same⟩ := List.getLast?_eq_some_iff.1 closed
    exact ⟨front, by simp [same], .inr same⟩
  · exact ⟨path.toList, by simp [closed], .inl rfl⟩

theorem isAbsolute_join {path below : String} (relative : isAbsolute below = false)
    (nonempty : path ≠ "") : isAbsolute (join path below) = isAbsolute path := by
  obtain ⟨front, joined, either⟩ := exists_toList_join relative nonempty
  unfold isAbsolute
  rw [joined]
  rcases either with same | same <;> cases front <;> simp_all

/-- A path below another has the parts of both. -/
theorem parts_join {path below : String} (relative : isAbsolute below = false) :
    parts (join path below).toList = parts path.toList ++ parts below.toList := by
  by_cases empty : path = ""
  · subst empty
    have alone : join "" below = below := by simp [join]
    rw [alone]
    rfl
  obtain ⟨front, joined, either⟩ := exists_toList_join relative empty
  rw [joined, parts_append]
  rcases either with same | same
  · rw [same]
  · rw [same, parts_append, parts_nil, List.append_nil]

/-- A path below another goes on from its normal form. -/
theorem normalize_join {path below : String} (relative : isAbsolute below = false) :
    normalize (join path below) =
      normalizeFrom (normalize path).reverse (parts below.toList) := by
  by_cases empty : path = ""
  · subst empty
    have alone : join "" below = below := by simp [join]
    rw [alone, normalize_eq, base, relative]
    rfl
  have sameBase : base (join path below) = base path := by
    rw [base, isAbsolute_join relative empty, base]
  rw [normalize_eq (join path below), parts_join relative, sameBase, normalizeFrom_append,
    ← normalize_eq]

/-! ## Normal forms -/

/-- The name of a file or directory: it holds something, no slash, and is neither `.` nor `..`. -/
def IsName (name : String) : Prop :=
  name ≠ "" ∧ name ≠ "." ∧ name ≠ ".." ∧ '/' ∉ name.toList

/-- Components in normal form: names, the root perhaps before them. -/
def IsNormal (components : List Component) : Prop :=
  ∃ names : List String, (∀ name ∈ names, IsName name) ∧
    (components = names.map .name ∨ components = .root :: names.map .name)

theorem toList_ne_of_ne {name text : String} (different : name ≠ text) :
    name.toList ≠ text.toList :=
  fun same => different (String.toList_injective same)

theorem componentOfPart?_name {name : String} (isName : IsName name) :
    componentOfPart? name.toList = some (.name name) := by
  obtain ⟨nonempty, notCurrent, notAbove, _⟩ := isName
  unfold componentOfPart?
  split
  next same => exact absurd same (toList_ne_of_ne nonempty)
  next same => exact absurd same (toList_ne_of_ne notCurrent)
  next same => exact absurd same (toList_ne_of_ne notAbove)
  · rw [String.ofList_toList]

/-- A part is `..` or a name. -/
theorem cases_of_mem_parts {path : List Char} {component : Component}
    (isPart : component ∈ parts path) :
    component = .above ∨ ∃ name, IsName name ∧ component = .name name := by
  obtain ⟨piece, isPiece, found⟩ := List.mem_filterMap.1 isPart
  unfold componentOfPart? at found
  split at found
  · cases found
  · cases found
  · exact .inl (Option.some.inj found).symm
  next notEmpty notCurrent notAbove =>
    refine .inr ⟨String.ofList piece, ?_, (Option.some.inj found).symm⟩
    have other (text : String) (different : piece ≠ text.toList) : String.ofList piece ≠ text := by
      rintro rfl
      exact different (String.toList_ofList).symm
    refine ⟨other "" notEmpty, other "." notCurrent, other ".." notAbove, fun slash => ?_⟩
    rw [String.toList_ofList] at slash
    simpa using not_separates_of_mem_pieces isPiece slash

/-- A stack whose components are in normal form, the last one on top. -/
theorem isNormal_normalizeFrom {kept components : List Component} (normal : IsNormal kept.reverse)
    (each : ∀ component ∈ components,
      component = .above ∨ ∃ name, IsName name ∧ component = .name name) :
    IsNormal (normalizeFrom kept components) := by
  induction components generalizing kept with
  | nil => exact normal
  | cons component rest ih =>
    obtain ⟨here, later⟩ := List.forall_mem_cons.1 each
    obtain ⟨names, areNames, either⟩ := normal
    rcases here with rfl | ⟨name, isName, rfl⟩
    · refine ih ?_ later
      -- what is taken away is the last name or, after the last one, the root
      rw [← List.dropLast_reverse]
      rcases either with same | same
      · refine ⟨names.dropLast, fun name member => areNames name (List.dropLast_subset _ member),
          .inl ?_⟩
        rw [same, List.map_dropLast]
      · rw [same]
        cases names with
        | nil => exact ⟨[], by simp, .inl rfl⟩
        | cons first names =>
          refine ⟨(first :: names).dropLast,
            fun name member => areNames name (List.dropLast_subset _ member), .inr ?_⟩
          rw [List.map_cons, List.dropLast_cons_cons, ← List.map_cons, List.map_dropLast]
    · refine ih ⟨names ++ [name], ?_, ?_⟩ later
      · intro other member
        rcases List.mem_append.1 member with before | new
        · exact areNames other before
        · rwa [List.mem_singleton.1 new]
      · rw [List.reverse_cons, List.map_append]
        rcases either with same | same
        · exact .inl (by rw [same]; rfl)
        · exact .inr (by rw [same]; rfl)

theorem isNormal_normalize (path : String) : IsNormal (normalize path) := by
  rw [normalize_eq]
  refine isNormal_normalizeFrom ?_ fun component isPart => cases_of_mem_parts isPart
  unfold base
  split
  · exact ⟨[], by simp, .inr rfl⟩
  · exact ⟨[], by simp, .inl rfl⟩

/-! ## Normal forms as paths -/

/-- The text of names. -/
theorem parts_intercalate {names : List String} (areNames : ∀ name ∈ names, IsName name) :
    parts ("/".intercalate names).toList = names.map .name := by
  have single {name : String} (isName : IsName name) : parts name.toList = [.name name] := by
    unfold parts
    rw [pieces_of_forall_not fun c member => ?_]
    · simp [componentOfPart?_name isName]
    · simpa using fun same : c = '/' => isName.2.2.2 (same ▸ member)
  induction names with
  | nil => rfl
  | cons name names ih =>
    obtain ⟨isName, areNames⟩ := List.forall_mem_cons.1 areNames
    cases names with
    | nil => rw [String.intercalate_singleton, single isName]; rfl
    | cons next names =>
      have spelled : ("/".intercalate (name :: next :: names)).toList =
          name.toList ++ '/' :: ("/".intercalate (next :: names)).toList := by
        simp [String.intercalate_cons_cons]
      rw [spelled, parts_append, single isName, ih areNames]
      rfl

theorem isAbsolute_intercalate {names : List String} (areNames : ∀ name ∈ names, IsName name) :
    isAbsolute ("/".intercalate names) = false := by
  cases names with
  | nil => rfl
  | cons name names =>
    obtain ⟨nonempty, _, _, noSlash⟩ := areNames name (List.mem_cons_self ..)
    have starts : ∃ more, ("/".intercalate (name :: names)).toList = name.toList ++ more := by
      cases names with
      | nil => exact ⟨[], by simp⟩
      | cons next names => exact ⟨_, by rw [String.intercalate_cons_cons, String.append_assoc,
          String.toList_append]⟩
    obtain ⟨more, spelled⟩ := starts
    unfold isAbsolute
    rw [spelled]
    cases letters : name.toList with
    | nil => exact absurd letters (toList_ne_of_ne nonempty)
    | cons first rest =>
      rw [letters] at noSlash
      simpa using fun same : first = '/' => noSlash (by simp [same])

/-- Components in normal form are the normal form of their text. -/
theorem normalize_render {components : List Component} (normal : IsNormal components) :
    normalize (render components) = components := by
  obtain ⟨names, areNames, rfl | rfl⟩ := normal
  · have text : render (names.map .name) = "/".intercalate names := by
      cases names with
      | nil => rfl
      | cons name names => simp [render, Component.render, Function.comp_def]
    rw [text, normalize_eq, parts_intercalate areNames, normalizeFrom_names, base,
      isAbsolute_intercalate areNames]
    rfl
  · have text : render (.root :: names.map .name) = "/" ++ "/".intercalate names := by
      simp [render, Component.render, Function.comp_def]
    have absolute : isAbsolute ("/" ++ "/".intercalate names) = true := by simp [isAbsolute]
    have spelled : ("/" ++ "/".intercalate names).toList =
        [] ++ '/' :: ("/".intercalate names).toList := by
      simp
    rw [text, normalize_eq, spelled, parts_append, parts_intercalate areNames, base, absolute]
    exact normalizeFrom_names [.root] names

/-- A path can be put in normal form before another is put below it. -/
theorem normalize_join_normalize {path below : String} (relative : isAbsolute below = false) :
    normalize (join (render (normalize path)) below) = normalize (join path below) := by
  rw [normalize_join relative, normalize_join relative, normalize_render (isNormal_normalize path)]

end AdapterWiring.Path
