import AdapterWiring.Pattern.Expr

/-!
# Searching a word

A word has a gap before each character and one at its end, and a set of gaps is
a number whose bits are its members. An expression leads from the gaps where a
match of it starts to those where one ends, so a word is searched by one pass
over the expression. Repetitions inside repetitions would be passed over again
and again; some of them are passed over once from each gap instead, and the
results kept in a table.

* **Layout** — a word, by the places of its characters and the kinds of its gaps.
* **Route** — an expression over a given word: which gaps each of its parts lets
  pass.
* **reach** — the gaps that a route leads to.
* **search** — whether an expression matches a part of a word.
-/

namespace AdapterWiring.Pattern

/-! ## Routes -/

/-- An expression over a given word. -/
inductive Route where
  /-- Goes on at the same gap, where it is one of these. -/
  | stay (gaps : Nat)
  /-- Goes on at the next gap from each of these. -/
  | step (gaps : Nat)
  /-- One route after another. -/
  | seq (first second : Route)
  /-- Either of two routes. -/
  | alt (first second : Route)
  /-- A route `least` times and up to `further` times more. -/
  | repeated (body : Route) (least further : Nat)
  /-- From each gap to the gaps that stand in its place in a list. -/
  | table (targets : List Nat)

/-- A function applied a number of times; once it changes nothing, it is not applied again. -/
def iterate (f : Nat → Nat) : Nat → Nat → Nat
  | 0, gaps => gaps
  | times + 1, gaps =>
    let next := f gaps
    if next = gaps then gaps else iterate f times next

/-- The gaps `reached`, and those that a function leads to from the gaps `fresh` when it is applied
up to a number of times. Only gaps not reached before are followed further. -/
def spread (f : Nat → Nat) : Nat → Nat → Nat → Nat
  | 0, reached, _ => reached
  | times + 1, reached, fresh =>
    let next := (f fresh ||| reached) ^^^ reached
    if next = 0 then reached else spread f times (reached ||| next) next

/-- The union of the sets in a list whose places are members of a set. -/
def unionAt : List Nat → Nat → Nat
  | [], _ => 0
  | first :: rest, places => (if places.testBit 0 then first else 0) ||| unionAt rest (places >>> 1)

namespace Route

/-- The gaps that a route leads to. -/
def reach : Route → Nat → Nat
  | stay passing, gaps => gaps &&& passing
  | step passing, gaps => (gaps &&& passing) <<< 1
  | seq first second, gaps => second.reach (first.reach gaps)
  | alt first second, gaps => first.reach gaps ||| second.reach gaps
  | repeated body least further, gaps =>
    let start := iterate body.reach least gaps
    spread body.reach further start start
  | table targets, gaps => unionAt targets gaps

/-- A route over a number of gaps as a table. -/
def tabulate (route : Route) (count : Nat) : Route :=
  table ((List.range count).map fun gap => route.reach (1 <<< gap))

end Route

/-! ## Words -/

/-- The number whose bits say which items of a list satisfy a condition. -/
def bitsOf {α : Type} (holds : α → Bool) : List α → Nat
  | [] => 0
  | item :: rest => (holds item).toNat + 2 * bitsOf holds rest

/-- The different items of a list, each with the set of its places. -/
def placesOf {α : Type} [DecidableEq α] (items : List α) : List (α × Nat) :=
  items.eraseDups.map fun item => (item, bitsOf (· = item) items)

/-- The places of those items that satisfy a condition. -/
def placesWhere {α : Type} (holds : α → Bool) : List (α × Nat) → Nat
  | [] => 0
  | (item, places) :: rest =>
    if holds item then places ||| placesWhere holds rest else placesWhere holds rest

/-- The gaps of a word, the first of which stands after a given character. -/
def gapsFrom (before : Option Char) : List Char → List Gap
  | [] => [⟨before, none⟩]
  | c :: rest => ⟨before, some c⟩ :: gapsFrom (some c) rest

/-- A word as a search sees it. -/
structure Layout where
  /-- The number of gaps. -/
  count : Nat
  /-- The set of all gaps. -/
  all : Nat
  /-- The characters, each with the gaps before it. -/
  chars : List (Char × Nat)
  /-- The kinds of gaps, each with the gaps of that kind. -/
  kinds : List (Gap × Nat)

/-- The layout of a word. -/
def Layout.of (word : List Char) : Layout :=
  let gaps := gapsFrom none word
  ⟨gaps.length, bitsOf (fun _ => true) gaps, placesOf word, placesOf gaps⟩

/-! ## Searches -/

namespace Expr

/-- The number of repetitions inside each other from one table to the next. -/
def tableDistance : Nat := 8

/-- An expression over a word, inside a number of repetitions. No repetition without an upper bound
has more use than one for each gap. -/
def route (layout : Layout) : Nat → Expr → Route
  | _, empty => .stay layout.all
  | _, assertion condition => .stay (placesWhere condition.holds layout.kinds)
  | _, one set => .step (placesWhere set.contains layout.chars)
  | depth, seq first second => .seq (route layout depth first) (route layout depth second)
  | depth, alt first second => .alt (route layout depth first) (route layout depth second)
  | depth, repeated body least most =>
    let whole : Route :=
      .repeated (route layout (depth + 1) body) least (most.elim layout.count (· - least))
    if (depth + 1) % tableDistance = 0 then whole.tabulate layout.count else whole

/-- Whether an expression matches a part of a word. -/
def search (e : Expr) (word : List Char) : Bool :=
  let layout := Layout.of word
  (e.route layout 0).reach layout.all != 0

end Expr

end AdapterWiring.Pattern
