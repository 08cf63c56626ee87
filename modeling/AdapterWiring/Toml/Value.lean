/-!
# TOML values

* **Toml** — a value.
* **Table** — a table in progress; how it came about decides what may still be
  added to it.
* **Table.define** — a key with a value. The tables that a dotted key runs
  through are made as needed, but none that has a header of its own is changed.
* **Table.openTable, Table.openItem** — the headers of a table and of an item
  of an array of tables.
-/

namespace AdapterWiring

/-- A TOML value. -/
inductive Toml where
  /-- A string. -/
  | string (text : String)
  /-- An integer. -/
  | integer (value : Int)
  /-- A float, by its literal. -/
  | float (literal : String)
  /-- A truth value. -/
  | bool (value : Bool)
  /-- A date, a time or both, by its literal. -/
  | dateTime (literal : String)
  /-- An array. -/
  | array (items : List Toml)
  /-- A table. -/
  | table (entries : List (String × Toml))
deriving Inhabited

namespace Toml

/-! ## Tables in progress -/

/-- How a table came about. -/
inductive Making where
  /-- By a header of its own, or as the document or an inline table. -/
  | explicit
  /-- By the header of a table below it. -/
  | implied
  /-- By a dotted key. -/
  | dotted
deriving DecidableEq

mutual

/-- A table in progress. -/
inductive Table where
  /-- A table with its entries in order. -/
  | mk (making : Making) (entries : List (String × Item))

/-- What stands under a key of a table in progress. -/
inductive Item where
  /-- A complete value. -/
  | value (content : Toml)
  /-- A table. -/
  | table (content : Table)
  /-- An array of tables, the last of them first. -/
  | tables (last : Table) (before : List Table)

end

namespace Table

/-- The entries of a table. -/
def entries : Table → List (String × Item)
  | mk _ entries => entries

/-- How a table came about. -/
def making : Table → Making
  | mk making _ => making

/-- A table without entries. -/
def empty (making : Making) : Table := mk making []

/-- The table with an item under a key, in place of what was there. -/
def put (table : Table) (key : String) (item : Item) : Table :=
  let rec replace : List (String × Item) → List (String × Item)
    | [] => [(key, item)]
    | head :: rest => if head.1 = key then (key, item) :: rest else head :: replace rest
  mk table.making (replace table.entries)

/-- What stands under a key. -/
def get? (table : Table) (key : String) : Option Item := table.entries.lookup key

/-- Change the table at the end of a path, whose missing tables come about as `making` says. -/
def change (making : Making) (edit : Table → Option Table) : List String → Table → Option Table
  | [], target => edit target
  | key :: path, target =>
    match target.get? key with
    | none => do
      let inner ← change making edit path (empty making)
      return target.put key (.table inner)
    | some (.value _) => none
    | some (.tables last before) => do
      let inner ← change making edit path last
      return target.put key (.tables inner before)
    | some (.table inner) =>
      if making = .dotted ∧ inner.making = .explicit then none
      else do
        let inner ← change making edit path inner
        return target.put key (.table inner)

/-- Put a value under a dotted key, the last part of which is `key`. -/
def define (path : List String) (key : String) (value : Toml) (table : Table) : Option Table :=
  change .dotted (fun inner =>
    if (inner.making = .dotted) = (path = []) ∨ (inner.get? key).isSome then none
    else some (inner.put key (.value value))) path table

/-- Open the table of a header. -/
def openTable (path : List String) (key : String) (document : Table) : Option Table :=
  change .implied (fun parent =>
    match parent.get? key with
    | none => some (parent.put key (.table (empty .explicit)))
    | some (.table (mk .implied entries)) => some (parent.put key (.table (mk .explicit entries)))
    | some _ => none) path document

/-- Open a further item of the array of tables of a header. -/
def openItem (path : List String) (key : String) (document : Table) : Option Table :=
  change .implied (fun parent =>
    match parent.get? key with
    | none => some (parent.put key (.tables (empty .explicit) []))
    | some (.tables last before) =>
      some (parent.put key (.tables (empty .explicit) (last :: before)))
    | some _ => none) path document

/-- Put a value under a dotted key of the table that the last header opened. -/
def defineBelow (header path : List String) (key : String) (value : Toml) (document : Table) :
    Option Table :=
  change .implied (define path key value) header document

mutual

/-- The value of a complete table. -/
def toValue : Table → Toml
  | mk _ entries => .table (entriesToValue entries)

/-- The value of an item. -/
def itemToValue : Item → Toml
  | .value content => content
  | .table content => toValue content
  | .tables last before => .array ((toValue last :: tablesToValue before).reverse)

/-- The values of the entries of a table. -/
def entriesToValue : List (String × Item) → List (String × Toml)
  | [] => []
  | (key, item) :: rest => (key, itemToValue item) :: entriesToValue rest

/-- The values of several tables. -/
def tablesToValue : List Table → List Toml
  | [] => []
  | first :: rest => toValue first :: tablesToValue rest

end

end Table

end Toml

end AdapterWiring
