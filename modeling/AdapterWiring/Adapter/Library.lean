import AdapterWiring.Adapter.Precedence
import AdapterWiring.Hierarchy.Ancestry

/-!
# Adapter libraries

* **Descriptor** — what an adapter can be built from and what it stands in for.
* **discover** — the descriptor of an adapter, its levels asked for.
* **Library** — descriptors by name, with the precedence between adapters.
-/

namespace AdapterWiring

/-! ## Descriptors -/

/-- What an adapter can be built from and what it can stand in for. -/
structure Descriptor where
  /-- The name of the adapter. -/
  name : String
  /-- The types of object that it can be built from. -/
  adaptsFrom : NameSet
  /-- The levels of the adapter's own type. -/
  adaptsTo : Levels
deriving DecidableEq, Inhabited

namespace Descriptor

/-- Whether the adapter can be built from an object of one of the types. -/
def acceptsAny (adapter : Descriptor) (types : NameSet) : Bool := adapter.adaptsFrom.meets types

/-- Whether the adapter stands in for a type. -/
def provides (adapter : Descriptor) (type : String) : Bool := adapter.adaptsTo.any (type ∈ ·)

/-- Whether the adapter has a type at a given level. -/
def providesAt (adapter : Descriptor) (depth : Nat) (type : String) : Bool :=
  adapter.adaptsTo[depth]?.any (type ∈ ·)

/-- The descriptor of an adapter that can be built from the given types. -/
def discover {m : Type → Type} [Monad m] (types : Ancestry m) (name : String)
    (parameters : NameSet) : m (Except UnknownType Descriptor) := do
  return (← types.levels name).map fun levels => ⟨name, parameters, levels⟩

end Descriptor

/-! ## Libraries -/

/-- Adapters by name, with the precedence between them. -/
structure Library where
  /-- The descriptors, by the name they are filed under. -/
  adapters : NameMap Descriptor
  /-- The precedence between adapters. -/
  precedence : Precedence
deriving DecidableEq, Inhabited

namespace Library

/-- A library without adapters. -/
def empty : Library := ⟨∅, .none⟩

/-- File an adapter under its own name. -/
def insert (library : Library) (adapter : Descriptor) : Library :=
  { library with adapters := library.adapters.insert adapter.name adapter }

/-- The library of a list of adapters. -/
def ofList (adapters : List Descriptor) : Library := adapters.foldl insert empty

/-- The library with another precedence. -/
def withPrecedence (library : Library) (precedence : Precedence) : Library :=
  { library with precedence }

/-- The adapter filed under a name. -/
def get? (library : Library) (name : String) : Option Descriptor := library.adapters.get? name

@[simp]
theorem get?_empty (name : String) : empty.get? name = none := rfl

@[simp]
theorem get?_insert (library : Library) (adapter : Descriptor) (name : String) :
    (library.insert adapter).get? name =
      if name = adapter.name then some adapter else library.get? name :=
  NameMap.get?_insert library.adapters adapter.name name adapter

/-- Whether an adapter is filed under a name. -/
def contains (library : Library) (name : String) : Bool := library.adapters.contains name

/-- The names that adapters are filed under. -/
def names (library : Library) : NameSet := library.adapters.keys

/-- The adapters, in the order of the names they are filed under. -/
def descriptors (library : Library) : List Descriptor := library.adapters.values

/-- The number of adapters. -/
def size (library : Library) : Nat := library.adapters.size

/-- Whether there is no adapter. -/
def isEmpty (library : Library) : Bool := library.adapters.isEmpty

end Library

end AdapterWiring
