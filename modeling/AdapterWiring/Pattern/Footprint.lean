import AdapterWiring.Pattern.Outline
import AdapterWiring.Text.ByteRange
import Std.Data.HashMap

/-!
# The size of a pattern

A pattern is accepted only if the automata for it, which read the bytes of a
word, are small enough: one reads them forwards, the other backwards. Nothing is
kept of an automaton but its footprint.

* **Footprint** — the number of states, and the bytes that edges take up.
* **Memory** — the parts of a set of characters that can still be shared.
* **grow** — the footprint after the states for an outline.
* **fits** — whether both automata stay within the limit.
-/

namespace AdapterWiring.Pattern

open Text

/-! ## Footprints -/

/-- The size of an automaton in progress. -/
structure Footprint where
  /-- The number of states, which is also the number of the next one. -/
  states : Nat
  /-- The bytes that the edges of states with more than one take up. -/
  edges : Nat
deriving DecidableEq

namespace Footprint

/-- The bytes of a state. -/
def stateSize : Nat := 32

/-- The bytes of an edge for a range of bytes. -/
def rangeSize : Nat := 8

/-- The bytes of an edge that reads nothing. -/
def linkSize : Nat := 4

/-- The most bytes of an automaton. -/
def limit : Nat := 0xA00000

/-- The bytes of an automaton. -/
def bytes (size : Footprint) : Nat := stateSize * size.states + size.edges

/-- The size with further states and bytes of edges, if it stays within the limit. -/
def add (states edges : Nat) (size : Footprint) : Option Footprint :=
  let next : Footprint := ⟨size.states + states, size.edges + edges⟩
  if next.bytes ≤ limit then some next else none

/-- A step taken a number of times. -/
def replicate (step : Footprint → Option Footprint) : Nat → Footprint → Option Footprint
  | 0, size => some size
  | times + 1, size => (step size).bind (replicate step times)

end Footprint

/-! ## Shared parts -/

/-- A number between 0 and `places` that depends on all of a list of numbers. -/
def placeOf (places : Nat) (key : List Nat) : Nat :=
  (key.foldl (fun hash part => (hash ^^^ UInt64.ofNat part) * 1099511628211)
    14695981039346656037).toNat % places

/-- States made for a set of characters, which can be used again. There is a fixed number of places
for them, and a state takes the place of the one before it with the same place. -/
structure Memory where
  /-- The number of places. -/
  places : Nat
  /-- What each taken place holds: what describes a state, and the number of that state. -/
  taken : Std.HashMap Nat (List Nat × Nat)

namespace Memory

/-- A memory without states. -/
def empty (places : Nat) : Memory := ⟨places, ∅⟩

/-- A new state with a description, remembered at a place. -/
def fresh (memory : Memory) (place : Nat) (key : List Nat) (edges : Nat) (size : Footprint) :
    Option (Nat × Memory × Footprint) :=
  (size.add 1 edges).map fun next =>
    (size.states, { memory with taken := memory.taken.insert place (key, size.states) }, next)

/-- The number of the state with a description: one in the memory, or else the next new one, whose
edges take up some bytes. -/
def state (memory : Memory) (key : List Nat) (edges : Nat) (size : Footprint) :
    Option (Nat × Memory × Footprint) :=
  let place := placeOf memory.places key
  match memory.taken.get? place with
  | some (key', number) =>
    if key = key' then some (number, memory, size) else memory.fresh place key edges size
  | none => memory.fresh place key edges size

end Memory

/-! ## Sets read forwards -/

/-- An edge to a given state. -/
structure Edge where
  /-- The bytes it reads. -/
  range : ByteRange
  /-- The state it leads to. -/
  target : Nat

/-- A state whose last edge still leads to a state in progress. -/
structure Branching where
  /-- The edges before the last, in reverse. -/
  edges : List Edge
  /-- The bytes of the last edge. -/
  last : ByteRange

/-- Complete the states on a path from the first to the last, which leads to `target`. -/
def complete (target : Nat) :
    List Branching → Memory → Footprint → Option (Nat × Memory × Footprint)
  | [], memory, size => some (target, memory, size)
  | first :: path, memory, size => do
    let (next, memory, size) ← complete target path memory size
    let edges := (⟨first.last, next⟩ :: first.edges).reverse
    memory.state (edges.flatMap fun edge => [edge.range.1, edge.range.2, edge.target])
      (Footprint.rangeSize * edges.length) size

/-- The path after a further row of byte ranges. It follows the path as long as the ranges agree;
the states of the old path after that are complete. -/
def extend (target : Nat) : List Branching → List ByteRange → Memory → Footprint →
    Option (List Branching × Memory × Footprint)
  | [], row, memory, size => some (row.map (⟨[], ·⟩), memory, size)
  | first :: path, [], memory, size => some (first :: path, memory, size)
  | first :: path, range :: row, memory, size =>
    if first.last = range then do
      let (path, memory, size) ← extend target path row memory size
      return (first :: path, memory, size)
    else do
      let (next, memory, size) ← complete target path memory size
      return (⟨⟨first.last, next⟩ :: first.edges, range⟩ :: row.map (⟨[], ·⟩), memory, size)

/-- The size after the states that read the bytes of a character of a set, given by rows in
increasing order. Equal states with equal edges are shared. -/
def readForwards (rows : List (List ByteRange)) (size : Footprint) : Option Footprint := do
  let target := size.states
  let start : List Branching × Memory × Footprint :=
    ([], Memory.empty 10000, ← size.add 1 0)
  let (path, memory, size) ← rows.foldlM (fun (path, memory, size) row =>
    extend target path row memory size) start
  let (_, _, size) ← complete target path memory size
  return size

/-! ## Sets read backwards -/

/-- The size after the states that read the bytes of a character of a set from the last to the
first. Rows that start with the same ranges share the states for them. -/
def readBackwards (rows : List (List ByteRange)) (size : Footprint) : Option Footprint := do
  let target := size.states + 1
  let start : Memory × Footprint := (Memory.empty 1000, ← size.add 2 0)
  let (_, size) ← rows.foldlM (fun (memory, size) row => do
    let (_, memory, size) ← row.foldlM (fun (next, memory, size) (low, high) =>
      Memory.state memory [next, low, high] 0 size) (target, memory, size)
    return (memory, ← size.add 0 Footprint.linkSize)) start
  return size

/-! ## Choices of words -/

/-- Words by their bytes, in the order in which they are tried. -/
inductive Trie where
  /-- No word. -/
  | done
  /-- The words that start with a byte, and the further ones. -/
  | byte (first : Nat) (words further : Trie)
  /-- The empty word, and the further ones. -/
  | stop (further : Trie)

namespace Trie

/-- Whether the empty word is among the words. -/
def hasStop : Trie → Bool
  | done => false
  | byte _ _ further => further.hasStop
  | stop _ => true

/-- Whether there is no word but the empty one. -/
def isLeaf : Trie → Bool
  | done => true
  | byte _ _ _ => false
  | stop further => further.isLeaf

/-- The words of one word. -/
def ofWord : List Nat → Trie
  | [] => stop done
  | first :: rest => byte first (ofWord rest) done

/-- The words with the empty word behind them. -/
def close : Trie → Trie
  | done => stop done
  | byte first words further => byte first words further.close
  | stop further => stop further.close

/-- The words with a further one behind them. Words after the last empty one are kept in order. -/
def insert : List Nat → Trie → Trie
  | [], trie => if trie.isLeaf && trie.hasStop then trie else trie.close
  | word, done => ofWord word
  | word, stop further => stop (further.insert word)
  | first :: rest, byte other words further =>
    if further.hasStop || other < first then byte other words (further.insert (first :: rest))
    else if first = other then byte other (words.insert rest) further
    else byte first (ofWord rest) (byte other words further)

/-- The numbers of bytes between the empty words. -/
def chunks : Trie → List Nat
  | done => [0]
  | byte _ _ further => (further.chunks.headD 0 + 1) :: further.chunks.tail
  | stop further => 0 :: further.chunks

/-- The states and the bytes of edges for the choice between chunks. -/
def fork (trie : Trie) : Nat × Nat :=
  let sizes := trie.chunks.filter (0 < ·)
  let links := sizes.length + (trie.chunks.length - 1)
  (sizes.length + 1,
    sizes.foldl (fun bytes count =>
        if count = 1 then bytes else bytes + Footprint.rangeSize * count) 0 +
      Footprint.linkSize * links)

/-- The states and the bytes of edges for what follows the first bytes. -/
def beneath : Trie → Nat × Nat
  | done => (0, 0)
  | byte _ words further =>
    let (states, edges) := further.beneath
    if words.isLeaf then (states, edges)
    else (states + words.fork.1 + words.beneath.1, edges + words.fork.2 + words.beneath.2)
  | stop further => further.beneath

end Trie

namespace Outline

/-- The words of a choice of words. -/
def words? : Outline → Option (List (List Char))
  | alt (word chars) rest => rest.words?.map (chars :: ·)
  | word chars => some [chars]
  | _ => none

/-- The bytes of characters. -/
def bytesOf (chars : List Char) : List Nat := chars.flatMap fun c => utf8Bytes c.toNat

/-- The bytes of some words, in the order in which they are read. -/
def trieOf (backwards : Bool) (words : List (List Char)) : Trie :=
  words.foldl (fun trie chars =>
    trie.insert (if backwards then (bytesOf chars).reverse else bytesOf chars)) Trie.done

/-- The size after the states for a choice of words. -/
def growWords (backwards : Bool) (words : List (List Char)) (size : Footprint) :
    Option Footprint :=
  let trie := trieOf backwards words
  size.add (1 + trie.fork.1 + trie.beneath.1) (trie.fork.2 + trie.beneath.2)

/-- The size after the states for a set. -/
def growSet (backwards : Bool) (ranges : List CharRange) (size : Footprint) : Option Footprint :=
  if ranges.all fun (_, high) => high < 0x80 then
    size.add 2 (Footprint.rangeSize * ranges.length)
  else
    let rows := ranges.flatMap fun (low, high) => byteRows (ofRank low, ofRank high)
    if backwards then readBackwards rows size else readForwards rows size

/-! ## Outlines -/

/-- The bytes of the edge from where an outline ends to what follows it: it is stored by itself
where the outline ends with a choice between going on and going back. -/
def tie (backwards : Bool) : Outline → Nat
  | repeated body least most _ =>
    match most with
    | none => if 0 < least || body.consumes then Footprint.linkSize else 0
    | some bound => if least = bound then body.tie backwards else 0
  | capture _ body => if backwards then body.tie backwards else 0
  | seq first rest => if backwards then first.tie backwards else rest.tie backwards
  | _ => 0

/-- The size after the states for a repetition. -/
def growRepeated (body : Footprint → Option Footprint) (tie : Nat) (consumes : Bool)
    (least : Nat) (most : Option Nat) (size : Footprint) : Option Footprint :=
  let tied (size : Footprint) : Option Footprint := do (← body size).add 0 tie
  match most with
  | none =>
    if 0 < least then do (← Footprint.replicate tied least size).add 1 Footprint.linkSize
    else if consumes then do (← tied (← size.add 1 0)).add 0 Footprint.linkSize
    else do (← tied size).add 3 (4 * Footprint.linkSize)
  | some most =>
    if least = most then do body (← Footprint.replicate tied (least - 1) size)
    else do
      let size ← size.add (if least = 0 && most ≠ 1 then 1 else 0) 0
      let size ← Footprint.replicate tied least size
      let size ← size.add (if least = 0 && most = 1 then 0 else 1) 0
      let size ← Footprint.replicate (fun size => do
        (← tied (← size.add 1 0)).add 0 (2 * Footprint.linkSize)) (most - least) size
      size.add (if least = 0 && most = 1 then 1 else 0) 0

/-- The size after the states for an outline. Of a choice, `branch` branches have come before. -/
def grow (backwards : Bool) : Nat → Outline → Footprint → Option Footprint
  | _, empty, size => size.add 1 0
  | _, word chars, size => size.add (bytesOf chars).length 0
  | _, set ranges, size => growSet backwards ranges size
  | _, assertion _, size => size.add 1 0
  | _, repeated body least most _, size =>
    growRepeated (grow backwards 0 body) (body.tie backwards) body.consumes least most size
  | _, capture _ body, size =>
    if backwards then grow backwards 0 body size
    else do (← grow backwards 0 body (← size.add 1 0)).add 1 (body.tie backwards)
  | _, seq first rest, size =>
    if backwards then do
      grow backwards 0 first (← (← grow backwards 0 rest size).add 0 (rest.tie backwards))
    else do grow backwards 0 rest (← (← grow backwards 0 first size).add 0 (first.tie backwards))
  | branch, alt first rest, size =>
    match if branch = 0 then (alt first rest).words? else none with
    | some words => growWords backwards words size
    | none => do
      let size ← grow backwards 0 first size
      let size ← size.add (if branch = 1 then 2 else 0)
        (first.tie backwards + Footprint.linkSize)
      let size ← grow backwards (branch + 1) rest size
      match rest with
      | alt _ _ => some size
      | _ => size.add (if branch = 0 then 2 else 0) (rest.tie backwards + Footprint.linkSize)

/-- The size of one automaton. Where matches need not start (or, backwards, end) where the word
does, it has a loop that skips bytes first; forwards, the whole match is captured. -/
def automaton? (backwards : Bool) (outline : Outline) : Option Footprint := do
  let size : Footprint := ⟨0, 0⟩
  let skips := !if backwards then outline.atStop else outline.atStart
  let size ← size.add (if skips then 3 else 1)
    (if skips then Footprint.rangeSize + 2 * Footprint.linkSize else 0)
  let size ← grow backwards 0 (if backwards then outline else .capture 0 outline) size
  size.add 1 (if backwards then outline.tie backwards else 0)

/-- Whether both automata for an outline stay within the limit. -/
def fits (outline : Outline) : Bool :=
  (automaton? false outline).isSome && (automaton? true outline).isSome

end Outline

end AdapterWiring.Pattern
