import AdapterWiring.Proofs.Text.Words
import Mathlib.Tactic.Common

/-!
# The lines of a text

The words of a text put below another are those that it has by itself, as many
lines further down as stand above it.

* **newlines** — how many lines end in a text.
* **Token.mapLine** — a word on another line.
* **tokenize_append** — the words of two texts, one below the other.
* **toNat_line_of_mem_tokenize** — no word stands below the last line.
-/

namespace AdapterWiring

/-- How many lines end in a text. -/
def Text.newlines (text : String) : Nat := text.toList.count '\n'

namespace Token

open Text

/-- A token on another line. -/
def mapLine (change : UInt32 → UInt32) (token : Token) : Token :=
  { token with line := change token.line }

theorem map_mapLine_ofLine (change : UInt32 → UInt32) (line : UInt32) (text : List Char) :
    (ofLine line text).map (mapLine change) = ofLine (change line) text := by
  unfold ofLine
  rw [List.map_map]
  rfl

theorem ofLines_append (line : UInt32) (front back : List (List Char)) :
    ofLines line (front ++ back) =
      ofLines line front ++ ofLines (line + .ofNat front.length) back := by
  induction front generalizing line with
  | nil => simp [ofLines]
  | cons text front ih =>
    have next : line + 1 + .ofNat front.length = line + .ofNat (front.length + 1) := by
      rw [UInt32.ofNat_add, UInt32.add_assoc, UInt32.add_comm 1]
      rfl
    rw [List.cons_append, ofLines, ofLines, ih, next, List.append_assoc, List.length_cons]

theorem ofLines_add (line more : UInt32) (texts : List (List Char)) :
    ofLines (line + more) texts = (ofLines line texts).map (mapLine (· + more)) := by
  induction texts generalizing line with
  | nil => rfl
  | cons text texts ih =>
    have next : line + more + 1 = line + 1 + more := by
      rw [UInt32.add_assoc, UInt32.add_comm more, UInt32.add_assoc]
    rw [ofLines, ofLines, List.map_append, map_mapLine_ofLine, next, ih]

theorem length_lines (text : String) :
    (pieces (· == '\n') text.toList).length = newlines text + 1 :=
  length_pieces _ _

theorem newlines_append (front back : String) :
    newlines (front ++ "\n" ++ back) = newlines front + 1 + newlines back := by
  simp only [newlines, String.toList_append, List.count_append]
  rfl

/-- **Words below others.** A text below another has its words as many lines further down as the
other takes. -/
theorem tokenize_append (front back : String) :
    tokenize (front ++ "\n" ++ back) =
      tokenize front ++ (tokenize back).map (mapLine (· + .ofNat (newlines front + 1))) := by
  have spelled : (front ++ "\n" ++ back).toList = front.toList ++ '\n' :: back.toList := by simp
  unfold tokenize
  rw [spelled, pieces_append (by decide), ofLines_append, length_lines, ofLines_add]

theorem toNat_line_of_mem_ofLines {line : UInt32} {texts : List (List Char)}
    (few : line.toNat + texts.length ≤ UInt32.size) :
    ∀ token ∈ ofLines line texts, token.line.toNat < line.toNat + texts.length := by
  induction texts generalizing line with
  | nil => exact fun token member => nomatch member
  | cons text texts ih =>
    intro token member
    rw [List.length_cons] at few ⊢
    rcases List.mem_append.1 member with here | later
    · obtain ⟨word, _, rfl⟩ := List.mem_map.1 here
      show line.toNat < _
      omega
    · by_cases some : texts = []
      · subst some
        cases later
      · -- there is a line below, so counting on does not wrap around
        have positive := List.length_pos_iff.2 some
        have next : (line + 1).toNat = line.toNat + 1 := by
          rw [UInt32.toNat_add]
          exact Nat.mod_eq_of_lt (by show line.toNat + 1 < UInt32.size; omega)
        have bound := ih (by omega) token later
        omega

/-- The words of a text stand on its lines, as long as there are numbers for these. -/
theorem toNat_line_of_mem_tokenize {text : String} (few : newlines text + 1 < UInt32.size) :
    ∀ token ∈ tokenize text, token.line.toNat ≤ newlines text + 1 := by
  intro token member
  have one : (1 : UInt32).toNat = 1 := rfl
  have fits : (1 : UInt32).toNat + (pieces (· == '\n') text.toList).length ≤ UInt32.size := by
    rw [length_lines, one]
    omega
  have bound := toNat_line_of_mem_ofLines fits token member
  rw [length_lines, one] at bound
  omega

end Token

end AdapterWiring
