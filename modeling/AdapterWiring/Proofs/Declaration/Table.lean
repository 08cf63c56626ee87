import AdapterWiring.Declaration.Language
import AdapterWiring.Proofs.Grammar.Building
import AdapterWiring.Proofs.Pattern.Weight

/-!
# The table of the language

The rules of the language are those that its calls define: the texts of the operands
are patterns, and building the calls gives the grammar that declarations are read
with.

* **compile?_className, compile?_memberName, compile?_methodCall** — the patterns of
  the texts.
* **ofCalls_calls** — the grammar of the calls.
* **neverMisses** — no rule is missing where declarations are read.
-/

namespace AdapterWiring.Declaration

open Pattern Text

/-! ## Operands -/

/-- An identifier in outline. -/
def identifierOutline : List Outline :=
  [.set identifierStart.ranges, .repeated (.set identifierPart.ranges) 0 none false]

/-- An identifier with a dot after it, in outline. -/
def qualifierOutline : Outline := .row (identifierOutline ++ [.word ['.']])

/-- The part of a pattern for a qualified name, with at least a number of qualifiers and an ending. -/
def namePart (expr : Expr) (least : Nat) (ending : List Outline) : Part :=
  { expr := expr.whole
    outline := .row ([.assertion .start, .repeated qualifierOutline least none false] ++
      identifierOutline ++ ending ++ [.assertion .stop])
    height := 9 }

set_option maxRecDepth 50000 in
theorem parse?_className :
    Part.parse? (anchored classNameText).toList = some (namePart className 0 []) := by
  cbv

set_option maxRecDepth 50000 in
theorem parse?_memberName :
    Part.parse? (anchored memberNameText).toList = some (namePart memberName 1 []) := by
  cbv

set_option maxRecDepth 50000 in
theorem parse?_methodCall : Part.parse? (anchored methodCallText).toList =
    some (namePart methodCall 1 [.word ['(', ')']]) := by
  cbv

theorem ranges_identifierStart :
    identifierStart.ranges = [(0x24, 0x24), (0x41, 0x5A), (0x5F, 0x5F), (0x61, 0x7A)] := by
  cbv

set_option maxRecDepth 50000 in
theorem ranges_identifierPart :
    identifierPart.ranges = (0x24, 0x24) :: CharRange.ranked wordCharRanges := by
  cbv

theorem setWeight_identifierStart : Outline.setWeight identifierStart.ranges ≤ 500 := by
  rw [ranges_identifierStart]
  decide +kernel

theorem setWeight_identifierPart : Outline.setWeight identifierPart.ranges ≤ 140000 := by
  rw [ranges_identifierPart]
  decide +kernel

theorem rowWeight_identifierOutline : Outline.rowWeight identifierOutline ≤ 141000 := by
  have start := setWeight_identifierStart
  have part := setWeight_identifierPart
  simp only [identifierOutline, Outline.rowWeight, Outline.weight, Option.getD_none, Nat.max_self]
  -- only the two bounds matter, not what the weights come to
  generalize Outline.setWeight identifierStart.ranges = startWeight at start ⊢
  generalize Outline.setWeight identifierPart.ranges = partWeight at part ⊢
  omega

theorem weight_qualifierOutline : qualifierOutline.weight ≤ 142000 := by
  have identifier := rowWeight_identifierOutline
  have dot : Outline.rowWeight [.word ['.']] = 36 := rfl
  have row := Outline.weight_row_le (identifierOutline ++ [.word ['.']])
  rw [Outline.rowWeight_append, dot] at row
  rw [qualifierOutline]
  omega

/-- The part of a qualified name is light where what it ends with is. -/
theorem weight_namePart (expr : Expr) {least : Nat} (le : least ≤ 1) {ending : List Outline}
    (light : Outline.rowWeight ending ≤ 1000) :
    (namePart expr least ending).outline.weight + 216 ≤ Footprint.limit := by
  have qualifiers : (max least 0 + 1) * (qualifierOutline.weight + 44) ≤ 2 * 142044 :=
    Nat.mul_le_mul (by omega) (Nat.add_le_add_right weight_qualifierOutline 44)
  have identifier := rowWeight_identifierOutline
  have row := Outline.weight_row_le ([.assertion .start, .repeated qualifierOutline least none false] ++
    identifierOutline ++ ending ++ [.assertion .stop])
  simp only [Outline.rowWeight_append, Outline.rowWeight, Outline.weight, Option.getD_none] at row
  rw [namePart, Footprint.limit]
  dsimp only
  omega

theorem compile?_className :
    compile? classNameText = some ⟨anchored classNameText, .whole className⟩ :=
  compile?_eq_some parse?_className (by decide) (weight_namePart className (by decide) (by decide))

theorem compile?_memberName :
    compile? memberNameText = some ⟨anchored memberNameText, .whole memberName⟩ :=
  compile?_eq_some parse?_memberName (by decide)
    (weight_namePart memberName (by decide) (by decide))

theorem compile?_methodCall :
    compile? methodCallText = some ⟨anchored methodCallText, .whole methodCall⟩ :=
  compile?_eq_some parse?_methodCall (by decide)
    (weight_namePart methodCall (by decide) (by decide))

/-! ## Rules -/

open Grammar

/-- The names of the rules. -/
def ruleNames : NameSet := .ofList (calls.map Call.name)

/-- The rule that a call defines, with its name. -/
def compileCall (call : Call) : Except GrammarError (String × Rule) :=
  (compileRule ruleNames call.name call.definition).map ((call.name, ·))

/-- The rules that are put together from others. -/
theorem compiled_clauses : (calls.take 12).mapM compileCall = .ok (rules.take 12) := by
  cbv

/-- The rules of the operands. -/
theorem compiled_operands : (calls.drop 12).mapM compileCall = .ok (rules.drop 12) := by
  simp only [calls, List.drop, List.mapM_cons, List.mapM_nil, compileCall, compileRule, Call.name,
    Call.definition, compile?_className, compile?_memberName, compile?_methodCall]
  rfl

/-- The rules of the language are what its calls come to. -/
theorem ofCalls_calls : ofCalls calls = .ok grammar := by
  have distinct : firstRepeated? ∅ (calls.map Call.name) = none := by cbv
  have compiled : calls.mapM compileCall = .ok rules := by
    rw [← List.take_append_drop 12 calls, List.mapM_append, compiled_clauses, compiled_operands]
    rfl
  rw [ofCalls, build, map_fst_entries, distinct]
  dsimp only
  rw [List.mapM_map]
  change (calls.mapM compileCall >>= _) = _
  rw [compiled]
  rfl

/-- Where declarations are read, no rule is missing. -/
theorem neverMisses (tokens : List Token) : grammar.NeverMisses start tokens := by
  refine (closed_of_build ofCalls_calls).neverMisses ?_ tokens
  rw [mem_names_of_build ofCalls_calls, map_fst_entries]
  exact List.mem_cons_self ..

end AdapterWiring.Declaration
