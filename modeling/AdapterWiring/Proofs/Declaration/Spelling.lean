import AdapterWiring.Proofs.Declaration.Names

/-!
# The language of declarations, as words

Which lists of words are declarations, and which declaration each of them is,
without a grammar.

* **SourceForm, DeclarationForm** — the forms of sources and declarations.
* **InLanguage** — the words of any number of declarations.
* **Spells** — the declaration that words are, built from their operands.
* **exists_spells_iff** — the words of that form are those that spell one.
-/

namespace AdapterWiring.Declaration

/-! ## Forms -/

/-- The qualified name of a class. -/
def IsClassName (word : String) : Prop := IsQualified 0 word.toList

/-- The qualified name of a field or method. -/
def IsMemberName (word : String) : Prop := IsQualified 1 word.toList

/-- The words of a source. -/
inductive SourceForm : List String → Prop
  | field {member : String} : IsMemberName member → SourceForm ["field", member]
  | fresh {name : String} : IsClassName name → SourceForm ["new", name]
  | call {member : String} : IsMemberName member → SourceForm ["call", member ++ "()"]
  | single {name : String} : IsClassName name → SourceForm ["single", name]

/-- The words of a declaration. -/
inductive DeclarationForm : List String → Prop
  | association {member : String} {source : List String} :
    IsMemberName member → SourceForm source →
      DeclarationForm ("associate" :: "field" :: member :: "with" :: source)
  | adapted {member adapter : String} {source : List String} :
    IsMemberName member → SourceForm source → IsClassName adapter →
      DeclarationForm ("associate" :: "field" :: member :: "with" :: source ++ ["using", adapter])
  | ranking {higher lower : String} : IsClassName higher → IsClassName lower →
    DeclarationForm ["declare", "precedence", higher, "over", lower]

/-- The words of any number of declarations. -/
def InLanguage (tokens : List Token) : Prop :=
  ∃ pieces : List (List Token), tokens = pieces.flatten ∧
    ∀ piece ∈ pieces, DeclarationForm (piece.map Token.word)

/-! ## Readings -/

/-- A word that names a class. -/
def NamesClass (token : Token) (operand : ClassOperand) : Prop :=
  IsClassName token.word ∧ operand = ⟨token.word, token.line⟩

/-- A name that is that of a member, cut at its last dot. -/
structure NamesMember (name : String) (line : UInt32) (operand : MemberOperand) : Prop where
  isName : IsMemberName name
  render : operand.render = name
  undotted : '.' ∉ operand.member.toList
  line : operand.line = line

/-- Words that are a target. -/
inductive SpellsTarget : List Token → Target → Prop
  | field {keyword token : Token} {operand : MemberOperand} : keyword.word = "field" →
    NamesMember token.word token.line operand → SpellsTarget [keyword, token] (.field operand)

/-- Words that are a source. -/
inductive SpellsSource : List Token → Source → Prop
  | field {keyword token : Token} {operand : MemberOperand} : keyword.word = "field" →
    NamesMember token.word token.line operand → SpellsSource [keyword, token] (.field operand)
  | fresh {keyword token : Token} {operand : ClassOperand} : keyword.word = "new" →
    NamesClass token operand → SpellsSource [keyword, token] (.fresh operand)
  | call {keyword token : Token} {name : String} {operand : MemberOperand} :
    keyword.word = "call" → token.word = name ++ "()" → NamesMember name token.line operand →
      SpellsSource [keyword, token] (.call operand)
  | single {keyword token : Token} {operand : ClassOperand} : keyword.word = "single" →
    NamesClass token operand → SpellsSource [keyword, token] (.single operand)

/-- Words that ask for an adapter. -/
inductive SpellsAdapter : List Token → ClassOperand → Prop
  | asked {keyword token : Token} {operand : ClassOperand} : keyword.word = "using" →
    NamesClass token operand → SpellsAdapter [keyword, token] operand

/-- Words that are a declaration in a file. -/
inductive Spells (file : String) : List Token → Declaration → Prop
  | association {first second : Token} {inTarget inSource : List Token} {target : Target}
      {source : Source} : first.word = "associate" → SpellsTarget inTarget target →
    second.word = "with" → SpellsSource inSource source →
      Spells file (first :: inTarget ++ second :: inSource)
        (.association ⟨target, source, none, ⟨file, target.line⟩⟩)
  | adapted {first second : Token} {inTarget inSource inAdapter : List Token} {target : Target}
      {source : Source} {adapter : ClassOperand} : first.word = "associate" →
    SpellsTarget inTarget target → second.word = "with" → SpellsSource inSource source →
    SpellsAdapter inAdapter adapter →
      Spells file (first :: inTarget ++ second :: inSource ++ inAdapter)
        (.association ⟨target, source, some adapter, ⟨file, target.line⟩⟩)
  | ranking {first second third inHigher inLower : Token} {higher lower : ClassOperand} :
    first.word = "declare" → second.word = "precedence" → NamesClass inHigher higher →
    third.word = "over" → NamesClass inLower lower →
      Spells file [first, second, inHigher, third, inLower]
        (.ranking ⟨higher, lower, ⟨file, higher.line⟩⟩)

/-! ## Forms that are read -/

theorem exists_namesMember {name : String} (isName : IsMemberName name) (line : UInt32) :
    ∃ operand, NamesMember name line operand := by
  obtain ⟨operand, found, _⟩ := exists_split?_of_isQualified isName line
  obtain ⟨render, undotted, _, _, isLine⟩ := split?_eq_some_iff.1 found
  exact ⟨operand, isName, render, undotted, isLine⟩

/-- What a name is cut into. -/
theorem NamesMember.split? {name : String} {line : UInt32} {operand : MemberOperand}
    (names : NamesMember name line operand) : MemberOperand.split? name line = some operand := by
  obtain ⟨other, found, _⟩ := exists_split?_of_isQualified names.isName line
  obtain ⟨render, undotted, _, _, isLine⟩ := split?_eq_some_iff.1 found
  -- both are the same name cut at its last dot
  obtain ⟨owner, member⟩ :=
    eq_of_render_eq (render.trans names.render.symm) undotted names.undotted
  have line : other.line = operand.line := isLine.trans names.line.symm
  have same : other = operand := by
    cases other
    cases operand
    simp_all
  rwa [same] at found

/-- The tokens of two words. -/
theorem exists_pair {piece : List Token} {first second : String}
    (words : piece.map Token.word = [first, second]) :
    ∃ keyword token, piece = [keyword, token] ∧ keyword.word = first ∧ token.word = second := by
  obtain ⟨keyword, _, rfl, isFirst, others⟩ := List.map_eq_cons_iff.1 words
  obtain ⟨token, _, rfl, isSecond, none⟩ := List.map_eq_cons_iff.1 others
  rw [List.map_eq_nil_iff.1 none]
  exact ⟨keyword, token, rfl, isFirst, isSecond⟩

theorem exists_spellsSource_iff {piece : List Token} :
    (∃ source, SpellsSource piece source) ↔ SourceForm (piece.map Token.word) := by
  constructor
  · rintro ⟨source, spells⟩
    cases spells with
    | field keyword names => simpa [keyword] using SourceForm.field names.isName
    | fresh keyword names => simpa [keyword] using SourceForm.fresh names.1
    | call keyword spelled names => simpa [keyword, spelled] using SourceForm.call names.isName
    | single keyword names => simpa [keyword] using SourceForm.single names.1
  · intro form
    generalize words : piece.map Token.word = spelled at form
    cases form with
    | @field member isName =>
      obtain ⟨keyword, token, rfl, isKeyword, rfl⟩ := exists_pair words
      obtain ⟨operand, names⟩ := exists_namesMember isName token.line
      exact ⟨_, .field isKeyword names⟩
    | fresh isName =>
      obtain ⟨keyword, token, rfl, isKeyword, rfl⟩ := exists_pair words
      exact ⟨_, .fresh isKeyword ⟨isName, rfl⟩⟩
    | call isName =>
      obtain ⟨keyword, token, rfl, isKeyword, isCall⟩ := exists_pair words
      obtain ⟨operand, names⟩ := exists_namesMember isName token.line
      exact ⟨_, .call isKeyword isCall names⟩
    | single isName =>
      obtain ⟨keyword, token, rfl, isKeyword, rfl⟩ := exists_pair words
      exact ⟨_, .single isKeyword ⟨isName, rfl⟩⟩

/-- Words are of the form of a declaration exactly if they spell one. -/
theorem exists_spells_iff {file : String} {piece : List Token} :
    (∃ declaration, Spells file piece declaration) ↔ DeclarationForm (piece.map Token.word) := by
  constructor
  · rintro ⟨declaration, spells⟩
    cases spells with
    | association first target second source =>
      have form := exists_spellsSource_iff.1 ⟨_, source⟩
      cases target with
      | field keyword names => simpa [first, keyword, second] using .association names.isName form
    | adapted first target second source adapter =>
      have form := exists_spellsSource_iff.1 ⟨_, source⟩
      cases target with
      | field keyword names =>
        cases adapter with
        | asked isUsing isClass =>
          simpa [first, keyword, second, isUsing] using .adapted names.isName form isClass.1
    | ranking first second higher third lower =>
      simpa [first, second, third] using .ranking higher.1 lower.1
  · intro form
    generalize words : piece.map Token.word = spelled at form
    cases form with
    | association isName source =>
      simp only [List.map_eq_cons_iff] at words
      obtain ⟨first, _, rfl, isFirst, keyword, _, rfl, isKeyword, token, _, rfl, rfl, second,
        inSource, rfl, isSecond, rfl⟩ := words
      obtain ⟨operand, names⟩ := exists_namesMember isName token.line
      obtain ⟨_, spellsSource⟩ := exists_spellsSource_iff.2 source
      exact ⟨_, .association isFirst (.field isKeyword names) isSecond spellsSource⟩
    | adapted isName source isClass =>
      simp only [List.map_eq_cons_iff, List.map_eq_append_iff, List.cons_append,
        List.map_eq_nil_iff] at words
      obtain ⟨first, _, rfl, isFirst, keyword, _, rfl, isKeyword, token, _, rfl, rfl, second, _,
        rfl, isSecond, inSource, _, rfl, rfl, asked, _, rfl, isAsked, adapter, _, rfl, rfl,
        rfl⟩ := words
      obtain ⟨operand, names⟩ := exists_namesMember isName token.line
      obtain ⟨_, spellsSource⟩ := exists_spellsSource_iff.2 source
      exact ⟨_, .adapted isFirst (.field isKeyword names) isSecond spellsSource
        (.asked isAsked ⟨isClass, rfl⟩)⟩
    | ranking isHigher isLower =>
      simp only [List.map_eq_cons_iff, List.map_eq_nil_iff] at words
      obtain ⟨first, _, rfl, isFirst, second, _, rfl, isSecond, higher, _, rfl, rfl, third, _, rfl,
        isThird, lower, _, rfl, rfl, rfl⟩ := words
      exact ⟨_, .ranking isFirst isSecond ⟨isHigher, rfl⟩ isThird ⟨isLower, rfl⟩⟩

end AdapterWiring.Declaration
