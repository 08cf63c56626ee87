import AdapterWiring.Pattern.CharSet
import AdapterWiring.Text.Script
import AdapterWiring.Text.ScriptExtension

/-!
# Characters of scripts

* **script?** — the characters of a script.
* **extendedScript?** — the characters that are used with a script.
-/

namespace AdapterWiring.Pattern

open Text

namespace CharSet

/-- The characters of a script. -/
def script? (name : String) : Option CharSet :=
  (scripts.find? (·.1.contains name)).map (.listed ·.2)

/-- The characters of several scripts. -/
def ofScripts (names : List String) : CharSet := unions (names.filterMap script?)

/-- The characters that are used with a script. What all scripts share is what is not used with some
of them only. -/
def extendedScript? (name : String) : Option CharSet :=
  (scripts.find? (·.1.contains name)).map fun (names, ranges) =>
    if names.contains "common" || names.contains "inherited" then
      diff (.listed ranges) (unions (scriptExtensions.map (.listed ·.2)))
    else
      let others := scriptExtensions.filter (names.contains ·.1)
      .union (.listed ranges) (unions (others.map (.listed ·.2)))

end CharSet

end AdapterWiring.Pattern
