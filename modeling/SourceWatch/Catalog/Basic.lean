import SourceWatch.Association
import SourceWatch.Catalog.Rule
import SourceWatch.Text.Blank
import SourceWatch.Text.Quoted

/-!
# The catalog

A catalog holds keyword rules and structural rules. It is built from configured keywords: each is
trimmed and lower-cased, blank ones are left out and repeats are dropped. A keyword has its stock
severity unless an override names it.

Main definitions:

* `Catalog`: the rules.
* `normalKeyword`: the normal form of a configured keyword.
* `Catalog.build`: the catalog of configured keywords and overrides.
* `Catalog.ofSettings`: the same with overrides as written, which may name no severity.
-/

namespace SourceWatch

open Text

/-- The rules that a detector applies. -/
structure Catalog where
  keywordRules : List KeywordRule
  structuralRules : List StructuralRule

/-- The normal form of a configured keyword. -/
def normalKeyword (s : String) : String :=
  String.ofList (lower (strip s.toList))

namespace Catalog

/-- The number of rules. -/
def size (c : Catalog) : Nat :=
  c.keywordRules.length + c.structuralRules.length

/-- The overrides by lower-cased keyword; of two that collide the later one stays. -/
def overrideTable (overrides : List (String × Severity)) : List (String × Severity) :=
  Association.ofPairs (overrides.map fun o => (lowerString o.1, o.2))

/-- The severity of a keyword under a table of overrides. -/
def severityOf (table : List (String × Severity)) (keyword : String) : Severity :=
  (Association.get? keyword table).getD (Severity.ofKeyword keyword)

/-- The normal forms of the configured keywords that are not blank, each once. -/
def normalKeywords (keywords : List String) : List String :=
  ((keywords.map normalKeyword).filter (· ≠ "")).eraseDups

/-- The catalog of configured keywords and overrides. -/
def build (keywords : List String) (overrides : List (String × Severity)) : Catalog :=
  let table := overrideTable overrides
  { keywordRules := (normalKeywords keywords).map fun k => ⟨k, severityOf table k⟩
    structuralRules := SourceWatch.structuralRules }

/-- The catalog without configuration. -/
def default : Catalog :=
  build defaultKeywords []

/-- The message about a word that is no severity. -/
def invalidSeverity (word : String) : String :=
  s!"{quote word} is not a valid Severity"

/-- The severities of overrides as they are written, or the first word that is none. -/
def readOverrides : List (String × String) → Except String (List (String × Severity))
  | [] => .ok []
  | (keyword, word) :: rest =>
    match Severity.ofLabel? word with
    | none => .error (invalidSeverity word)
    | some severity => (readOverrides rest).map ((keyword, severity) :: ·)

/-- The catalog of optional keywords and of overrides as they are written, in the order of writing. -/
def ofSettings (keywords : Option (List String)) (overrides : List (String × String)) :
    Except String Catalog :=
  (readOverrides (Association.ofPairs overrides)).map (build (keywords.getD defaultKeywords))

end Catalog

end SourceWatch
