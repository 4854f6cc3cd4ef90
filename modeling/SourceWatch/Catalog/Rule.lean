import SourceWatch.Catalog.Pattern
import SourceWatch.Finding

/-!
# Rules

Main definitions:

* `KeywordRule`: a word that is looked for as it stands.
* `StructuralRule`: a pattern that is looked for, at most once a file.
* `defaultKeywords`, `structuralRules`: the stock of the catalog.
-/

namespace SourceWatch

/-- A word that is looked for in lower-cased text. -/
structure KeywordRule where
  keyword : String
  severity : Severity
  deriving DecidableEq

/-- A pattern that is looked for in lower-cased text. -/
structure StructuralRule where
  name : String
  category : String
  severity : Severity
  message : String
  pattern : Pattern

/-- The keywords that are looked for unless configured otherwise. -/
def defaultKeywords : List String :=
  ["google", "firebase", "gemini", "meta", "genai", "azure", "vertex", "replit", "googleapis", "gcp",
    "aws", "openai", "anthropic", "malware", "backdoor", "keylogger", "rootkit", "trojan", "virus"]

/-- A rule about hardcoded credentials. -/
def credentialRule (name : String) (pattern : Pattern) : StructuralRule :=
  ⟨name, credentialCategory, .critical, "Potential hardcoded credentials detected", pattern⟩

/-- A rule about dangerous calls and addresses. -/
def executionRule (name : String) (pattern : Pattern) : StructuralRule :=
  ⟨name, executionCategory, .high, "Potentially dangerous code execution pattern detected", pattern⟩

/-- The structural rules, in the order in which they are tried. -/
def structuralRules : List StructuralRule :=
  [credentialRule "hardcoded_password" ⟨false, [Atom.assignment "password" 8]⟩,
    credentialRule "hardcoded_api_key"
      ⟨true, ["key", "apikey", "api_key", "api-key"].map (Atom.assignment · 20)⟩,
    credentialRule "hardcoded_secret" ⟨false, [Atom.assignment "secret" 16]⟩,
    credentialRule "hardcoded_token" ⟨false, [Atom.assignment "token" 20]⟩,
    executionRule "onion_url" ⟨false, [Atom.onionAddress "http", Atom.onionAddress "https"]⟩,
    executionRule "eval_call" ⟨false, [Atom.call "eval"]⟩,
    executionRule "exec_call" ⟨false, [Atom.call "exec"]⟩,
    executionRule "shell_exec_call" ⟨false, [Atom.call "shell_exec"]⟩]

/-- The names of the structural rules that a text satisfies. -/
def satisfiedRules (cs : List Char) : List String :=
  (structuralRules.filter (·.pattern.search cs)).map (·.name)

end SourceWatch
