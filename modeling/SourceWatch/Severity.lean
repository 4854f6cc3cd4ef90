import SourceWatch.Text.Lowercase

/-!
# Severities

Main definitions:

* `Severity`: the four severities, `Severity.label` and `Severity.ofLabel?` their written forms.
* `Severity.ofKeyword`: the severity that a keyword has unless it is overridden.
-/

namespace SourceWatch

/-- How serious a finding is. -/
inductive Severity where
  | critical
  | high
  | medium
  | low
  deriving DecidableEq

namespace Severity

/-- The written form of a severity. -/
def label : Severity → String
  | critical => "critical"
  | high => "high"
  | medium => "medium"
  | low => "low"

/-- The severity with a given written form. -/
def ofLabel? (s : String) : Option Severity :=
  [critical, high, medium, low].find? (·.label = s)

/-- The written form in capitals. -/
def capitals : Severity → String
  | critical => "CRITICAL"
  | high => "HIGH"
  | medium => "MEDIUM"
  | low => "LOW"

theorem ofLabel?_label (s : Severity) : ofLabel? s.label = some s := by
  cases s <;> decide

/-- The keywords that name malicious software. -/
def criticalKeywords : List String :=
  ["malware", "backdoor", "keylogger", "rootkit", "trojan", "virus"]

/-- The keywords that name external platforms. -/
def highKeywords : List String :=
  ["firebase", "googleapis", "genai", "openai", "anthropic"]

/-- The severity of a keyword, whatever its case. -/
def ofKeyword (keyword : String) : Severity :=
  let keyword := Text.lowerString keyword
  if criticalKeywords.contains keyword then critical
  else if highKeywords.contains keyword then high
  else medium

end Severity

end SourceWatch
