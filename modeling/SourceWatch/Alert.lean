import SourceWatch.Finding

/-!
# The wording of alerts

Main definitions:

* `Finding.record`: the threat record of a finding, line by line, and `Finding.recordText` its text.
* `Finding.utterance`: the sentence that announces a finding aloud.
* `Finding.shortMessage`: the text message about a finding.
-/

namespace SourceWatch.Finding

/-- The lines of the threat record of a finding. The line about the keyword is left out if there is
none. -/
def record (f : Finding) : List String :=
  let keyword := match f.matchedKeyword with
    | some keyword => if keyword = "" then [] else [s!"   Keyword: {keyword}"]
    | none => []
  ["THREAT DETECTED:",
    s!"   Type: {f.category}",
    s!"   Severity: {f.severity.capitals}",
    s!"   File: {f.filePath}",
    s!"   Message: {f.message}"] ++ keyword ++ [s!"   Time: {f.detectedAt.inRecord}"]

/-- The threat record of a finding. -/
def recordText (f : Finding) : String :=
  "\n".intercalate f.record

/-- The sentence that announces a finding aloud. -/
def utterance (f : Finding) : String :=
  s!"Security threat detected: {f.category}. Severity level {f.severity.label}. " ++
    s!"Check file {f.fileName}."

/-- The text message about a finding. -/
def shortMessage (f : Finding) : String :=
  s!"Security Alert: [{f.severity.capitals}] {f.category} detected in {f.fileName}. {f.message}"

end SourceWatch.Finding
