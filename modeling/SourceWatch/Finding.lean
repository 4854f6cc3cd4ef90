import SourceWatch.Files.Path
import SourceWatch.Instant
import SourceWatch.Json.Basic
import SourceWatch.Severity

/-!
# Findings

A finding is one match of a rule in one file, or an anomaly that a probe reported. Two findings with
the same file, category and keyword count as repeats of each other.

Main definitions:

* `Finding`, `Anomaly`: findings and anomalies.
* `Stamp`: what the circumstances contribute to a finding.
* `RepeatKey`, `Finding.key`: what makes two findings repeats.
* `Finding.toJson`, `Anomaly.toJson`: their documents.
-/

namespace SourceWatch

/-- The category of keyword matches. -/
def keywordCategory : String := "Suspicious Code Pattern"

/-- The category of hardcoded credentials. -/
def credentialCategory : String := "Credential Exposure"

/-- The category of dangerous calls and addresses. -/
def executionCategory : String := "Suspicious Code Execution"

/-- The category of test alerts. -/
def testCategory : String := "Test Alert"

/-- One match of a rule in one file. -/
structure Finding where
  id : String
  category : String
  severity : Severity
  filePath : String
  matchedKeyword : Option String
  message : String
  detectedAt : Instant
  cycle : Int
  rule : Option String
  deriving DecidableEq

/-- What the circumstances contribute to a finding: a fresh identifier, the time and the cycle. -/
structure Stamp where
  id : String
  time : Instant
  cycle : Int
  deriving DecidableEq

/-- What makes two findings repeats of each other. -/
structure RepeatKey where
  filePath : String
  category : String
  keyword : Option String
  deriving DecidableEq

/-- Something unusual that a probe noticed outside the files. -/
structure Anomaly where
  category : String
  severity : Severity
  message : String
  source : String
  deriving DecidableEq

namespace Finding

/-- The key that repeats of a finding share. -/
def key (f : Finding) : RepeatKey :=
  ⟨f.filePath, f.category, f.matchedKeyword⟩

/-- The name of the file that a finding is about. -/
def fileName (f : Finding) : String :=
  (Path.parse f.filePath).fileName

/-- The finding that reports an anomaly. -/
def ofAnomaly (stamp : Stamp) (a : Anomaly) : Finding :=
  { id := stamp.id
    category := a.category
    severity := a.severity
    filePath := a.source
    matchedKeyword := none
    message := a.message
    detectedAt := stamp.time
    cycle := stamp.cycle
    rule := none }

/-- The document of a finding. -/
def toJson (f : Finding) : Json :=
  .record
    [("id", .string f.id),
      ("category", .string f.category),
      ("severity", .string f.severity.label),
      ("file_path", .string f.filePath),
      ("matched_keyword", .string? f.matchedKeyword),
      ("message", .string f.message),
      ("detected_at", .string f.detectedAt.inDocument),
      ("scan_cycle_id", .int f.cycle),
      ("rule", .string? f.rule)]

end Finding

/-- The document of an anomaly. -/
def Anomaly.toJson (a : Anomaly) : Json :=
  .record
    [("category", .string a.category),
      ("severity", .string a.severity.label),
      ("message", .string a.message),
      ("source", .string a.source)]

/-- A key as a list of its parts. -/
def RepeatKey.toJson (k : RepeatKey) : Json :=
  .array [.string k.filePath, .string k.category, .string? k.keyword]

end SourceWatch
