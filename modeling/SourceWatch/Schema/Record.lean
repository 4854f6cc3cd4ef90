import SourceWatch.Finding
import SourceWatch.Schema.Check

/-!
# Findings and anomalies from outside

Main definitions:

* `Finding.ofFields`: the finding that named fields describe.
* `Anomaly.ofFields`: the anomaly that named fields describe.
* `Finding.frozen`: the issue of changing a finding.
-/

namespace SourceWatch

open Text

/-- The source of an anomaly that does not tell it. -/
def systemSource : String := "<system>"

/-- The finding that named fields describe; what they leave open comes from the stamp. -/
def Finding.ofFields (stamp : Stamp) (fields : List (CodeText × Json)) : Checked Finding :=
  let make (id category : String) (severity : Severity) (filePath : String)
      (matchedKeyword : Option String) (message : String) (cycle : Int) (rule : Option String) :
      Finding :=
    ⟨id, category, severity, filePath, matchedKeyword, message, stamp.time, cycle, rule⟩
  ((((((((Checked.valid make).ap
    (Check.fieldOr fields "id" stamp.id Check.text)).ap
    (Check.field fields "category" Check.text)).ap
    (Check.field fields "severity" Check.severity)).ap
    (Check.field fields "file_path" Check.text)).ap
    (Check.fieldOr fields "matched_keyword" none (Check.orNull Check.text))).ap
    (Check.field fields "message" Check.text)).ap
    (Check.fieldOr fields "scan_cycle_id" stamp.cycle Check.integer)).ap
    (Check.fieldOr fields "rule" none (Check.orNull Check.text))

/-- The anomaly that named fields describe. -/
def Anomaly.ofFields (fields : List (CodeText × Json)) : Checked Anomaly :=
  ((((Checked.valid Anomaly.mk).ap
    (Check.field fields "category" Check.text)).ap
    (Check.field fields "severity" Check.severity)).ap
    (Check.field fields "message" Check.text)).ap
    (Check.fieldOr fields "source" systemSource Check.text)

/-- The issue of giving a field of a finding another value. -/
def Finding.frozen (name : String) (given : Json) : Issue :=
  ⟨.frozen, [.field name], given⟩

end SourceWatch
