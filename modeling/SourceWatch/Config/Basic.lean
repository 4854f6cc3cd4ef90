import SourceWatch.Catalog.Rule
import SourceWatch.Detector
import SourceWatch.Files.Walk
import SourceWatch.Ledger
import SourceWatch.Schema.Check

/-!
# The configuration

Main definitions:

* `Config`: the settings of a monitor, `Config.default` the ones without configuration.
* `Config.ofFields`: the settings that named fields describe, or every issue with them.
* `Config.toJson`: the document of the settings.
-/

namespace SourceWatch

open Text

/-- The settings of a monitor. -/
structure Config where
  targetRoot : CodeText
  interval : Int
  ignored : List CodeText
  extensions : List CodeText
  keywords : List CodeText
  keywordSeverity : List (CodeText × Severity)
  window : Int
  historyLimit : Int
  maxFileBytes : Int
  voiceEnabled : Bool
  smsEnabled : Bool
  deriving DecidableEq

namespace Config

/-- The number of seconds between two scans unless configured otherwise. -/
def defaultInterval : Int := 60

/-- The settings without configuration. -/
def default : Config :=
  { targetRoot := CodeText.ofString "."
    interval := defaultInterval
    ignored := defaultIgnored.map CodeText.ofString
    extensions := defaultExtensions.map CodeText.ofString
    keywords := defaultKeywords.map CodeText.ofString
    keywordSeverity := []
    window := defaultWindow
    historyLimit := defaultHistoryLimit
    maxFileBytes := defaultMaxFileBytes
    voiceEnabled := true
    smsEnabled := true }

/-- The settings that named fields describe; a field that is not given has its default. -/
def ofFields (fields : List (CodeText × Json)) : Checked Config :=
  let texts := Check.list Check.codeText
  (((((((((((Checked.valid Config.mk).ap
    (Check.fieldOr fields "target_root" default.targetRoot Check.codeText)).ap
    (Check.fieldOr fields "interval_seconds" default.interval (Check.integerFrom 1))).ap
    (Check.fieldOr fields "ignore_dirs" default.ignored texts)).ap
    (Check.fieldOr fields "extensions" default.extensions texts)).ap
    (Check.fieldOr fields "keywords" default.keywords texts)).ap
    (Check.fieldOr fields "keyword_severity" default.keywordSeverity
      (Check.dictionary Check.severity))).ap
    (Check.fieldOr fields "dedup_window" default.window (Check.integerFrom 1))).ap
    (Check.fieldOr fields "history_limit" default.historyLimit (Check.integerFrom 2))).ap
    (Check.fieldOr fields "max_file_bytes" default.maxFileBytes (Check.integerFrom 1))).ap
    (Check.fieldOr fields "voice_enabled" default.voiceEnabled Check.boolean)).ap
    (Check.fieldOr fields "sms_enabled" default.smsEnabled Check.boolean)

/-- The document of the settings. -/
def toJson (c : Config) : Json :=
  let texts (list : List CodeText) : Json := .array (list.map .text)
  .record
    [("target_root", .text c.targetRoot),
      ("interval_seconds", .int c.interval),
      ("ignore_dirs", texts c.ignored),
      ("extensions", texts c.extensions),
      ("keywords", texts c.keywords),
      ("keyword_severity",
        .object (c.keywordSeverity.map fun entry => (entry.1, .string entry.2.label))),
      ("dedup_window", .int c.window),
      ("history_limit", .int c.historyLimit),
      ("max_file_bytes", .int c.maxFileBytes),
      ("voice_enabled", .bool c.voiceEnabled),
      ("sms_enabled", .bool c.smsEnabled)]

end Config

end SourceWatch
