import SourceWatch.Catalog.Basic
import SourceWatch.Files.Tree
import SourceWatch.Log
import SourceWatch.Text.Newline

/-!
# Detecting suspicious contents

A detector reads a file and applies a catalog to its text. Files above a size and files with a NUL
byte near the start are skipped. The text of any other file is its lenient UTF-8 reading with unified
line ends, in lower case.

Main definitions:

* `Detector`: a catalog and a size limit.
* `Detector.inspect`: the findings in a text.
* `Detector.read`: the text of a file, or why it is skipped.
* `Detector.scanFile`: the findings in a file, with the records that reading it writes.
-/

namespace SourceWatch

open Text

/-- The size limit unless configured otherwise, in bytes. -/
def defaultMaxFileBytes : Nat := 1000000

/-- The number of bytes at the start of a file that are searched for a NUL. -/
def sniffedBytes : Nat := 1024

/-- A catalog and the size above which files are skipped. -/
structure Detector where
  catalog : Catalog
  maxFileBytes : Int

/-- The outcome of reading a file. -/
inductive Contents where
  | text (cs : List Char)
  | oversized
  | binary
  deriving DecidableEq

/-- The message about a file that cannot be read. -/
def FileFault.report (fault : FileFault) (path : String) : String :=
  match fault with
  | .embeddedNul => fault.text
  | fault => s!"[Errno {fault.number}] {fault.text}: {quote path}"

namespace Detector

/-- The detector for a catalog; a catalog without rules gives way to the default one. -/
def ofCatalog (catalog : Catalog) (maxFileBytes : Int) : Detector :=
  ⟨if catalog.size = 0 then Catalog.default else catalog, maxFileBytes⟩

/-- The finding of a keyword rule. -/
def keywordFinding (stamp : Stamp) (path : String) (rule : KeywordRule) : Finding :=
  { id := stamp.id
    category := keywordCategory
    severity := rule.severity
    filePath := path
    matchedKeyword := some rule.keyword
    message := s!"Potentially suspicious keyword \"{rule.keyword}\" found"
    detectedAt := stamp.time
    cycle := stamp.cycle
    rule := none }

/-- The finding of a structural rule. -/
def structuralFinding (stamp : Stamp) (path : String) (rule : StructuralRule) : Finding :=
  { id := stamp.id
    category := rule.category
    severity := rule.severity
    filePath := path
    matchedKeyword := none
    message := rule.message
    detectedAt := stamp.time
    cycle := stamp.cycle
    rule := some rule.name }

/-- The findings in a text, in the order of the catalog: one for each keyword that occurs and one for
each pattern that is found. -/
def inspect (d : Detector) (stamp : Stamp) (path : String) (content : List Char) : List Finding :=
  ((d.catalog.keywordRules.filter fun rule => occursIn rule.keyword.toList content).map
      (keywordFinding stamp path)) ++
    (d.catalog.structuralRules.filter fun rule => rule.pattern.search content).map
      (structuralFinding stamp path)

/-- The text of a file that is not skipped. -/
def textOf (bytes : List UInt8) : List Char :=
  lower (unifyNewlines (Utf8.decodeLenient bytes))

/-- Reads the file at a path. -/
def read (d : Detector) (top : Folder) (path : String) : Except FileFault Contents :=
  match top.sizeOf path with
  | .error fault => .error fault
  | .ok size =>
    if d.maxFileBytes < size then .ok .oversized
    else match top.readFile path with
      | .error fault => .error fault
      | .ok bytes =>
        if (bytes.take sniffedBytes).contains 0 then .ok .binary else .ok (.text (textOf bytes))

/-- The message about a file that cannot be read. -/
def unreadable (path : String) (fault : FileFault) : String :=
  s!"Cannot read file {path}: {fault.report path}"

/-- The findings in the file at a path, with the records that reading it writes. -/
def scanFile (d : Detector) (top : Folder) (stamp : Stamp) (path : String) :
    List LogRecord × List Finding :=
  match d.read top path with
  | .error fault => ([⟨.warning, .detector, unreadable path fault⟩], [])
  | .ok .oversized =>
    ([⟨.warning, .detector, s!"Skipping file larger than {d.maxFileBytes} bytes: {path}"⟩], [])
  | .ok .binary => ([⟨.debug, .detector, s!"Skipping binary file: {path}"⟩], [])
  | .ok (.text content) => ([], d.inspect stamp path content)

end Detector

end SourceWatch
