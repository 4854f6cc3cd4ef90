import SourceWatch.Alert
import SourceWatch.Proofs.Instant

/-!
# Reading threat records

A threat record is read line by line: a heading, and behind it one value in each line, told by the label in front of
it.  A value that holds a line feed goes on in a further line, which may look like the line of another value.

Main definitions:

* `linesOf`: the lines of a text;
* `Finding.Told`, `Finding.readRecord?`: what a threat record tells;
* `Finding.SingleLined`: no value of a finding holds a line feed;
* `Finding.Stands`: the record has one line for each value and tells the finding.

Main statements:

* `Finding.length_linesOf_recordText`: every line feed in a value makes a line more;
* `Finding.stands_iff`, `Finding.recordLength_lt`: records stand if the values are single-lined, and only then.
-/

namespace SourceWatch

open Text

/-! ### Lines -/

/-- The lines of a text. -/
def linesOf (s : String) : List String :=
  (splitOn '\n' s.toList).map String.ofList

/-- The number of line feeds in a text. -/
def lineFeeds (s : String) : ℕ :=
  s.toList.count '\n'

/-- The number of line feeds in several texts. -/
def feedsIn : List String → ℕ
  | [] => 0
  | text :: texts => lineFeeds text + feedsIn texts

theorem lineFeeds_eq_zero_iff {s : String} : lineFeeds s = 0 ↔ '\n' ∉ s.toList :=
  List.count_eq_zero

theorem lineFeeds_append (s t : String) : lineFeeds (s ++ t) = lineFeeds s + lineFeeds t := by
  rw [lineFeeds, String.toList_append, List.count_append]
  rfl

theorem length_linesOf (s : String) : (linesOf s).length = lineFeeds s + 1 := by
  rw [linesOf, List.length_map, length_splitOn]
  rfl

theorem linesOf_of_singleLine {s : String} (h : '\n' ∉ s.toList) : linesOf s = [s] := by
  rw [linesOf, splitOn_of_not_mem h, List.map_singleton, String.ofList_toList]

/-- No line holds a line feed. -/
theorem not_mem_of_mem_linesOf {s line : String} (h : line ∈ linesOf s) : '\n' ∉ line.toList := by
  obtain ⟨part, hpart, rfl⟩ := List.mem_map.mp h
  rw [String.toList_ofList]
  exact not_mem_of_mem_splitOn hpart

/-- The lines of joined texts are those of the texts, one after the other. -/
theorem linesOf_intercalate {texts : List String} (hne : texts ≠ []) :
    linesOf ("\n".intercalate texts) = texts.flatMap linesOf := by
  have hfeed : "\n".toList = ['\n'] := by simp
  induction texts with
  | nil => exact absurd rfl hne
  | cons text texts ih =>
    cases texts with
    | nil => rw [String.intercalate_singleton, List.flatMap_singleton]
    | cons next rest =>
      have hjoin : ("\n".intercalate (text :: next :: rest)).toList =
          text.toList ++ '\n' :: ("\n".intercalate (next :: rest)).toList := by
        rw [String.intercalate_cons_of_ne_nil (List.cons_ne_nil next rest), String.toList_append,
          String.toList_append, hfeed, List.append_assoc, List.singleton_append]
      rw [List.flatMap_cons, ← ih (List.cons_ne_nil next rest), linesOf, hjoin, splitOn_append, List.map_append]
      rfl

theorem length_flatMap_linesOf (texts : List String) :
    (texts.flatMap linesOf).length = texts.length + feedsIn texts := by
  induction texts with
  | nil => rfl
  | cons text texts ih =>
    rw [List.flatMap_cons, List.length_append, ih, length_linesOf, List.length_cons, feedsIn]
    omega

/-- Texts without line feeds are single lines. -/
theorem flatMap_linesOf {texts : List String} (h : feedsIn texts = 0) : texts.flatMap linesOf = texts := by
  induction texts with
  | nil => rfl
  | cons text texts ih =>
    obtain ⟨htext, htexts⟩ := Nat.add_eq_zero_iff.mp h
    rw [List.flatMap_cons, ih htexts, linesOf_of_singleLine (lineFeeds_eq_zero_iff.mp htext)]
    rfl

/-- The written form of an instant is a single line. -/
theorem Instant.lineFeeds_inRecord (t : Instant) : lineFeeds t.inRecord = 0 := by
  have hdigits : ∀ width n, '\n' ∉ (padded width n).toList := by
    intro width n h
    cases isNumeral_padded width n '\n' h
  rw [lineFeeds_eq_zero_iff, Instant.toList_inRecord]
  simp [hdigits]

/-! ### What a record tells -/

/-- The severity that is written in capitals. -/
def Severity.ofCapitals? (s : String) : Option Severity :=
  [critical, high, medium, low].find? (·.capitals = s)

theorem Severity.ofCapitals?_capitals (s : Severity) : ofCapitals? s.capitals = some s := by
  cases s <;> decide

/-- The value of a line behind its label. -/
def labelled? (label line : String) : Option String :=
  (label.toList.isPrefixOf? line.toList).map String.ofList

theorem labelled?_append (label value : String) : labelled? label (label ++ value) = some value := by
  have hprefix : label.toList.isPrefixOf? (label.toList ++ value.toList) = some value.toList :=
    List.isPrefixOf?_eq_some_iff_append_eq.mpr rfl
  rw [labelled?, String.toList_append, hprefix, Option.map_some, String.ofList_toList]

/-- A value is the end of its line. -/
theorem mem_of_labelled? {label line value : String} {c : Char} (h : labelled? label line = some value)
    (hc : c ∈ value.toList) : c ∈ line.toList := by
  obtain ⟨rest, hrest, rfl⟩ := Option.map_eq_some_iff.mp h
  rw [String.toList_ofList] at hc
  rw [← List.isPrefixOf?_eq_some_iff_append_eq.mp hrest]
  exact List.mem_append_right _ hc

namespace Finding

/-- What a threat record tells of a finding. -/
structure Told where
  category : String
  severity : Severity
  filePath : String
  message : String
  keyword : Option String
  time : Instant
  deriving DecidableEq

/-- What is to be told of a finding; an empty keyword is none. -/
def told (f : Finding) : Told :=
  ⟨f.category, f.severity, f.filePath, f.message, f.matchedKeyword.filter (· ≠ ""), f.detectedAt⟩

/-- What the lines tell: the heading, the values in their order, and the time. -/
def tell? (heading category severity file message : String) (keyword : Option String) (time : String) :
    Option Told :=
  if heading = "THREAT DETECTED:" then
    (labelled? "   Type: " category).bind fun category =>
    ((labelled? "   Severity: " severity).bind Severity.ofCapitals?).bind fun severity =>
    (labelled? "   File: " file).bind fun file =>
    (labelled? "   Message: " message).bind fun message =>
    ((labelled? "   Time: " time).bind Instant.readRecord?).map fun time =>
      ⟨category, severity, file, message, keyword, time⟩
  else none

/-- What lines tell: six of them, or seven with a keyword. -/
def tellLines? : List String → Option Told
  | [heading, category, severity, file, message, time] =>
    tell? heading category severity file message none time
  | [heading, category, severity, file, message, keyword, time] =>
    (labelled? "   Keyword: " keyword).bind fun keyword =>
      tell? heading category severity file message (some keyword) time
  | _ => none

/-- **Reading a threat record.** -/
def readRecord? (text : String) : Option Told :=
  tellLines? (linesOf text)

/-- **No value of the finding holds a line feed.** -/
structure SingleLined (f : Finding) : Prop where
  category : '\n' ∉ f.category.toList
  filePath : '\n' ∉ f.filePath.toList
  message : '\n' ∉ f.message.toList
  keyword : ∀ k, f.matchedKeyword = some k → '\n' ∉ k.toList

/-- The number of lines of a record: a heading and one for each value. -/
def recordLength (f : Finding) : ℕ :=
  if f.told.keyword = none then 6 else 7

/-- **The record of a finding stands**: it has one line for each value, in their order, and tells the finding. -/
structure Stands (f : Finding) : Prop where
  lines : linesOf f.recordText = f.record
  count : (linesOf f.recordText).length = f.recordLength
  read : readRecord? f.recordText = some f.told

variable {f : Finding}

/-- The line feeds in the values of a finding. -/
def feeds (f : Finding) : ℕ :=
  lineFeeds f.category + lineFeeds f.filePath + lineFeeds f.message + feedsIn f.told.keyword.toList

/-- The lines of a record: a heading, and each value behind its label. -/
theorem record_eq (f : Finding) :
    f.record = ["THREAT DETECTED:", "   Type: " ++ f.category, "   Severity: " ++ f.severity.capitals,
      "   File: " ++ f.filePath, "   Message: " ++ f.message] ++
        f.told.keyword.toList.map ("   Keyword: " ++ ·) ++ ["   Time: " ++ f.detectedAt.inRecord] := by
  unfold record told
  cases f.matchedKeyword with
  | none => rfl
  | some k =>
    by_cases hk : k = ""
    · simp only [hk]
      rfl
    · simp only [if_neg hk, Option.filter_some, decide_eq_true hk, if_true]
      rfl

theorem length_record (f : Finding) : f.record.length = f.recordLength := by
  rw [record_eq, recordLength]
  cases f.told.keyword <;> rfl

/-! ### The lines of a record -/

theorem feedsIn_record (f : Finding) : feedsIn f.record = f.feeds := by
  have hlabel : ∀ label ∈ ["THREAT DETECTED:", "   Type: ", "   Severity: ", "   File: ", "   Message: ",
      "   Keyword: ", "   Time: "], lineFeeds label = 0 := by
    simp [lineFeeds]
  have hseverity : lineFeeds f.severity.capitals = 0 := by
    cases f.severity <;> simp [Severity.capitals, lineFeeds]
  simp only [List.forall_mem_cons] at hlabel
  obtain ⟨heading, type, severity, file, message, keyword, time, -⟩ := hlabel
  have htime := f.detectedAt.lineFeeds_inRecord
  rw [record_eq, feeds]
  cases f.told.keyword <;>
    simp [feedsIn, lineFeeds_append, heading, type, severity, file, message, keyword, time, hseverity, htime] <;>
    omega

theorem record_ne_nil (f : Finding) : f.record ≠ [] := by
  rw [record_eq]
  simp

/-- **Every line feed in a value makes a line more.** -/
theorem length_linesOf_recordText (f : Finding) : (linesOf f.recordText).length = f.recordLength + f.feeds := by
  rw [recordText, linesOf_intercalate f.record_ne_nil, length_flatMap_linesOf, length_record, feedsIn_record]

theorem singleLined_iff : f.SingleLined ↔ f.feeds = 0 := by
  have hkeyword : (∀ k, f.matchedKeyword = some k → '\n' ∉ k.toList) ↔
      feedsIn f.told.keyword.toList = 0 := by
    unfold told
    cases f.matchedKeyword with
    | none => simp [feedsIn]
    | some k =>
      by_cases hk : k = ""
      · simp [hk, Option.filter_some, feedsIn]
      · simp [hk, Option.filter_some, feedsIn, lineFeeds_eq_zero_iff]
  rw [feeds]
  simp only [Nat.add_eq_zero_iff, lineFeeds_eq_zero_iff, ← hkeyword]
  exact ⟨fun h => ⟨⟨⟨h.category, h.filePath⟩, h.message⟩, h.keyword⟩, fun h => ⟨h.1.1.1, h.1.1.2, h.1.2, h.2⟩⟩

/-! ### Reading -/

theorem tellLines?_record (h : f.detectedAt.HasYear) : tellLines? f.record = some f.told := by
  have htold : f.told = ⟨f.category, f.severity, f.filePath, f.message, f.told.keyword, f.detectedAt⟩ := rfl
  have htell : ∀ keyword, tell? "THREAT DETECTED:" ("   Type: " ++ f.category) ("   Severity: " ++ f.severity.capitals)
      ("   File: " ++ f.filePath) ("   Message: " ++ f.message) keyword ("   Time: " ++ f.detectedAt.inRecord) =
        some ⟨f.category, f.severity, f.filePath, f.message, keyword, f.detectedAt⟩ := by
    intro keyword
    rw [tell?, if_pos rfl]
    simp only [labelled?_append, Option.bind_some, Severity.ofCapitals?_capitals, Instant.readRecord?_inRecord h,
      Option.map_some]
  rw [record_eq, htold]
  cases f.told.keyword with
  | none => exact htell none
  | some k =>
    show (labelled? "   Keyword: " ("   Keyword: " ++ k)).bind _ = _
    rw [labelled?_append, Option.bind_some]
    exact htell (some k)

/-- **A finding whose values are single-lined has a record that stands.** -/
theorem SingleLined.stands (h : f.SingleLined) (hyear : f.detectedAt.HasYear) : f.Stands := by
  have hlines : linesOf f.recordText = f.record := by
    rw [recordText, linesOf_intercalate f.record_ne_nil]
    exact flatMap_linesOf (f.feedsIn_record.trans (singleLined_iff.mp h))
  exact
    { lines := hlines
      count := by rw [hlines, length_record]
      read := by rw [readRecord?, hlines, tellLines?_record hyear] }

/-- What is read from lines that hold no line feed holds none. -/
theorem singleLined_of_tell {heading category severity file message time : String} {keyword : Option String}
    (h : tell? heading category severity file message keyword time = some f.told)
    (hcategory : '\n' ∉ category.toList) (hfile : '\n' ∉ file.toList) (hmessage : '\n' ∉ message.toList)
    (hkeyword : ∀ k, keyword = some k → '\n' ∉ k.toList) : f.SingleLined := by
  rw [tell?] at h
  split at h
  · obtain ⟨category', hcategory', h⟩ := Option.bind_eq_some_iff.mp h
    obtain ⟨severity', -, h⟩ := Option.bind_eq_some_iff.mp h
    obtain ⟨file', hfile', h⟩ := Option.bind_eq_some_iff.mp h
    obtain ⟨message', hmessage', h⟩ := Option.bind_eq_some_iff.mp h
    obtain ⟨time', -, h⟩ := Option.map_eq_some_iff.mp h
    obtain ⟨rfl, -, rfl, rfl, rfl, -⟩ := Told.mk.inj h
    refine ⟨mt (mem_of_labelled? hcategory') hcategory, mt (mem_of_labelled? hfile') hfile,
      mt (mem_of_labelled? hmessage') hmessage, fun k hk => ?_⟩
    by_cases hempty : k = ""
    · rw [hempty]
      exact List.not_mem_nil
    · refine hkeyword k ?_
      rw [hk, Option.filter_some, if_pos (by simpa using hempty)]
  · cases h

/-- **Only a finding whose values are single-lined is told by its record.** -/
theorem singleLined_of_read (h : readRecord? f.recordText = some f.told) : f.SingleLined := by
  have hsingle : ∀ line ∈ linesOf f.recordText, '\n' ∉ line.toList := fun line => not_mem_of_mem_linesOf
  rw [readRecord?] at h
  generalize linesOf f.recordText = lines at h hsingle
  unfold tellLines? at h
  split at h
  · simp only [List.forall_mem_cons] at hsingle
    obtain ⟨-, hcategory, -, hfile, hmessage, -⟩ := hsingle
    exact singleLined_of_tell h hcategory hfile hmessage (by simp)
  · simp only [List.forall_mem_cons] at hsingle
    obtain ⟨-, hcategory, -, hfile, hmessage, hkeyword, -⟩ := hsingle
    obtain ⟨keyword, hk, h⟩ := Option.bind_eq_some_iff.mp h
    refine singleLined_of_tell h hcategory hfile hmessage fun k hkeyword' => ?_
    cases hkeyword'
    exact mt (mem_of_labelled? hk) hkeyword
  · cases h

/-- **Which records stand.**  Any other has lines more than values, and does not tell the finding. -/
theorem stands_iff (hyear : f.detectedAt.HasYear) : f.Stands ↔ f.SingleLined :=
  ⟨fun h => singleLined_of_read h.read, fun h => h.stands hyear⟩

theorem recordLength_lt (h : ¬f.SingleLined) : f.recordLength < (linesOf f.recordText).length := by
  rw [singleLined_iff] at h
  rw [length_linesOf_recordText]
  omega

end Finding

end SourceWatch
