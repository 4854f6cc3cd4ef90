import SourceWatch.Monitor.Basic
import SourceWatch.Proofs.Json.RoundTrip
import SourceWatch.Proofs.Json.Sendable

/-!
# The documents of a monitor, read back

Reports, findings and states are made of strings, integers and truth values.  So they are read back as they were
printed, unless an integer has too many digits to be read.

Main definition: `Json.isShort`, whether no integer of a document has too many digits.

Main statements:

* `Json.Faithful.record`: documents with named members;
* `Report.faithful_toJson`, `Finding.faithful_toJson`, `Status.faithful_toJson`.
-/

namespace SourceWatch

open Text

namespace Json

mutual

/-- Whether no integer has more digits than one that is read may have. -/
def isShort : Json → Bool
  | .int n => digitCount n ≤ digitLimit
  | .array items => areShort items
  | .object members => membersAreShort members
  | _ => true

/-- Whether no integer in the values has too many digits. -/
def areShort : List Json → Bool
  | [] => true
  | item :: items => item.isShort && areShort items

/-- Whether no integer in the members has too many digits. -/
def membersAreShort : List (CodeText × Json) → Bool
  | [] => true
  | (_, value) :: members => value.isShort && membersAreShort members

end

theorem isShort_int (n : ℤ) : (Json.int n).isShort = true ↔ digitCount n ≤ digitLimit := by
  rw [isShort, decide_eq_true_eq]

theorem isShort_array (items : List Json) : (Json.array items).isShort = items.all isShort := by
  rw [isShort]
  induction items with
  | nil => rw [areShort, List.all_nil]
  | cons item items ih => rw [areShort, ih, List.all_cons]

theorem isShort_record (members : List (String × Json)) :
    (Json.record members).isShort = members.all fun m => m.2.isShort := by
  rw [Json.record, isShort]
  induction members with
  | nil => rw [List.map_nil, membersAreShort, List.all_nil]
  | cons m members ih => rw [List.map_cons, membersAreShort, ih, List.all_cons]

/-- No two strings are the same text. -/
theorem ofString_injective : Function.Injective CodeText.ofString := by
  intro s t h
  have hs := CodeText.toString?_ofString s
  rw [h, CodeText.toString?_ofString] at hs
  exact (Option.some.inj hs).symm

namespace Faithful

variable {levels : ℕ}

theorem string (s : String) : Faithful levels (.string s) :=
  .text (isWhole_ofString s)

theorem string? (s : Option String) : Faithful levels (.string? s) := by
  cases s with
  | none => exact .null
  | some s => exact .string s

/-- A document with distinct names. -/
theorem record {members : List (String × Json)} (distinct : (members.map (·.1)).Nodup)
    (values : ∀ m ∈ members, Faithful levels m.2) : Faithful (levels + 1) (.record members) := by
  refine .object ?_ ?_ ?_
  · have hnames : (members.map fun m => (CodeText.ofString m.1, m.2)).map (·.1) =
        (members.map (·.1)).map CodeText.ofString := by simp
    rw [hnames]
    exact distinct.map ofString_injective
  · intro m hm
    obtain ⟨n, -, rfl⟩ := List.mem_map.mp hm
    exact isWhole_ofString n.1
  · intro m hm
    obtain ⟨n, hn, rfl⟩ := List.mem_map.mp hm
    exact values n hn

end Faithful

end Json

open Json

theorem Status.faithful_toJson {s : Status} (h : s.toJson.isShort = true) : Faithful 1 s.toJson := by
  rw [toJson, isShort_record] at h
  simp only [List.all_cons, List.all_nil, Bool.and_eq_true, Json.nat, isShort_int] at h
  obtain ⟨-, hcycles, hthreats, hinterval, -⟩ := h
  refine .record (by simp) ?_
  simp only [List.forall_mem_cons]
  exact ⟨.bool _, .int hcycles, .int hthreats, .int hinterval, .string? _, List.forall_mem_nil _⟩

theorem Finding.faithful_toJson {f : Finding} (h : f.toJson.isShort = true) : Faithful 1 f.toJson := by
  rw [toJson, isShort_record] at h
  simp only [List.all_cons, List.all_nil, Bool.and_eq_true, isShort_int] at h
  obtain ⟨-, -, -, -, -, -, -, hcycle, -⟩ := h
  refine .record (by simp) ?_
  simp only [List.forall_mem_cons]
  exact ⟨.string _, .string _, .string _, .string _, .string? _, .string _, .string _, .int hcycle,
    .string? _, List.forall_mem_nil _⟩

theorem Report.faithful_toJson {r : Report} (h : r.toJson.isShort = true) : Faithful 3 r.toJson := by
  rw [toJson, isShort_record] at h
  simp only [List.all_cons, List.all_nil, Bool.and_eq_true, Json.nat, isShort_int, isShort_array,
    List.all_map, List.all_eq_true] at h
  obtain ⟨hcycle, -, -, -, hfiles, hraw, hsuppressed, hfindings, -⟩ := h
  have hdocuments : ∀ document ∈ r.findings.map Finding.toJson, Faithful 1 document := by
    intro document hdocument
    obtain ⟨f, hf, rfl⟩ := List.mem_map.mp hdocument
    exact Finding.faithful_toJson (hfindings f hf)
  refine .record (by simp) ?_
  simp only [List.forall_mem_cons]
  exact ⟨.int hcycle, .string _, .string _, .string _, .int hfiles, .int hraw, .int hsuppressed, .array hdocuments,
    List.forall_mem_nil _⟩

end SourceWatch
