import SourceWatch.Json.Wire
import SourceWatch.Monitor.Basic
import Mathlib.Data.List.Basic

/-!
# Documents that can be sent

Strings hold whole characters only.  So every document that is made of strings, whole numbers and truth values can
be sent, as those about findings, reports and states are.

Main statements:

* `Json.isSendable_string`, `Json.isSendable_record`, `Json.isSendable_array`: documents from their parts;
* `Finding.isSendable_toJson`, `Report.isSendable_toJson`, `Status.isSendable_toJson`: what a monitor tells can be
  sent.
-/

namespace SourceWatch

open Text

namespace Json

theorem isWhole_ofString (s : String) : isWhole (CodeText.ofString s) = true := by
  rw [isWhole, List.all_eq_true]
  intro p hp
  obtain ⟨c, -, rfl⟩ := List.mem_map.mp hp
  rw [CodePoint.toChar?_ofChar]
  rfl

@[simp] theorem isSendable_string (s : String) : (Json.string s).isSendable = true := by
  rw [Json.string, isSendable]
  exact isWhole_ofString s

@[simp] theorem isSendable_string? (s : Option String) : (Json.string? s).isSendable = true := by
  cases s with
  | none => rw [Json.string?, isSendable]
  | some s => exact isSendable_string s

/-- A list can be sent if its items can. -/
theorem isSendable_array (items : List Json) : (Json.array items).isSendable = items.all isSendable := by
  rw [isSendable]
  induction items with
  | nil => rw [areSendable, List.all_nil]
  | cons item items ih => rw [areSendable, ih, List.all_cons]

/-- A record can be sent if its members can. -/
theorem isSendable_record (members : List (String × Json)) :
    (Json.record members).isSendable = members.all fun m => m.2.isSendable := by
  rw [Json.record, isSendable]
  induction members with
  | nil => rw [List.map_nil, membersAreSendable, List.all_nil]
  | cons m members ih =>
    rw [List.map_cons, membersAreSendable, isWhole_ofString, ih, List.all_cons, Bool.true_and]

end Json

theorem Finding.isSendable_toJson (f : Finding) : f.toJson.isSendable = true := by
  rw [Finding.toJson, Json.isSendable_record]
  simp

theorem Report.isSendable_toJson (r : Report) : r.toJson.isSendable = true := by
  rw [Report.toJson, Json.isSendable_record]
  simp [Json.isSendable_array, Finding.isSendable_toJson]

theorem Status.isSendable_toJson (s : Status) : s.toJson.isSendable = true := by
  rw [Status.toJson, Json.isSendable_record]
  simp

end SourceWatch
