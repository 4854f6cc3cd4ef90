import SourceWatch.Json.Basic

/-!
# Values that can be sent

A document that is sent holds finite numbers and whole characters only.

Main definition:

* `Json.isSendable`: whether a value can be sent.
-/

namespace SourceWatch.Json

open Text

/-- Whether a text holds no lone surrogate. -/
def isWhole (t : CodeText) : Bool :=
  t.all fun p => p.toChar?.isSome

mutual

/-- Whether a value can be sent. -/
def isSendable : Json → Bool
  | .null => true
  | .bool _ => true
  | .int _ => true
  | .real x => x.isFinite
  | .text t => isWhole t
  | .array items => areSendable items
  | .object members => membersAreSendable members

/-- Whether all values can be sent. -/
def areSendable : List Json → Bool
  | [] => true
  | item :: items => item.isSendable && areSendable items

/-- Whether all names and values can be sent. -/
def membersAreSendable : List (CodeText × Json) → Bool
  | [] => true
  | (name, value) :: members => isWhole name && value.isSendable && membersAreSendable members

end

@[simp] theorem isSendable_int (n : Int) : (Json.int n).isSendable = true := by
  rw [isSendable]

@[simp] theorem isSendable_nat (n : Nat) : (Json.nat n).isSendable = true :=
  isSendable_int n

@[simp] theorem isSendable_bool (b : Bool) : (Json.bool b).isSendable = true := by
  rw [isSendable]

end SourceWatch.Json
