import SourceWatch.Association
import SourceWatch.Decimal.Binary64
import SourceWatch.Text.CodePoint

/-!
# JSON values

Main definitions:

* `Json`: a JSON value. Numbers without fraction and exponent are integers of any size; the members of
  an object stand in the order of first appearance.
* `Json.string`, `Json.record`: values from strings and named members.
* `Json.member?`: the member of an object with a given name.
-/

namespace SourceWatch

open Text

/-- A JSON value. -/
inductive Json where
  | null
  | bool (b : Bool)
  | int (n : Int)
  | real (x : Binary64)
  | text (t : CodeText)
  | array (items : List Json)
  | object (members : List (CodeText × Json))
  deriving Inhabited

namespace Json

/-- A string as a JSON value. -/
def string (s : String) : Json :=
  .text (CodeText.ofString s)

/-- A string or `null`. -/
def string? : Option String → Json
  | some s => string s
  | none => .null

/-- A natural number as a JSON value. -/
def nat (n : Nat) : Json :=
  .int n

/-- An object with the given members. -/
def record (members : List (String × Json)) : Json :=
  .object (members.map fun m => (CodeText.ofString m.1, m.2))

/-- The member of an object with a given name; `none` for any other value. -/
def member? (name : String) : Json → Option Json
  | .object members => Association.get? (CodeText.ofString name) members
  | _ => none

/-- The string that a JSON value is. -/
def toString? : Json → Option String
  | .text t => t.toString?
  | _ => none

/-- The integer that a JSON value is. -/
def toInt? : Json → Option Int
  | .int n => some n
  | _ => none

end Json

end SourceWatch
