import SourceWatch.Json.Reader
import SourceWatch.Schema.Check
import SourceWatch.Service.Message
import SourceWatch.Text.Search

/-!
# The body of a start request

The body of a request to start the monitor may name an interval. It is empty, or a document whose media
type says so.

Main definitions:

* `isJsonType`: whether a media type is that of a document.
* `BodyFault`, with `BodyFault.reply`: why a body is refused, and the answer to it.
* `Request.interval`: the interval that the body of a request names.
-/

namespace SourceWatch.Service

open Text

/-- Whether a media type is that of a document. Parameters and case play no part. -/
def isJsonType (value : String) : Bool :=
  let name := strip (value.toList.takeWhile (· ≠ ';'))
  match splitOn '/' (name.map Char.toLower) with
  | [main, sub] =>
    main = "application".toList && (sub = "json".toList || "+json".toList.isSuffixOf sub)
  | _ => false

/-- Why a body is refused. -/
inductive BodyFault where
  /-- A syntax fault at an offset. -/
  | malformed (fault : Json.SyntaxFault) (offset : Nat)
  /-- The document is too deep, or a number in it too long. -/
  | unreadable
  | invalid (issues : List Issue)

/-- The step to the body of a request. -/
def bodyStep : Step :=
  .field "body"

/-- The member that names the bound that a value falls short of. -/
def boundMember : IssueKind → List (String × Json)
  | .tooSmall bound => [("ctx", .record [("ge", .int bound)])]
  | _ => []

/-- The document about an issue with a body, which repeats what was given. -/
def issueDetail (i : Issue) : Json :=
  .record (i.summary ++ ("input", i.given) :: boundMember i.kind)

/-- The document about a syntax fault. -/
def syntaxDetail (fault : Json.SyntaxFault) (offset : Nat) : Json :=
  let issue : Issue := ⟨.malformedDocument, [bodyStep, .index offset], .object []⟩
  .record (issue.summary ++
    [("input", issue.given), ("ctx", .record [("error", .string fault.message)])])

/-- The answer to a request with a body that is refused. -/
def BodyFault.reply : BodyFault → Reply
  | malformed fault offset => .detail 422 (.array [syntaxDetail fault offset])
  | unreadable => .detail 400 (.string "There was an error parsing the body")
  | invalid issues => .detail 422 (.array (issues.map issueDetail))

/-- The document that a text holds, perhaps behind a byte order mark. -/
def readDocument (text : List Char) : Except BodyFault Json :=
  let cs := match text with
    | '\uFEFF' :: cs => cs
    | cs => cs
  match Json.read cs with
  | .ok value => .ok value
  | .error (.malformed fault place) => .error (.malformed fault (Json.Position.of cs place).offset)
  | .error _ => .error .unreadable

/-- The interval that a document names. -/
def checkInterval : Check (Option Int)
  | .null => .valid none
  | .object members =>
    Check.fieldOr members "interval_seconds" none (Check.orNull (Check.integerFrom 1))
  | given => Check.refuse .notRecord given

/-- The value of a body: that of its document, or its text. -/
def Request.bodyValue (r : Request) : Except BodyFault Json :=
  if r.body = "" then .ok .null
  else if ((r.header? "content-type").map isJsonType).getD false then readDocument r.body.toList
  else .ok (.string r.body)

/-- The interval that the body of a request names. -/
def Request.interval (r : Request) : Except BodyFault (Option Int) :=
  match r.bodyValue with
  | .error fault => .error fault
  | .ok value => (((checkInterval value).under bodyStep).toExcept).mapError .invalid

end SourceWatch.Service
