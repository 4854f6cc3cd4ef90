import SourceWatch.Decimal.Shortest
import SourceWatch.Schema.Issue
import SourceWatch.Text.Quoted

/-!
# The report about issues

The command line reports every issue in three lines: where it is, what does not fit and what was given,
and where to read on. A value whose text is longer than fifty bytes is shown by its two ends.

Main definitions:

* `Json.display`: the text of a value in messages.
* `Json.typeName`: the name of the kind of a value.
* `abridge`: a text by its two ends.
* `Issue.report`, `reportIssues`: the report.
-/

namespace SourceWatch

open Text

namespace Json

mutual

/-- The text of a value in messages. -/
def display : Json → String
  | .null => "None"
  | .bool b => if b then "True" else "False"
  | .int n => toString n
  | .real x => x.render
  | .text t => quoteCode t
  | .array items => "[" ++ displayItems items ++ "]"
  | .object members => "\x7b" ++ displayMembers members ++ "\x7d"

/-- The items of an array in messages. -/
def displayItems : List Json → String
  | [] => ""
  | [item] => item.display
  | item :: items => item.display ++ ", " ++ displayItems items

/-- The members of an object in messages. -/
def displayMembers : List (CodeText × Json) → String
  | [] => ""
  | [(name, value)] => quoteCode name ++ ": " ++ value.display
  | (name, value) :: members =>
    quoteCode name ++ ": " ++ value.display ++ ", " ++ displayMembers members

end

/-- The name of the kind of a value. -/
def typeName : Json → String
  | .null => "NoneType"
  | .bool _ => "bool"
  | .int _ => "int"
  | .real _ => "float"
  | .text _ => "str"
  | .array _ => "list"
  | .object _ => "dict"

end Json

/-- The longest start of a text that has at most `limit` bytes. -/
def takeBytes : (limit : Nat) → List Char → List Char
  | _, [] => []
  | limit, c :: cs => if c.utf8Size ≤ limit then c :: takeBytes (limit - c.utf8Size) cs else []

/-- A text of more than fifty bytes by its first 25 and its last 24 bytes, as far as they make whole
characters. -/
def abridge (s : String) : String :=
  if s.utf8ByteSize ≤ 50 then s
  else
    let cs := s.toList
    String.ofList (takeBytes 25 cs ++ "...".toList ++ (takeBytes 24 cs.reverse).reverse)

/-- The text of a code text in reports; lone surrogates are escaped. -/
def Text.CodeText.shown (t : CodeText) : String :=
  String.ofList (t.flatMap fun p =>
    match p.toChar? with
    | some c => [c]
    | none => escapeNumber p.val)

/-- A step in a report. -/
def Step.shown : Step → String
  | name n => n.shown
  | index i => toString i

/-- The three lines about an issue. -/
def Issue.report (i : Issue) : String :=
  let place := ".".intercalate (i.place.map Step.shown)
  let given := abridge i.given.display
  let code := i.kind.code
  s!"{place}\n  {i.kind.message} [type={code}, input_value={given}, " ++
    s!"input_type={i.given.typeName}]\n" ++
    s!"    For further information visit https://errors.pydantic.dev/2.14/v/{code}"

/-- The report about the issues of a record. -/
def reportIssues (record : String) (issues : List Issue) : String :=
  let count := issues.length
  let noun := if count = 1 then "error" else "errors"
  "\n".intercalate (s!"{count} validation {noun} for {record}" :: issues.map Issue.report)

end SourceWatch
