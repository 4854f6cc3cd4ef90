import SourceWatch.Schema.Issue
import SourceWatch.Severity
import SourceWatch.Text.Blank

/-!
# Checking values

Values are taken leniently: a whole number may come as a text, a truth value or a number without
fraction, a truth value as one of a few words. A check yields a value or all issues in order.

Main definitions:

* `Checked`: a value or issues; `Checked.both` and `Checked.all` collect the issues of the parts.
* `Check`: the checks; `Check.text`, `Check.integer`, `Check.boolean`, `Check.severity`, `Check.list`
  and `Check.dictionary` are the ones in use.
* `Check.readInteger`: the whole number that a text writes.
* `Check.field`: the check of a named field.
-/

namespace SourceWatch

open Text

/-- A value, or everything that does not fit. -/
inductive Checked (α : Type) where
  | valid (value : α)
  | faulty (issues : List Issue)

namespace Checked

variable {α β γ : Type}

/-- The image of a value. -/
def map (f : α → β) : Checked α → Checked β
  | valid a => valid (f a)
  | faulty issues => faulty issues

/-- Two values together, or the issues of both. -/
def both (f : α → β → γ) : Checked α → Checked β → Checked γ
  | valid a, valid b => valid (f a b)
  | valid _, faulty issues => faulty issues
  | faulty issues, valid _ => faulty issues
  | faulty issues, faulty more => faulty (issues ++ more)

/-- A function and its argument together, or the issues of both. -/
def ap (f : Checked (α → β)) (a : Checked α) : Checked β :=
  both (fun f a => f a) f a

/-- The values of all checks, or the issues of all. -/
def all : List (Checked α) → Checked (List α)
  | [] => valid []
  | a :: rest => both (· :: ·) a (all rest)

/-- A check seen from one step further out. -/
def under (step : Step) : Checked α → Checked α
  | valid a => valid a
  | faulty issues => faulty (issues.map (Issue.under step))

/-- The value or the issues as a result. -/
def toExcept : Checked α → Except (List Issue) α
  | valid a => .ok a
  | faulty issues => .error issues

end Checked

/-- A check of a value. -/
abbrev Check (α : Type) := Json → Checked α

namespace Check

variable {α β : Type}

/-- The refusal of a value. -/
def refuse (kind : IssueKind) (given : Json) : Checked α :=
  .faulty [⟨kind, [], given⟩]

/-- Any text. -/
def codeText : Check CodeText
  | .text t => .valid t
  | given => refuse .notText given

/-- A text without lone surrogates. -/
def text : Check String
  | .text t =>
    match t.toString? with
    | some s => .valid s
    | none => refuse .brokenText (.text t)
  | given => refuse .notText given

/-- A value or `null`. -/
def orNull (check : Check α) : Check (Option α)
  | .null => .valid none
  | given => (check given).map some

/-! ### Whole numbers -/

/-- The longest whole number that is read from a text, in digits. -/
def longestInteger : Nat := 4300

/-- What the reading of a whole number from a text comes to. -/
inductive Reading where
  | number (n : Int)
  | unreadable
  | oversized
  deriving DecidableEq

/-- A text without the zeros at its start that carry no value. Underscores may stand between them. A
zero stays if nothing else follows or a point does. -/
def dropZeros : List Char → Option (List Char)
  | '0' :: cs =>
    match cs.span fun c => c = '0' || c = '_' with
    | (_, []) => some (('0' :: cs).drop cs.length)
    | (idle, c :: rest) =>
      if '1' ≤ c && c ≤ '9' then some (c :: rest)
      else if c = '.' then some (('0' :: idle).drop idle.length ++ c :: rest)
      else none
  | c :: cs => if ('1' ≤ c && c ≤ '9') || c = '-' then some (c :: cs) else none
  | [] => none

/-- A text without a fraction that consists of zeros. -/
def dropZeroFraction (cs : List Char) : List Char :=
  match cs.span (· ≠ '.') with
  | (whole, '.' :: zeros) =>
    if !zeros.isEmpty && zeros.all (· = '0') then whole else cs
  | _ => cs

/-- Whether underscores stand only between other characters, one at a time. -/
def spacedWell (cs : List Char) : Bool :=
  cs.head? ≠ some '_' && cs.getLast? ≠ some '_' && (cs.zip cs.tail).all (· ≠ ('_', '_'))

/-- The number that a sequence of digits writes. -/
def decimalValue (cs : List Char) : Nat :=
  cs.foldl (fun n c => 10 * n + (c.toNat - 48)) 0

/-- The number that digits without superfluous zeros write, behind a sign if there is one. -/
def readDigits (cs : List Char) : Reading :=
  let (negative, digits) := match cs with
    | '-' :: digits => (true, digits)
    | digits => (false, digits)
  if digits.isEmpty || !digits.all Char.isDigit || (digits.length ≠ 1 && digits.head? = some '0') then
    .unreadable
  else if longestInteger < digits.length then .oversized
  else
    let n : Int := decimalValue digits
    .number (if negative then -n else n)

/-- The whole number that a text writes. White space around it, a plus sign, zeros at its start, a
fraction of zeros and single underscores between the digits are allowed. -/
def readInteger (cs : List Char) : Reading :=
  let trimmed := stripWhere isWhiteSpace cs
  let unsigned := match trimmed with
    | '+' :: '-' :: _ => []
    | '+' :: rest => rest
    | rest => rest
  match dropZeros unsigned with
  | none => .unreadable
  | some rest =>
    let whole := dropZeroFraction rest
    if spacedWell whole then readDigits (whole.filter (· ≠ '_')) else .unreadable

/-- Whether a whole number fits into 64 bits, away from their ends. -/
def fitsWord (n : Int) : Bool :=
  -9223372036854775808 < n && n < 9223372036854775807

/-- A whole number. -/
def integer : Check Int
  | .int n => .valid n
  | .bool b => .valid (if b then 1 else 0)
  | .real x =>
    match x.toInt? with
    | some n => if fitsWord n then .valid n else refuse .oversizedInteger (.real x)
    | none => refuse (if x.isFinite then .fractionalInteger else .notFinite) (.real x)
  | .text t =>
    match t.toChars? with
    | none => refuse .brokenText (.text t)
    | some cs =>
      match readInteger cs with
      | .number n => .valid n
      | .unreadable => refuse .unreadableInteger (.text t)
      | .oversized => refuse .oversizedInteger (.text t)
  | given => refuse .notInteger given

/-- A whole number that is not below a bound. -/
def integerFrom (bound : Int) : Check Int := fun given =>
  match integer given with
  | .faulty issues => .faulty issues
  | .valid n => if n < bound then refuse (.tooSmall bound) given else .valid n

/-! ### Truth values -/

/-- The words for false. -/
def noWords : List String := ["0", "off", "f", "false", "n", "no"]

/-- The words for true. -/
def yesWords : List String := ["1", "on", "t", "true", "y", "yes"]

/-- The truth value that a word stands for, whatever its case. -/
def readBoolean (s : String) : Option Bool :=
  let word := String.ofList (s.toList.map Char.toLower)
  if noWords.contains word then some false
  else if yesWords.contains word then some true
  else none

/-- A truth value. -/
def boolean : Check Bool
  | .bool b => .valid b
  | .int n =>
    if n = 0 then .valid false
    else if n = 1 then .valid true
    else if -9223372036854775808 ≤ n ∧ n ≤ 9223372036854775807 then
      refuse .unreadableBoolean (.int n)
    else refuse .notBoolean (.int n)
  | .real x =>
    match x.toInt? with
    | some 0 => .valid false
    | some 1 => .valid true
    | some n => refuse (if fitsWord n then .unreadableBoolean else .notBoolean) (.real x)
    | none => refuse .notBoolean (.real x)
  | .text t =>
    match t.toString? with
    | none => refuse .brokenText (.text t)
    | some s =>
      match readBoolean s with
      | some b => .valid b
      | none => refuse .unreadableBoolean (.text t)
  | given => refuse .notBoolean given

/-! ### Severities, lists and dictionaries -/

/-- A severity by its name. -/
def severity : Check Severity
  | .text t =>
    match t.toString? with
    | none => refuse .brokenText (.text t)
    | some s =>
      match Severity.ofLabel? s with
      | some severity => .valid severity
      | none => refuse .notSeverity (.text t)
  | given => refuse .notSeverity given

/-- A list. -/
def list (item : Check α) : Check (List α)
  | .array items =>
    Checked.all (items.zipIdx.map fun entry => (item entry.1).under (.index entry.2))
  | given => refuse .notList given

/-- A dictionary. -/
def dictionary (value : Check α) : Check (List (CodeText × α))
  | .object members =>
    Checked.all (members.map fun m => ((value m.2).under (.name m.1)).map (m.1, ·))
  | given => refuse .notDictionary given

/-! ### Fields -/

/-- The field of a record with a given name; `absent` stands for a field that is not given. -/
def fieldOr (members : List (CodeText × Json)) (name : String) (absent : α) (check : Check α) :
    Checked α :=
  match Association.get? (CodeText.ofString name) members with
  | none => .valid absent
  | some given => (check given).under (.field name)

/-- The field of a record with a given name, which must be given. -/
def field (members : List (CodeText × Json)) (name : String) (check : Check α) : Checked α :=
  match Association.get? (CodeText.ofString name) members with
  | none => .faulty [⟨.missing, [.field name], .object members⟩]
  | some given => (check given).under (.field name)

end Check

end SourceWatch
