import SourceWatch.Json.Basic
import SourceWatch.Text.Hexadecimal

/-!
# Reading JSON

A document is one value between blanks. `NaN`, `Infinity` and `-Infinity` are numbers, an escape may
name a lone surrogate, and of two members with one name the later value stays. A document is refused
at the first character that does not fit, with the place of that character; an integer with more than
4300 digits and values nested too deep are refused as such. How deep values may nest is a parameter.

Main definitions:

* `Json.SyntaxFault`, `Json.ReadFault`: why a text is refused.
* `Json.readWithin`: the value of a text whose values nest within a limit.
* `Json.nestingLimit`, `Json.read`: the limit for documents of the program, and their values.
* `Json.Position`: the place of a fault as line, column and offset.
-/

namespace SourceWatch.Json

open Text

/-- What is wrong at one place of a text. -/
inductive SyntaxFault where
  | byteOrderMark
  | expectingValue
  | expectingName
  | expectingColon
  | expectingComma
  | extraData
  | unterminatedString
  | controlCharacter
  | badEscape
  | badCodeEscape
  deriving DecidableEq

/-- The wording of a fault. -/
def SyntaxFault.message : SyntaxFault → String
  | byteOrderMark => "Unexpected UTF-8 BOM (decode using utf-8-sig)"
  | expectingValue => "Expecting value"
  | expectingName => "Expecting property name enclosed in double quotes"
  | expectingColon => "Expecting ':' delimiter"
  | expectingComma => "Expecting ',' delimiter"
  | extraData => "Extra data"
  | unterminatedString => "Unterminated string starting at"
  | controlCharacter => "Invalid control character at"
  | badEscape => "Invalid \\escape"
  | badCodeEscape => "Invalid \\uXXXX escape"

/-- The two values that nest. -/
inductive Container where
  | array
  | object
  deriving DecidableEq

/-- Why a text is refused. The place of a syntax fault is the part of the text from there on. -/
inductive ReadFault where
  | malformed (fault : SyntaxFault) (place : List Char)
  | tooManyDigits (count : Nat)
  | tooDeep (container : Container)
  deriving DecidableEq

/-- Integers with more digits are refused. -/
def digitLimit : Nat := 4300

/-- A value and the text behind it. -/
abbrev Reading (α : Type) := Except ReadFault (α × List Char)

/-- The blanks of the format. -/
def isBlank (c : Char) : Bool :=
  c = ' ' || c = '\t' || c = '\n' || c = '\r'

/-- The text behind the blanks at its start. -/
def skipBlanks (cs : List Char) : List Char :=
  cs.dropWhile isBlank

/-! ### Strings -/

/-- The number written by four hexadecimal digits. -/
def hexQuad? (a b c d : Char) : Option CodePoint :=
  match hexValue? a, hexValue? b, hexValue? c, hexValue? d with
  | some a, some b, some c, some d => some (Fin.ofNat 0x110000 (a * 4096 + b * 256 + c * 16 + d))
  | _, _, _, _ => none

/-- The character that a one-letter escape stands for. -/
def shortEscape? : Char → Option Char
  | '"' => some '"'
  | '\\' => some '\\'
  | '/' => some '/'
  | 'b' => some '\x08'
  | 'f' => some '\x0c'
  | 'n' => some '\n'
  | 'r' => some '\r'
  | 't' => some '\t'
  | _ => none

/-- Whether a code point is the first half of a surrogate pair. -/
def isHighSurrogate (p : CodePoint) : Bool :=
  0xD800 ≤ p.val && p.val ≤ 0xDBFF

/-- Whether a code point is the second half of a surrogate pair. -/
def isLowSurrogate (p : CodePoint) : Bool :=
  0xDC00 ≤ p.val && p.val ≤ 0xDFFF

/-- The code point that two surrogates stand for. -/
def joinSurrogates (high low : CodePoint) : CodePoint :=
  Fin.ofNat 0x110000 (0x10000 + (high.val - 0xD800) * 0x400 + (low.val - 0xDC00))

/-- The rest of a string whose opening quote stands at `opening`, appended to the reversed text `done`.
An escape by number must not be the last thing in the document. -/
def readStringOnto (opening : List Char) : List Char → (done : CodeText) → Reading CodeText
  | [], _ => .error (.malformed .unterminatedString opening)
  | '"' :: cs, done => .ok (done.reverse, cs)
  | '\\' :: [], _ => .error (.malformed .unterminatedString opening)
  | '\\' :: 'u' :: a :: b :: c :: d :: e :: cs, done =>
    match hexQuad? a b c d with
    | none => .error (.malformed .badCodeEscape ('u' :: a :: b :: c :: d :: e :: cs))
    | some p =>
      if isHighSurrogate p then
        match e, cs with
        | '\\', 'u' :: a :: b :: c :: d :: next :: rest =>
          match hexQuad? a b c d with
          | none => .error (.malformed .badCodeEscape ('u' :: a :: b :: c :: d :: next :: rest))
          | some q =>
            if isLowSurrogate q then
              readStringOnto opening (next :: rest) (joinSurrogates p q :: done)
            else
              readStringOnto opening ('\\' :: 'u' :: a :: b :: c :: d :: next :: rest) (p :: done)
        | e, cs => readStringOnto opening (e :: cs) (p :: done)
      else readStringOnto opening (e :: cs) (p :: done)
  | '\\' :: 'u' :: cs, _ => .error (.malformed .badCodeEscape ('u' :: cs))
  | '\\' :: e :: cs, done =>
    match shortEscape? e with
    | some c => readStringOnto opening cs (CodePoint.ofChar c :: done)
    | none => .error (.malformed .badEscape ('\\' :: e :: cs))
  | c :: cs, done =>
    if c.toNat < 32 then .error (.malformed .controlCharacter (c :: cs))
    else readStringOnto opening cs (CodePoint.ofChar c :: done)
termination_by cs => cs.length

/-- The string behind the opening quote at `opening`. -/
def readString (opening behind : List Char) : Reading CodeText :=
  readStringOnto opening behind []

/-! ### Numbers -/

/-- Whether a character is one of the ten digits. -/
def isDigit (c : Char) : Bool :=
  '0' ≤ c && c ≤ '9'

/-- The number that digits write. -/
def digitsValue (cs : List Char) : Nat :=
  cs.foldl (fun n c => 10 * n + (c.toNat - 48)) 0

/-- The digits of the whole part at the start of a text: a zero alone, or digits without a leading
zero. -/
def takeWhole : List Char → List Char × List Char
  | '0' :: cs => (['0'], cs)
  | cs => (cs.takeWhile isDigit, cs.dropWhile isDigit)

/-- The digits of a fraction at the start of a text, if it starts with one. -/
def takeFraction : List Char → List Char × List Char
  | '.' :: d :: cs =>
    if isDigit d then (d :: cs.takeWhile isDigit, cs.dropWhile isDigit) else ([], '.' :: d :: cs)
  | cs => ([], cs)

/-- The sign at the start of an exponent and the text behind it. -/
def takeSign : List Char → Bool × List Char
  | '+' :: cs => (false, cs)
  | '-' :: cs => (true, cs)
  | cs => (false, cs)

/-- The exponent at the start of a text, if it starts with one. -/
def takeExponent (cs : List Char) : Option Int × List Char :=
  match cs with
  | e :: behind =>
    if e = 'e' || e = 'E' then
      match takeSign behind with
      | (negative, behind) =>
        match behind.takeWhile isDigit with
        | [] => (none, cs)
        | digits =>
          let n : Int := digitsValue digits
          (some (if negative then -n else n), behind.dropWhile isDigit)
    else (none, cs)
  | [] => (none, cs)

/-- The number at the start of a text, whose sign has been read; `place` is where it begins. -/
def readNumber (place : List Char) (negative : Bool) (cs : List Char) : Reading Json :=
  match takeWhole cs with
  | ([], _) => .error (.malformed .expectingValue place)
  | (whole, behind) =>
    let (fraction, behind) := takeFraction behind
    match takeExponent behind with
    | (exponent?, behind) =>
      if fraction.isEmpty && exponent?.isNone then
        if digitLimit < whole.length then .error (.tooManyDigits whole.length)
        else
          let n : Int := digitsValue whole
          .ok (.int (if negative then -n else n), behind)
      else
        let digits := whole ++ fraction
        let exponent := exponent?.getD 0 - fraction.length
        .ok (.real (Binary64.ofDecimal negative (digitsValue digits) digits.length exponent), behind)

/-! ### Values -/

/-- A word of the format at the start of a text, and the text behind it. -/
def afterWord? (word : String) (cs : List Char) : Option (List Char) :=
  if word.toList.isPrefixOf cs then some (cs.drop word.length) else none

/-- A value that is neither a string nor nested. -/
def readPlain (cs : List Char) : Reading Json :=
  match afterWord? "null" cs, afterWord? "true" cs, afterWord? "false" cs, afterWord? "NaN" cs,
    afterWord? "Infinity" cs, afterWord? "-Infinity" cs with
  | some rest, _, _, _, _, _ => .ok (.null, rest)
  | _, some rest, _, _, _, _ => .ok (.bool true, rest)
  | _, _, some rest, _, _, _ => .ok (.bool false, rest)
  | _, _, _, some rest, _, _ => .ok (.real .nan, rest)
  | _, _, _, _, some rest, _ => .ok (.real (.infinite false), rest)
  | _, _, _, _, _, some rest => .ok (.real (.infinite true), rest)
  | none, none, none, none, none, none =>
    match cs with
    | '-' :: behind => readNumber cs true behind
    | _ => readNumber cs false cs

/-- The key of a member and the text from its value on. -/
def readKey (cs : List Char) : Reading CodeText :=
  match cs with
  | '"' :: behind =>
    match readString cs behind with
    | .error fault => .error fault
    | .ok (key, rest) =>
      match skipBlanks rest with
      | ':' :: rest => .ok (key, skipBlanks rest)
      | place => .error (.malformed .expectingColon place)
  | place => .error (.malformed .expectingName place)

mutual

/-- The value at the start of a text, `depth` levels deep; `limit` levels are the most. Of two steps one
after the other at least one reads a character, so twice the length of the text is fuel enough. -/
def readValue (limit : Nat) : (fuel depth : Nat) → List Char → Reading Json
  | 0, _, cs => .error (.malformed .expectingValue cs)
  | fuel + 1, depth, cs =>
    match cs with
    | '"' :: behind =>
      match readString cs behind with
      | .ok (t, rest) => .ok (.text t, rest)
      | .error fault => .error fault
    | '[' :: behind =>
      if limit ≤ depth then .error (.tooDeep .array)
      else match skipBlanks behind with
        | ']' :: rest => .ok (.array [], rest)
        | behind => readItems limit fuel (depth + 1) behind []
    | '{' :: behind =>
      if limit ≤ depth then .error (.tooDeep .object)
      else match skipBlanks behind with
        | '}' :: rest => .ok (.object [], rest)
        | behind => readMembers limit fuel (depth + 1) behind []
    | cs => readPlain cs

/-- The items of an array from one of them on, appended to the reversed list `done`. -/
def readItems (limit : Nat) : (fuel depth : Nat) → List Char → (done : List Json) → Reading Json
  | 0, _, cs, _ => .error (.malformed .expectingValue cs)
  | fuel + 1, depth, cs, done =>
    match readValue limit fuel depth cs with
    | .error fault => .error fault
    | .ok (item, rest) =>
      match skipBlanks rest with
      | ']' :: rest => .ok (.array (item :: done).reverse, rest)
      | ',' :: rest => readItems limit fuel depth (skipBlanks rest) (item :: done)
      | place => .error (.malformed .expectingComma place)

/-- The members of an object from one of them on, appended to the reversed list `done`. -/
def readMembers (limit : Nat) : (fuel depth : Nat) → List Char → (done : List (CodeText × Json)) → Reading Json
  | 0, _, cs, _ => .error (.malformed .expectingValue cs)
  | fuel + 1, depth, cs, done =>
    match readKey cs with
    | .error fault => .error fault
    | .ok (key, behind) =>
      match readValue limit fuel depth behind with
      | .error fault => .error fault
      | .ok (value, rest) =>
        match skipBlanks rest with
        | '}' :: rest => .ok (.object (Association.ofPairs ((key, value) :: done).reverse), rest)
        | ',' :: rest => readMembers limit fuel depth (skipBlanks rest) ((key, value) :: done)
        | place => .error (.malformed .expectingComma place)

end

/-- The value of a document whose values nest at most `limit` levels deep. -/
def readWithin (limit : Nat) (cs : List Char) : Except ReadFault Json :=
  match cs with
  | '\uFEFF' :: _ => .error (.malformed .byteOrderMark cs)
  | _ =>
    match readValue limit (2 * cs.length + 2) 0 (skipBlanks cs) with
    | .error fault => .error fault
    | .ok (value, rest) =>
      match skipBlanks rest with
      | [] => .ok value
      | place => .error (.malformed .extraData place)

/-- How deep the values in a document of the program may nest. Each open level takes up a frame of the
stack while it is read. A stack has 1000 frames, and this many are left where the program begins to read;
where reading begins farther down there is less room, which is why the limit is a parameter of it. -/
def nestingLimit : Nat := 980

/-- The value of a document of the program. -/
def read (cs : List Char) : Except ReadFault Json :=
  readWithin nestingLimit cs

/-! ### Places and messages -/

/-- A place in a text: line and column count from one, the offset from zero. -/
structure Position where
  line : Nat
  column : Nat
  offset : Nat
  deriving DecidableEq

/-- The position of the part `place` at the end of a text. -/
def Position.of (whole place : List Char) : Position :=
  let before := whole.take (whole.length - place.length)
  { line := before.count '\n' + 1
    column := (before.reverse.takeWhile (· ≠ '\n')).length + 1
    offset := before.length }

/-- The message for a document `whole` that is refused. -/
def ReadFault.message (whole : List Char) : ReadFault → String
  | malformed fault place =>
    let p := Position.of whole place
    s!"{fault.message}: line {p.line} column {p.column} (char {p.offset})"
  | tooManyDigits count =>
    s!"Exceeds the limit ({digitLimit} digits) for integer string conversion: value has " ++
      s!"{count} digits; use sys.set_int_max_str_digits() to increase the limit"
  | tooDeep .array =>
    "maximum recursion depth exceeded while decoding a JSON array from a unicode string"
  | tooDeep .object =>
    "maximum recursion depth exceeded while decoding a JSON object from a unicode string"

end SourceWatch.Json
