import SourceWatch.Decimal.Shortest
import SourceWatch.Json.Basic
import SourceWatch.Text.Quoted

/-!
# Printing JSON

Main definitions:

* `Json.Style`: whether a document is indented and whether it is kept to ASCII.
* `Json.print`: the text of a value.
* `Json.compact`, `Json.pretty`: the text on one line, and indented by two spaces.
-/

namespace SourceWatch.Json

open Text

/-- How a document is laid out. -/
structure Style where
  /-- The width of one level of indentation, `none` for a document on one line. -/
  indent : Option Nat
  /-- Whether every character above ASCII is escaped. -/
  ascii : Bool

/-- A code point below `2 ^ 16` by its number. -/
def escapeUnit (n : Nat) : List Char :=
  '\\' :: 'u' :: hexDigits 4 n

/-- A code point as it stands in a string. -/
def escapePoint (ascii : Bool) (p : CodePoint) : List Char :=
  match p.toChar? with
  | none => escapeUnit p.val
  | some c =>
    if c = '"' then ['\\', '"']
    else if c = '\\' then ['\\', '\\']
    else if c = '\n' then ['\\', 'n']
    else if c = '\r' then ['\\', 'r']
    else if c = '\t' then ['\\', 't']
    else if c = '\x08' then ['\\', 'b']
    else if c = '\x0c' then ['\\', 'f']
    else if p.val < 32 then escapeUnit p.val
    else if ascii && 127 ≤ p.val then
      if p.val < 0x10000 then
        if p.val = 127 then [c] else escapeUnit p.val
      else
        escapeUnit (0xD800 + (p.val - 0x10000) / 0x400) ++
          escapeUnit (0xDC00 + (p.val - 0x10000) % 0x400)
    else [c]

/-- A string in quotes. -/
def printText (ascii : Bool) (t : CodeText) : String :=
  String.ofList ('"' :: t.flatMap (escapePoint ascii) ++ ['"'])

/-- A number as it stands in a document. -/
def printReal (x : Binary64) : String :=
  match x with
  | .nan => "NaN"
  | .infinite negative => if negative then "-Infinity" else "Infinity"
  | x => x.render

/-- The line end and the indentation before an entry at a given depth. -/
def Style.lineStart (style : Style) (depth : Nat) : String :=
  match style.indent with
  | none => ""
  | some width => String.ofList ('\n' :: List.replicate (width * depth) ' ')

/-- The mark between a name and its value. -/
def Style.colon (style : Style) : String :=
  if style.indent.isSome then ": " else ":"

mutual

/-- The text of a value, appended to `out`. -/
def printOnto (style : Style) (depth : Nat) (out : String) : Json → String
  | .null => out ++ "null"
  | .bool b => out ++ (if b then "true" else "false")
  | .int n => out ++ toString n
  | .real x => out ++ printReal x
  | .text t => out ++ printText style.ascii t
  | .array [] => out ++ "[]"
  | .array (item :: items) =>
    let out := printOnto style (depth + 1) (out ++ "[" ++ style.lineStart (depth + 1)) item
    printItemsOnto style (depth + 1) out items ++ style.lineStart depth ++ "]"
  | .object [] => out ++ "\x7b\x7d"
  | .object ((name, value) :: members) =>
    let out := out ++ "\x7b" ++ style.lineStart (depth + 1) ++ printText style.ascii name ++ style.colon
    let out := printOnto style (depth + 1) out value
    printMembersOnto style (depth + 1) out members ++ style.lineStart depth ++ "\x7d"

/-- The items behind the first one, appended to `out`. -/
def printItemsOnto (style : Style) (depth : Nat) (out : String) : List Json → String
  | [] => out
  | item :: items =>
    printItemsOnto style depth
      (printOnto style depth (out ++ "," ++ style.lineStart depth) item) items

/-- The members behind the first one, appended to `out`. -/
def printMembersOnto (style : Style) (depth : Nat) (out : String) :
    List (CodeText × Json) → String
  | [] => out
  | (name, value) :: members =>
    let out := out ++ "," ++ style.lineStart depth ++ printText style.ascii name ++ style.colon
    printMembersOnto style depth (printOnto style depth out value) members

end

/-- The text of a value. -/
def print (style : Style) (value : Json) : String :=
  printOnto style 0 "" value

/-- The text of a value on one line. -/
def compact (value : Json) : String :=
  print ⟨none, false⟩ value

/-- The text of a value, indented by two spaces. -/
def pretty (value : Json) : String :=
  print ⟨some 2, false⟩ value

end SourceWatch.Json
