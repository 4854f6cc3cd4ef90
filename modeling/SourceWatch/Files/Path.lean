import SourceWatch.Text.Search

/-!
# Paths

A path is a sequence of names, possibly anchored at the top of the file system. Reading a path drops
empty names and single dots; double dots stay, because what they lead to depends on links.

Main definitions:

* `Path`, `Path.parse`, `Path.render`: paths, read from text and written back.
* `Path.fileName`: the last name.
* `extensionOf`: the extension of a name, from its last dot on.
* `Path.child`: a path with one more name.
-/

namespace SourceWatch

open Text

/-- Where a path starts. Exactly two slashes at the start are kept apart from one. -/
inductive Anchor where
  | here
  | top
  | doubleTop
  deriving DecidableEq

/-- The text of an anchor. -/
def Anchor.text : Anchor → String
  | here => ""
  | top => "/"
  | doubleTop => "//"

/-- A path without empty names and single dots. -/
structure Path where
  anchor : Anchor
  names : List String
  deriving DecidableEq

namespace Path

/-- The anchor that a text starts with. -/
def anchorOf : List Char → Anchor
  | '/' :: '/' :: '/' :: _ => .top
  | '/' :: '/' :: _ => .doubleTop
  | '/' :: _ => .top
  | _ => .here

/-- Whether a name is left out of a path. -/
def isIdle (name : String) : Bool :=
  name = "" || name = "."

/-- The names between the slashes of a text, empty ones included. -/
def split (s : String) : List String :=
  (splitOn '/' s.toList).map String.ofList

/-- The path that a text names. -/
def parse (s : String) : Path :=
  ⟨anchorOf s.toList, (split s).filter (!isIdle ·)⟩

/-- The text of a path; the path without names is a dot. -/
def render (p : Path) : String :=
  if p.anchor = .here ∧ p.names = [] then "."
  else p.anchor.text ++ "/".intercalate p.names

/-- The last name of a path, empty if it has none. -/
def fileName (p : Path) : String :=
  p.names.getLastD ""

/-- A path with one more name. -/
def child (p : Path) (name : String) : Path :=
  { p with names := p.names ++ [name] }

end Path

/-- The extension of a name, from its last dot on. A dot that starts or ends the name begins no
extension. -/
def extensionOf (name : List Char) : List Char :=
  let tail := (name.reverse.takeWhile (· ≠ '.')).reverse
  if tail = [] ∨ name.length ≤ tail.length + 1 then [] else '.' :: tail

example : extensionOf "a.tar.gz".toList = ".gz".toList := by decide
example : extensionOf ".profile".toList = [] := by decide
example : extensionOf "dot.".toList = [] := by decide

end SourceWatch
