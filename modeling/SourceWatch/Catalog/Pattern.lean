import SourceWatch.Text.Blank
import SourceWatch.Text.WordChar

/-!
# Patterns

A structural rule looks for a pattern: a sequence of atoms, each a character class that is matched
once, or a given number of times and more. A pattern may be restricted to the start of a word, and may
offer several sequences.

Main definitions:

* `Atom`, `Pattern`: patterns.
* `matchesThen`: whether a text starts with a sequence of atoms, followed by what a test accepts.
* `Pattern.search`: whether a pattern is found somewhere in a text.
-/

namespace SourceWatch

open Text

/-- A character class that is matched once, or at least a number of times. -/
inductive Atom where
  | one (holds : Char → Bool)
  | atLeast (count : Nat) (holds : Char → Bool)

/-- Whether a text starts with any number of characters of a class, followed by what `next` accepts. -/
def manyThen (holds : Char → Bool) (next : List Char → Bool) : List Char → Bool
  | [] => next []
  | c :: cs => next (c :: cs) || (holds c && manyThen holds next cs)

/-- Whether a text starts with at least `count` characters of a class, followed by what `next`
accepts. -/
def atLeastThen (holds : Char → Bool) (next : List Char → Bool) : (count : Nat) → List Char → Bool
  | 0, cs => manyThen holds next cs
  | _ + 1, [] => false
  | count + 1, c :: cs => holds c && atLeastThen holds next count cs

/-- Whether a text starts with a sequence of atoms, followed by what `next` accepts. -/
def matchesThen (next : List Char → Bool) : List Atom → List Char → Bool
  | [], cs => next cs
  | .one holds :: atoms, c :: cs => holds c && matchesThen next atoms cs
  | .one _ :: _, [] => false
  | .atLeast count holds :: atoms, cs => atLeastThen holds (matchesThen next atoms) count cs

/-- Whether a text starts with a sequence of atoms. -/
def startsWith (atoms : List Atom) (cs : List Char) : Bool :=
  matchesThen (fun _ => true) atoms cs

/-- What a structural rule looks for. -/
structure Pattern where
  /-- Whether the match must not follow a word character. -/
  atWordStart : Bool
  /-- The sequences that are looked for, each beginning with a word character if the pattern is tied to
  the start of a word. -/
  alternatives : List (List Atom)

namespace Pattern

/-- Whether a pattern is found at the start of a text; `afterWord` tells whether a word character
stands before it. -/
def matchesAt (p : Pattern) (afterWord : Bool) (cs : List Char) : Bool :=
  !(p.atWordStart && afterWord) && p.alternatives.any (startsWith · cs)

/-- Whether a pattern is found somewhere in a text. -/
def searchFrom (p : Pattern) (afterWord : Bool) : List Char → Bool
  | [] => p.matchesAt afterWord []
  | c :: cs =>
    p.matchesAt afterWord (c :: cs) || p.searchFrom (p.atWordStart && isWordChar c) cs

/-- Whether a pattern is found somewhere in a text. -/
def search (p : Pattern) (cs : List Char) : Bool :=
  p.searchFrom false cs

end Pattern

/-! ### The atoms of the rules -/

namespace Atom

/-- A word, letter by letter. -/
def word (s : String) : List Atom :=
  s.toList.map fun letter => .one (· = letter)

/-- Any number of blanks. -/
def blanks : Atom :=
  .atLeast 0 isBlank

/-- Whether a character is one of the two quotation marks. -/
def isQuote (c : Char) : Bool :=
  c = '\x27' || c = '"'

/-- Whether a character separates a name from its value. -/
def isSeparator (c : Char) : Bool :=
  c = ':' || c = '='

/-- A name that is given a quoted value of at least `least` characters. -/
def assignment (name : String) (least : Nat) : List Atom :=
  word name ++
    [blanks, .one isSeparator, blanks, .one isQuote, .atLeast least (!isQuote ·), .one isQuote]

/-- The call of a function. -/
def call (name : String) : List Atom :=
  word name ++ [blanks, .one (· = '(')]

/-- Whether a character can stand in a host name. -/
def isHostChar (c : Char) : Bool :=
  !(c = '/' || isBlank c || isQuote c)

/-- The address of a hidden service under a scheme. -/
def onionAddress (scheme : String) : List Atom :=
  word (scheme ++ "://") ++ .atLeast 1 isHostChar :: word ".onion"

end Atom

end SourceWatch
