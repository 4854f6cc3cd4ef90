/-!
# Line ends

Whatever a file uses to end its lines, its text ends them with a line feed: a carriage return counts
as a line end, together with the line feed behind it if there is one.

Main definition: `unifyNewlines`.
-/

namespace SourceWatch.Text

/-- Appends a text with unified line ends to the reversed text `done`. -/
def unifyNewlinesOnto : List Char → (done : List Char) → List Char
  | [], done => done.reverse
  | '\r' :: '\n' :: cs, done => unifyNewlinesOnto cs ('\n' :: done)
  | '\r' :: cs, done => unifyNewlinesOnto cs ('\n' :: done)
  | c :: cs, done => unifyNewlinesOnto cs (c :: done)

/-- A text in which every line ends with a line feed. -/
def unifyNewlines (cs : List Char) : List Char :=
  unifyNewlinesOnto cs []

end SourceWatch.Text
