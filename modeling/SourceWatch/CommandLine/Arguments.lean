import SourceWatch.CommandLine.Help
import SourceWatch.Text.Numeral
import SourceWatch.Text.Quoted

/-!
# Reading the arguments

Arguments are options, words, and the terminator `--`, behind which everything is a word. A long option
may be abbreviated, and its value may follow behind an equality sign. What looks like a negative number
or holds a space is a word. The first word is the command, which reads everything behind it; options
that nobody knows and words that nobody takes are complained about at the end.

Main definitions:

* `Meaning`, `Vocabulary`: what options mean, by name.
* `Token`, `classify`: the kinds of arguments.
* `Reading`: the state of reading, and `Stop` what ends it early.
* `parse`: the request that the arguments make.
-/

namespace SourceWatch.CommandLine

open Text

/-- What an option sets. -/
inductive Setting where
  | root
  | config
  | logLevel
  deriving DecidableEq

/-- What an option means: it asks for a text and nothing else, or sets something. -/
inductive Meaning where
  | help
  | version
  | setting (s : Setting)
  deriving DecidableEq

/-- The options by name, in the order of listing. -/
abbrev Vocabulary := List (String × Meaning)

/-- The options of the program. -/
def programOptions : Vocabulary :=
  [("-h", .help), ("--help", .help), ("--version", .version), ("--root", .setting .root),
    ("--config", .setting .config), ("--log-level", .setting .logLevel)]

/-- The options of every command. -/
def commandVocabulary : Vocabulary :=
  [("-h", .help), ("--help", .help)]

/-- The name that complaints use for an option. -/
def Meaning.name : Meaning → String
  | help => "-h/--help"
  | version => "--version"
  | setting .root => "--root"
  | setting .config => "--config"
  | setting .logLevel => "--log-level"

/-! ### The kinds of arguments -/

/-- An option as it is used: its name, its meaning, and a value in the same argument. The value is
marked if an equality sign sets it off. -/
structure Use where
  name : String
  meaning : Meaning
  value : Option String
  marked : Bool
  deriving DecidableEq

/-- The kind of an argument. -/
inductive Token where
  | word
  | terminator
  | known (u : Use)
  | unknown
  deriving DecidableEq

/-- An argument before and behind its first equality sign. -/
def splitAtMark (argument : List Char) : List Char × Option (List Char) :=
  match argument.span (· ≠ '=') with
  | (before, _ :: behind) => (before, some behind)
  | (before, []) => (before, none)

/-- Whether an argument looks like a negative number. -/
def isNegativeNumber (argument : List Char) : Bool :=
  let isDigit (c : Char) : Bool := (digitValue? c).isSome
  let body := if argument.getLast? = some '\n' then argument.dropLast else argument
  match body with
  | '-' :: rest =>
    match rest.span isDigit with
    | (whole, []) => !whole.isEmpty
    | (_, '.' :: fraction) => !fraction.isEmpty && fraction.all isDigit
    | _ => false
  | _ => false

/-- The options that an argument may abbreviate. -/
def candidates (vocabulary : Vocabulary) (argument : List Char) : List Use :=
  match argument with
  | '-' :: '-' :: _ =>
    let (start, behind) := splitAtMark argument
    (vocabulary.filter fun entry => start.isPrefixOf entry.1.toList).map fun entry =>
      ⟨entry.1, entry.2, behind.map String.ofList, behind.isSome⟩
  | _ =>
    vocabulary.filterMap fun entry =>
      if entry.1.toList = argument.take 2 then
        some ⟨entry.1, entry.2, some (String.ofList (argument.drop 2)), false⟩
      else if argument.isPrefixOf entry.1.toList then some ⟨entry.1, entry.2, none, false⟩
      else none

/-- The complaint about an argument that may abbreviate several options. -/
def ambiguous (argument : List Char) (uses : List Use) : String :=
  let names := ", ".intercalate (uses.map (·.name))
  s!"ambiguous option: {String.ofList argument} could match {names}"

/-- The kind of an argument that is no terminator, or a complaint about it. -/
def classifyOne (vocabulary : Vocabulary) (argument : String) : Except String Token :=
  let cs := argument.toList
  if cs.head? ≠ some '-' then .ok .word
  else match vocabulary.lookup argument with
    | some meaning => .ok (.known ⟨argument, meaning, none, false⟩)
    | none =>
      if cs.length = 1 then .ok .word
      else
        let (start, behind) := splitAtMark cs
        let name := String.ofList start
        match behind, vocabulary.lookup name with
        | some value, some meaning =>
          .ok (.known ⟨name, meaning, some (String.ofList value), true⟩)
        | _, _ =>
          match candidates vocabulary cs with
          | [u] => .ok (.known u)
          | [] =>
            if isNegativeNumber cs || cs.contains ' ' then .ok .word else .ok .unknown
          | uses => .error (ambiguous cs uses)

/-- The arguments with their kinds, or the first complaint. -/
def classify (vocabulary : Vocabulary) : List String → Except String (List (String × Token))
  | [] => .ok []
  | argument :: rest =>
    if argument = "--" then .ok ((argument, .terminator) :: rest.map (·, .word))
    else
      match classifyOne vocabulary argument, classify vocabulary rest with
      | .error complaint, _ => .error complaint
      | .ok _, .error complaint => .error complaint
      | .ok token, .ok tokens => .ok ((argument, token) :: tokens)

/-! ### Reading one argument after the other -/

/-- What ends the reading early. -/
inductive Stop where
  | help (about : Option Command)
  | version
  | complaint (about : Option Command) (text : String)
  deriving DecidableEq

/-- What has been read. -/
structure Reading where
  root : Option String
  config : Option String
  logLevel : Option String
  command : Option Command
  interval : Option Int
  /-- What nobody takes, in order. -/
  extras : List String
  deriving DecidableEq

/-- Nothing read yet. -/
def Reading.empty : Reading :=
  ⟨none, none, none, none, none, []⟩

/-- The state after a setting is given a value. -/
def Reading.set (r : Reading) (value : String) : Setting → Reading
  | .root => { r with root := some value }
  | .config => { r with config := some value }
  | .logLevel => { r with logLevel := some value }

/-- A complaint about an argument. -/
def blame (about : Option Command) (name text : String) : Stop :=
  .complaint about s!"argument {name}: {text}"

/-- A complaint about a value that an option does not take. -/
def ignoredValue (about : Option Command) (meaning : Meaning) (value : List Char) : Stop :=
  blame about meaning.name s!"ignored explicit argument {quote (String.ofList value)}"

/-- What stops the reading at a short option that takes no value but has letters behind it: these are
taken as more short options. -/
def clustered (about : Option Command) (meaning : Meaning) (stop : Stop) : List Char → Stop
  | 'h' :: '=' :: value => ignoredValue about meaning value
  | 'h' :: rest => clustered about meaning stop rest
  | '-' :: rest => ignoredValue about meaning ('-' :: rest)
  | _ => stop

/-- What stops the reading at an option that takes no value. -/
def stopAt (about : Option Command) (u : Use) (stop : Stop) : Stop :=
  match u.value with
  | none => stop
  | some value =>
    if u.marked || u.name ≠ "-h" then ignoredValue about u.meaning value.toList
    else clustered about u.meaning stop value.toList

/-- Reads an option. The result tells whether the argument behind it is its value. -/
def readUse (about : Option Command) (r : Reading) (u : Use) (next : Option (String × Token)) :
    Except Stop (Reading × Bool) :=
  match u.meaning with
  | .help => .error (stopAt about u (.help about))
  | .version => .error (stopAt about u .version)
  | .setting s =>
    match u.value, next with
    | some value, _ => .ok (r.set value s, false)
    | none, some (value, .word) => .ok (r.set value s, true)
    | none, _ => .error (blame about u.meaning.name "expected one argument")

/-- The interval that a word gives, at least one second. -/
def readInterval (word : String) : Except Stop Int :=
  match readNumeral word.toList with
  | none => .error (blame (some .start) "interval" s!"invalid interval: {quote word}")
  | some n =>
    if n < 1 then
      .error (blame (some .start) "interval" s!"interval must be at least 1 second, got {n}")
    else .ok n

/-- Whether a word would be the interval of a command: it is still open, or was filled by the word just
before, or neither. A terminator directly behind the interval belongs to it. -/
inductive Slot where
  | open
  | filled
  | closed
  deriving DecidableEq

/-- The slot after an argument that is not for it. -/
def Slot.pass : Slot → Slot
  | .open => .open
  | _ => .closed

/-- Reads the arguments of a command. -/
def readCommand (command : Command) (slot : Slot) (r : Reading) :
    List (String × Token) → Except Stop Reading
  | [] => .ok r
  | (_, .known u) :: rest =>
    match readUse (some command) r u none with
    | .error stop => .error stop
    | .ok (r, _) => readCommand command slot.pass r rest
  | (argument, .unknown) :: rest =>
    readCommand command slot.pass { r with extras := r.extras ++ [argument] } rest
  | (argument, .terminator) :: rest =>
    match slot, rest with
    | .open, [] => .ok r
    | .open, (word, _) :: rest =>
      (readInterval word).map fun n =>
        { r with interval := some n, extras := r.extras ++ rest.map (·.1) }
    | .filled, rest => .ok { r with extras := r.extras ++ rest.map (·.1) }
    | .closed, rest => .ok { r with extras := r.extras ++ argument :: rest.map (·.1) }
  | (word, .word) :: rest =>
    match slot with
    | .open =>
      match readInterval word with
      | .error stop => .error stop
      | .ok n => readCommand command .filled { r with interval := some n } rest
    | _ => readCommand command .closed { r with extras := r.extras ++ [word] } rest

/-- The complaint about a word that is no command. -/
def noCommand (word : String) : Stop :=
  let choices := ", ".intercalate (Command.all.map (quote ·.name))
  blame none "command" s!"invalid choice: {quote word} (choose from {choices})"

/-- Reads a command and the arguments behind it. -/
def enterCommand (r : Reading) (word : String) (behind : List String) : Except Stop Reading :=
  match Command.ofName? word with
  | none => .error (noCommand word)
  | some command =>
    match classify commandVocabulary behind with
    | .error complaint => .error (.complaint (some command) complaint)
    | .ok tokens => readCommand command (if command = .start then .open else .closed)
        { r with command := some command } tokens

/-- Reads the arguments of the program. -/
def readProgram (r : Reading) : List (String × Token) → Except Stop Reading
  | [] => .ok r
  | (argument, .terminator) :: rest =>
    if rest.isEmpty then .ok { r with extras := r.extras ++ [argument] }
    else enterCommand r argument (rest.map (·.1))
  | (argument, .word) :: rest => enterCommand r argument (rest.map (·.1))
  | (argument, .unknown) :: rest => readProgram { r with extras := r.extras ++ [argument] } rest
  | (_, .known u) :: rest =>
    match readUse none r u rest.head? with
    | .error stop => .error stop
    | .ok (r, false) => readProgram r rest
    | .ok (r, true) =>
      match rest with
      | [] => .ok r
      | _ :: behind => readProgram r behind

/-- The request that the arguments make, or what ends the reading early. -/
def parse (arguments : List String) : Except Stop Reading :=
  match classify programOptions arguments with
  | .error complaint => .error (.complaint none complaint)
  | .ok tokens =>
    match readProgram .empty tokens with
    | .error stop => .error stop
    | .ok r =>
      if r.extras.isEmpty then .ok r
      else .error (.complaint none ("unrecognized arguments: " ++ " ".intercalate r.extras))

end SourceWatch.CommandLine
