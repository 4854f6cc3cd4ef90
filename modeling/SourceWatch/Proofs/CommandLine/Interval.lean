import SourceWatch.CommandLine.Arguments

/-!
# The interval on the command line

A word that is read as an interval names a second at least, and no other argument sets the interval.

Main definition: `Reading.NamesSeconds`, what has been read names no interval below one second.

Main statements:

* `one_le_of_readInterval`: a word that is read as an interval;
* `namesSeconds_of_parse`: the request that arguments make.
-/

namespace SourceWatch.CommandLine

variable {r r' : Reading} {about : Option Command} {command : Command}

/-- What has been read names no interval below one second. -/
def Reading.NamesSeconds (r : Reading) : Prop :=
  ∀ seconds ∈ r.interval, 1 ≤ seconds

/-- **A word that is read as an interval names a second at least.** -/
theorem one_le_of_readInterval {word : String} {n : Int} (h : readInterval word = .ok n) : 1 ≤ n := by
  unfold readInterval at h
  split at h
  · cases h
  · split at h
    · cases h
    · next hle =>
      cases h
      exact Int.not_lt.mp hle

theorem namesSeconds_some {r : Reading} {n : Int} (hr : r.interval = some n) (hn : 1 ≤ n) : r.NamesSeconds := by
  intro seconds hseconds
  rw [hr] at hseconds
  rwa [← Option.some.inj hseconds]

theorem namesSeconds_set (hr : r.NamesSeconds) (value : String) (s : Setting) : (r.set value s).NamesSeconds := by
  cases s <;> exact hr

/-- An option leaves the interval alone. -/
theorem namesSeconds_of_readUse {u : Use} {next : Option (String × Token)} {taken : Bool} (hr : r.NamesSeconds)
    (h : readUse about r u next = .ok (r', taken)) : r'.NamesSeconds := by
  unfold readUse at h
  split at h
  · cases h
  · cases h
  · split at h
    · cases h
      exact namesSeconds_set hr _ _
    · cases h
      exact namesSeconds_set hr _ _
    · cases h

/-- The arguments of a command name no interval below one second. -/
theorem namesSeconds_of_readCommand {slot : Slot} {tokens : List (String × Token)} (hr : r.NamesSeconds)
    (h : readCommand command slot r tokens = .ok r') : r'.NamesSeconds := by
  induction slot, r, tokens using readCommand.induct command with
  -- nothing is left, or a terminator ends what is read
  | case1 | case5 | case7 | case8 =>
    rw [readCommand] at h
    cases h
    exact hr
  | case2 slot r argument u rest stop hstop =>
    rw [readCommand, hstop] at h
    cases h
  | case3 slot r argument u rest next taken hnext ih =>
    rw [readCommand, hnext] at h
    exact ih (namesSeconds_of_readUse hr hnext) h
  | case4 slot r argument rest ih =>
    rw [readCommand] at h
    exact ih hr h
  | case6 r argument word token rest =>
    rw [readCommand] at h
    cases hword : readInterval word with
    | error stop =>
      rw [hword] at h
      cases h
    | ok n =>
      rw [hword] at h
      cases h
      exact namesSeconds_some rfl (one_le_of_readInterval hword)
  | case9 r word rest stop hword =>
    rw [readCommand, hword] at h
    cases h
  | case10 r word rest n hword ih =>
    rw [readCommand, hword] at h
    exact ih (namesSeconds_some rfl (one_le_of_readInterval hword)) h
  | case11 r slot word rest hslot ih =>
    rw [readCommand] at h
    · exact ih hr h
    · exact hslot

theorem namesSeconds_of_enterCommand {word : String} {behind : List String} (hr : r.NamesSeconds)
    (h : enterCommand r word behind = .ok r') : r'.NamesSeconds := by
  unfold enterCommand at h
  split at h
  · cases h
  · split at h
    · cases h
    · exact namesSeconds_of_readCommand (r := { r with command := some _ }) hr h

/-- The arguments of the program name no interval below one second. -/
theorem namesSeconds_of_readProgram {tokens : List (String × Token)} (hr : r.NamesSeconds)
    (h : readProgram r tokens = .ok r') : r'.NamesSeconds := by
  induction r, tokens using readProgram.induct with
  | case1 r =>
    rw [readProgram] at h
    cases h
    exact hr
  | case2 r argument rest hlast =>
    rw [readProgram, if_pos hlast] at h
    cases h
    exact hr
  | case3 r argument rest hmore =>
    rw [readProgram, if_neg hmore] at h
    exact namesSeconds_of_enterCommand hr h
  | case4 r argument rest =>
    rw [readProgram] at h
    exact namesSeconds_of_enterCommand hr h
  | case5 r argument rest ih =>
    rw [readProgram] at h
    exact ih hr h
  | case6 r argument u rest stop hstop =>
    rw [readProgram, hstop] at h
    cases h
  | case7 r argument u rest after hafter ih =>
    rw [readProgram, hafter] at h
    exact ih (namesSeconds_of_readUse hr hafter) h
  | case8 r argument u after hafter =>
    rw [readProgram, hafter] at h
    cases h
    exact namesSeconds_of_readUse hr hafter
  | case9 r argument u after value behind hafter ih =>
    rw [readProgram, hafter] at h
    exact ih (namesSeconds_of_readUse hr hafter) h

theorem namesSeconds_empty : Reading.empty.NamesSeconds := by
  intro seconds hseconds
  cases hseconds

/-- **The request that arguments make names no interval below one second.** -/
theorem namesSeconds_of_parse {arguments : List String} (h : parse arguments = .ok r) : r.NamesSeconds := by
  unfold parse at h
  split at h
  · cases h
  · split at h
    · cases h
    · next hread =>
      split at h
      · cases h
        exact namesSeconds_of_readProgram namesSeconds_empty hread
      · cases h

end SourceWatch.CommandLine
