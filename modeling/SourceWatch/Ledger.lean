import SourceWatch.Finding

/-!
# The ledger of reported findings

The ledger keeps the latest findings in the order in which they were recorded. A finding is a repeat if
its key is that of one of the last `window` entries. When a recording takes the ledger past its limit,
it is cut to the newest half.

Main definitions:

* `Ledger`: limit, window and entries.
* `Ledger.create`: an empty ledger, or which bound is too small.
* `Ledger.isRepeat`, `Ledger.record`, `Ledger.accept`: looking up, recording, and recording unless
  repeated.
-/

namespace SourceWatch

/-- The limit unless configured otherwise. -/
def defaultHistoryLimit : Nat := 1000

/-- The window unless configured otherwise. -/
def defaultWindow : Nat := 50

/-- The latest recorded findings, oldest first. -/
structure Ledger where
  limit : Nat
  window : Nat
  entries : List Finding
  deriving DecidableEq

/-- Which bound of a ledger is too small. -/
inductive LedgerFault where
  | limit
  | window
  deriving DecidableEq

/-- The wording of a fault. -/
def LedgerFault.message : LedgerFault → String
  | limit => "max_entries must be at least 1"
  | window => "window must be at least 1"

namespace Ledger

/-- An empty ledger with the given bounds. -/
def create (limit window : Int) : Except LedgerFault Ledger :=
  if limit < 1 then .error .limit
  else if window < 1 then .error .window
  else .ok ⟨limit.toNat, window.toNat, []⟩

/-- The last `n` members of a list. -/
def lastOf {α : Type} (n : Nat) (xs : List α) : List α :=
  xs.drop (xs.length - n)

/-- The number of entries that a cut leaves. -/
def kept (l : Ledger) : Nat :=
  max 1 (l.limit / 2)

/-- Whether a finding repeats one of the last entries. -/
def isRepeat (l : Ledger) (f : Finding) : Bool :=
  (lastOf l.window l.entries).any (·.key = f.key)

/-- The ledger after a finding is recorded. -/
def record (l : Ledger) (f : Finding) : Ledger :=
  let entries := l.entries ++ [f]
  { l with entries := if l.limit < entries.length then lastOf l.kept entries else entries }

/-- The ledger after a finding is recorded unless it is a repeat, and whether it was recorded. -/
def accept (l : Ledger) (f : Finding) : Ledger × Bool :=
  if l.isRepeat f then (l, false) else (l.record f, true)

/-- The ledger without its entries. -/
def clear (l : Ledger) : Ledger :=
  { l with entries := [] }

/-- The number of entries. -/
def size (l : Ledger) : Nat :=
  l.entries.length

end Ledger

end SourceWatch
