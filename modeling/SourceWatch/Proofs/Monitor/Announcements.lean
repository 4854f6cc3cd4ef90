import SourceWatch.Proofs.Monitor.Course
import SourceWatch.Proofs.Monitor.Session

/-!
# What sinks are told of the monitor

Every sink is told when a session is opened and when it is ended, and of nothing else that concerns the monitor
itself.  So what a sink was told shows whether a session is open.

Main definitions:

* `Job.announcementsTo`: the announcements among jobs for one sink;
* `changeAnnounced`: the announcement that goes with a change between running and not running;
* `rounds`: the announcements of sessions that were opened and ended one after the other.

Main statements:

* `Monitor.Performs.announcements`: what one operation announces;
* `rounds_append`: what is announced of a change carries the rounds on.
-/

namespace SourceWatch

/-- The announcement that a payload is. -/
def Payload.announcement? : Payload → Option String
  | announcement message => some message
  | finding _ => none

/-- The announcements among jobs for the sink at place `index`. -/
def Job.announcementsTo (index : ℕ) (jobs : List Job) : List String :=
  (jobs.filter fun job => job.index = index).filterMap fun job => job.payload.announcement?

/-- The announcement that goes with a change between running and not running. -/
def changeAnnounced : (before after : Bool) → List String
  | false, true => [startAnnouncement]
  | true, false => [stopAnnouncement]
  | _, _ => []

/-- The announcements of sessions that were opened and ended one after the other, and of one more if it is
still open. -/
def rounds (ended : ℕ) (isOpen : Bool) : List String :=
  (List.replicate ended [startAnnouncement, stopAnnouncement]).flatten ++ changeAnnounced false isOpen

/-- A change carries the rounds on. -/
theorem rounds_append (ended : ℕ) (before after : Bool) :
    ∃ ended', rounds ended before ++ changeAnnounced before after = rounds ended' after := by
  cases before with
  | false =>
    refine ⟨ended, ?_⟩
    cases after <;> simp [rounds, changeAnnounced]
  | true =>
    cases after with
    | false => exact ⟨ended + 1, by simp [rounds, changeAnnounced, List.replicate_succ']⟩
    | true => exact ⟨ended, by simp [rounds, changeAnnounced]⟩

/-! ### Jobs -/

namespace Job

theorem announcementsTo_append (index : ℕ) (jobs more : List Job) :
    announcementsTo index (jobs ++ more) = announcementsTo index jobs ++ announcementsTo index more := by
  rw [announcementsTo, List.filter_append, List.filterMap_append]
  rfl

/-- Each sink is told an announcement once. -/
theorem announcementsTo_jobsFor {d : Dispatcher} {index : ℕ} {sink : Sink}
    (h : d.sinks[index]? = some sink) (message : String) :
    announcementsTo index (d.jobsFor (.announcement message)) = [message] := by
  rw [announcementsTo, Dispatcher.filter_jobsFor h]
  rfl

/-- Findings are no announcements. -/
theorem announcementsTo_of_findings {jobs : List Job} (index : ℕ)
    (h : ∀ job ∈ jobs, job.payload.announcement? = none) : announcementsTo index jobs = [] := by
  rw [announcementsTo, List.filterMap_eq_nil_iff]
  intro job hjob
  exact h job (List.mem_of_mem_filter hjob)

theorem announcementsTo_jobsFor_finding (d : Dispatcher) (index : ℕ) (f : Finding) :
    announcementsTo index (d.jobsFor (.finding f)) = [] := by
  refine announcementsTo_of_findings index fun job hjob => ?_
  rw [(Dispatcher.mem_jobsFor.mp hjob).2]
  rfl

end Job

namespace Monitor

variable {m n : Monitor} {c : Circumstances} {a : Action} {jobs : List Job} {index : ℕ} {sink : Sink}

/-! ### One operation -/

theorem running_armTimer (m : Monitor) : m.armTimer.running = m.running := by
  rw [armTimer_eq]

/-- An attempt to scan announces nothing. -/
theorem Attempt.announcements {result : Except MonitorFault Report} (h : Attempt m c n result jobs)
    (index : ℕ) : Job.announcementsTo index jobs = [] := by
  cases h with
  | skipped => rfl
  | completed =>
    refine Job.announcementsTo_of_findings index fun job hjob => ?_
    obtain ⟨f, -, hf⟩ := List.mem_flatMap.mp hjob
    rw [(Dispatcher.mem_jobsFor.mp hf).2]
    rfl
  | brokenOff => rfl

/-- **What an operation announces.**  While the dispatcher takes jobs, each sink is told of the change between
running and not running, if there is one. -/
theorem Performs.announcements {result : Except MonitorFault Answer} (h : Performs m c a n result jobs)
    (accepts : m.dispatcher.refuses = false) (hsink : m.dispatcher.sinks[index]? = some sink) :
    Job.announcementsTo index jobs = changeAnnounced m.running n.running := by
  have hsame : ∀ running, changeAnnounced running running = [] := by decide
  -- closing tells what its stop tells, hence the induction
  induction h with
  | scan attempt => rw [attempt.announcements, attempt.sameSession.running, hsame]
  | tick attempt => rw [attempt.announcements, attempt.sameSession.running, hsame]
  | started idle _ _ attempt =>
    have hrunning := attempt.sameSession.running
    rw [Job.announcementsTo_append, Job.announcementsTo_jobsFor hsink, attempt.announcements,
      running_armTimer, hrunning, idle]
    rfl
  | stopped running =>
    rw [Job.announcementsTo_jobsFor hsink, running]
    rfl
  | tested =>
    rw [Job.announcementsTo_jobsFor_finding]
    exact (hsame _).symm
  | closeRefused _ ih => exact ih
  | closed _ ih => exact ih
  | startRefused _ _ refuses => rw [accepts] at refuses; cases refuses
  | stopRefused _ refuses => rw [accepts] at refuses; cases refuses
  | testRefused refuses => rw [accepts] at refuses; cases refuses
  | _ => exact (hsame _).symm

end Monitor

end SourceWatch
