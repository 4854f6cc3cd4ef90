import SourceWatch.Dispatcher
import Mathlib.Data.List.Basic
import Mathlib.Tactic.Common

/-!
# The jobs that a dispatcher takes

A dispatcher either refuses what it is handed or takes one job for each sink.  Whether jobs are carried
out at once or wait makes no difference to what is taken: the jobs that are carried out at once are those
that would wait if the dispatcher deferred them.

Main definitions:

* `Dispatcher.refuses`: whether a dispatcher takes no job for its sinks;
* `Dispatcher.taking`, `Dispatcher.deferring`: a dispatcher after it took jobs, and one that defers them;
* `CarriesOut`: events that consist of records and of jobs that are carried out.

Main statements:

* `Dispatcher.submit_of_accepts`, `Dispatcher.submit_of_refuses`: what handing over a payload does;
* `Dispatcher.filter_jobsFor_flatMap`: each sink has one job for each payload, in order.
-/

namespace SourceWatch

namespace Dispatcher

variable {d : Dispatcher} {payload : Payload}

/-! ### Taking jobs -/

/-- Whether a dispatcher refuses what it is handed: it was shut down, and there are sinks. -/
def refuses (d : Dispatcher) : Bool :=
  d.closed && !d.sinks.isEmpty

/-- The dispatcher after it took jobs; they wait if it defers them. -/
def taking (d : Dispatcher) (jobs : List Job) : Dispatcher :=
  if d.deferred then { d with queue := d.queue ++ jobs } else d

/-- The dispatcher that defers its jobs, with the given ones waiting. -/
def deferring (d : Dispatcher) (queue : List Job) : Dispatcher :=
  { d with deferred := true, queue := queue }

theorem refuses_of_open (h : d.closed = false) : d.refuses = false := by
  rw [refuses, h]
  rfl

@[simp] theorem sinks_taking (d : Dispatcher) (jobs : List Job) : (d.taking jobs).sinks = d.sinks := by
  unfold taking
  split <;> rfl

@[simp] theorem closed_taking (d : Dispatcher) (jobs : List Job) :
    (d.taking jobs).closed = d.closed := by
  unfold taking
  split <;> rfl

@[simp] theorem deferred_taking (d : Dispatcher) (jobs : List Job) :
    (d.taking jobs).deferred = d.deferred := by
  unfold taking
  split <;> rfl

@[simp] theorem refuses_taking (d : Dispatcher) (jobs : List Job) :
    (d.taking jobs).refuses = d.refuses := by
  rw [refuses, refuses, sinks_taking, closed_taking]

@[simp] theorem jobsFor_taking (d : Dispatcher) (jobs : List Job) (payload : Payload) :
    (d.taking jobs).jobsFor payload = d.jobsFor payload := by
  rw [jobsFor, jobsFor, sinks_taking]

theorem taking_nil (d : Dispatcher) : d.taking [] = d := by
  rw [taking, List.append_nil, ite_self]

theorem taking_taking (d : Dispatcher) (jobs later : List Job) :
    (d.taking jobs).taking later = d.taking (jobs ++ later) := by
  by_cases h : d.deferred = true
  · simp [taking, h]
  · simp [taking, h]

/-- Deferring replaces whatever waited before. -/
theorem deferring_taking (d : Dispatcher) (queue jobs taken : List Job) :
    (d.deferring queue).taking jobs = (d.taking taken).deferring (queue ++ jobs) := by
  rw [deferring, deferring, sinks_taking, closed_taking]
  rfl

theorem submit_of_refuses (h : d.refuses = true) (payload : Payload) :
    d.submit payload = .error .mk := by
  rw [refuses] at h
  rw [submit, h]
  rfl

theorem submit_of_accepts (h : d.refuses = false) (payload : Payload) :
    d.submit payload =
      .ok (d.taking (d.jobsFor payload), if d.deferred then [] else d.jobsFor payload) := by
  rw [refuses] at h
  rw [submit, h, taking]
  cases d.deferred <;> rfl

/-! ### The jobs of each sink -/

/-- A payload makes one job for each sink. -/
theorem mem_jobsFor {job : Job} :
    job ∈ d.jobsFor payload ↔ d.sinks[job.index]? = some job.sink ∧ job.payload = payload := by
  simp only [jobsFor, List.mem_map, List.mem_zipIdx_iff_getElem?]
  constructor
  · rintro ⟨⟨sink, index⟩, hsink, rfl⟩
    exact ⟨hsink, rfl⟩
  · rintro ⟨hsink, rfl⟩
    exact ⟨(job.sink, job.index), hsink, rfl⟩

/-- In a numbered list each number stands once. -/
theorem filter_zipIdx {α : Type} (xs : List α) (start index : ℕ) :
    (xs.zipIdx start).filter (fun entry => entry.2 = start + index) =
      (xs[index]?.map fun x => (x, start + index)).toList := by
  induction xs generalizing start index with
  | nil => rfl
  | cons x xs ih =>
    rw [List.zipIdx_cons]
    cases index with
    | zero =>
      have hrest : (xs.zipIdx (start + 1)).filter (fun entry => entry.2 = start + 0) = [] := by
        rw [List.filter_eq_nil_iff]
        intro entry hm
        have := List.le_snd_of_mem_zipIdx hm
        simp only [decide_eq_true_eq]
        omega
      rw [List.filter_cons_of_pos (by simp), hrest]
      rfl
    | succ index =>
      have hnext : start + (index + 1) = start + 1 + index := by omega
      rw [List.filter_cons_of_neg (by simp), hnext, ih]
      rfl

/-- Of the jobs for a payload, the sink at place `index` has one. -/
theorem filter_jobsFor {index : ℕ} {sink : Sink} (h : d.sinks[index]? = some sink)
    (payload : Payload) :
    (d.jobsFor payload).filter (fun job => job.index = index) = [⟨index, sink, payload⟩] := by
  have hentry := filter_zipIdx d.sinks 0 index
  rw [Nat.zero_add, h] at hentry
  rw [jobsFor, List.filter_map]
  exact congrArg (List.map _) hentry

/-- **Each sink has one job for each payload, in order.** -/
theorem filter_jobsFor_flatMap {index : ℕ} {sink : Sink} (h : d.sinks[index]? = some sink)
    (payloads : List Payload) :
    (payloads.flatMap d.jobsFor).filter (fun job => job.index = index) =
      payloads.map fun payload => ⟨index, sink, payload⟩ := by
  induction payloads with
  | nil => rfl
  | cons payload payloads ih =>
    rw [List.flatMap_cons, List.filter_append, filter_jobsFor h, ih]
    rfl

end Dispatcher

/-! ### Carrying out jobs -/

/-- **Carrying out jobs.**  The events are those of carrying out the jobs one after the other, with records
written in between. -/
inductive CarriesOut (around : Surroundings) : List Job → List Event → Prop
  | nil : CarriesOut around [] []
  | record (r : LogRecord) {jobs : List Job} {events : List Event}
      (rest : CarriesOut around jobs events) : CarriesOut around jobs (.logged r :: events)
  | job (j : Job) {jobs : List Job} {events : List Event} (rest : CarriesOut around jobs events) :
      CarriesOut around (j :: jobs) (j.perform around ++ events)

namespace CarriesOut

variable {around : Surroundings} {jobs later : List Job} {events more : List Event}

theorem append (h : CarriesOut around jobs events) (h' : CarriesOut around later more) :
    CarriesOut around (jobs ++ later) (events ++ more) := by
  induction h with
  | nil => exact h'
  | record r _ ih => exact .record r ih
  | job j _ ih =>
    rw [List.append_assoc]
    exact .job j ih

theorem performAll (around : Surroundings) (jobs : List Job) :
    CarriesOut around jobs (Job.performAll around jobs) := by
  induction jobs with
  | nil => exact .nil
  | cons j jobs ih => exact .job j ih

/-- A record more makes no difference. -/
theorem append_record (h : CarriesOut around jobs events) (r : LogRecord) :
    CarriesOut around jobs (events ++ [.logged r]) := by
  rw [← List.append_nil jobs]
  exact h.append (.record r .nil)

end CarriesOut

end SourceWatch
