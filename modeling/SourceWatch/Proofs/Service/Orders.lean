import SourceWatch.Service.Basic
import SourceWatch.Proofs.Json.Sendable
import SourceWatch.Proofs.Monitor.Attempts
import SourceWatch.Proofs.Schema.Check

/-!
# Orders

A request that is routed, and whose body is accepted, orders one operation of the monitor.  As long as the
dispatcher of the monitor takes jobs, the operation is carried out and its outcome told, unless it is a scan and
another one is in progress.

Main definitions:

* `Request.Asks`: which requests ask for an order, by their method, their path and their body;
* `Order.action?`, `Monitor.following`: the operation that an order maps to, and what it does;
* `Monitor.Yields`: the document that an order yields.

Main statements:

* `Request.intent_eq_order_iff`: a request is after an order just in case it asks for it;
* `Request.one_le_interval`: a body that is accepted names no interval below one second;
* `Monitor.obey_of_busy`, `Monitor.obey_of_accepts`: what an order does, and its answer.
-/

namespace SourceWatch

open Service

namespace Service

/-! ### Requests -/

/-- Whether a request asks for an order. -/
def Request.Asks (r : Request) : Order → Prop
  | .scan => r.verb = "POST" ∧ Route.ofTarget? r.target = some .scan
  | .start interval =>
    r.verb = "POST" ∧ Route.ofTarget? r.target = some .start ∧ r.interval = .ok interval
  | .stop => r.verb = "POST" ∧ Route.ofTarget? r.target = some .stop
  | .status => r.verb = "GET" ∧ Route.ofTarget? r.target = some .status
  | .test => r.verb = "POST" ∧ Route.ofTarget? r.target = some .test

namespace Request

variable {r : Request} {route : Route} {o : Order}

theorem isPreflight_of_verb (h : r.verb = route.verb) : r.isPreflight = false := by
  rw [isPreflight, h]
  cases route <;> simp [Route.verb]

/-- A request that a route takes. -/
theorem intent_of_route (hroute : Route.ofTarget? r.target = some route) (hverb : r.verb = route.verb) :
    r.intent = route.intent r := by
  rw [intent, isPreflight_of_verb hverb, hroute]
  exact if_pos hverb

/-- Only a request that a route takes is after an order. -/
theorem exists_route_of_order (h : r.intent = .order o) :
    ∃ route, Route.ofTarget? r.target = some route ∧ r.verb = route.verb ∧ route.intent r = .order o := by
  unfold intent at h
  split at h
  · cases h
  · split at h
    · cases h
    · next route hroute =>
      split at h
      · next hverb => exact ⟨route, hroute, hverb, h⟩
      · cases h

theorem interval_of_start (h : Route.intent r .start = .order o) :
    ∃ interval, o = .start interval ∧ r.interval = .ok interval := by
  unfold Route.intent at h
  cases hi : r.interval with
  | ok interval =>
    simp only [hi] at h
    cases h
    exact ⟨interval, rfl, rfl⟩
  | error fault =>
    simp only [hi] at h
    cases h

/-- **Which requests are after an order.** -/
theorem intent_eq_order_iff : r.intent = .order o ↔ r.Asks o := by
  constructor
  · intro h
    obtain ⟨route, hroute, hverb, hintent⟩ := exists_route_of_order h
    cases route with
    | health => cases hintent
    | start =>
      obtain ⟨interval, rfl, hinterval⟩ := interval_of_start hintent
      exact ⟨hverb, hroute, hinterval⟩
    | _ =>
      cases hintent
      exact ⟨hverb, hroute⟩
  · intro h
    cases o with
    | start interval =>
      obtain ⟨hverb, hroute, hinterval⟩ := h
      rw [intent_of_route hroute hverb, Route.intent, hinterval]
    | _ => exact intent_of_route h.2 h.1

/-- A request for an order gets a body. -/
theorem verb_ne_head (h : r.Asks o) : r.verb ≠ "HEAD" := by
  have hverb : r.verb = "POST" ∨ r.verb = "GET" := by
    cases o with
    | status => exact .inr h.1
    | _ => exact .inl h.1
  rcases hverb with hverb | hverb <;> rw [hverb] <;> decide

/-! ### Intervals -/

theorem one_le_of_orNull {given : Json} {interval : Option Int}
    (h : Check.orNull (Check.integerFrom 1) given = .valid interval) : ∀ seconds ∈ interval, 1 ≤ seconds := by
  unfold Check.orNull at h
  split at h
  · cases h
    nofun
  · obtain ⟨n, hchecked, rfl⟩ := Checked.map_eq_valid h
    intro seconds hseconds
    rw [← Option.some.inj hseconds]
    exact Check.le_of_integerFrom hchecked

theorem one_le_of_checkInterval {value : Json} {interval : Option Int}
    (h : checkInterval value = .valid interval) : ∀ seconds ∈ interval, 1 ≤ seconds := by
  unfold checkInterval at h
  split at h
  · cases h
    nofun
  · rcases Check.of_fieldOr h with rfl | ⟨given, hgiven⟩
    · nofun
    · exact one_le_of_orNull hgiven
  · cases h

/-- **A body that is accepted names no interval below one second.** -/
theorem one_le_interval {interval : Option Int} (h : r.interval = .ok interval) :
    ∀ seconds ∈ interval, 1 ≤ seconds := by
  unfold Request.interval at h
  split at h
  · cases h
  · next value _ =>
    cases hcheck : checkInterval value with
    | valid accepted =>
      rw [hcheck] at h
      cases h
      exact one_le_of_checkInterval hcheck
    | faulty issues =>
      rw [hcheck] at h
      cases h

end Request

/-! ### Orders and operations -/

/-- The operation that an order maps to; asking for the status is none. -/
def Order.action? : Order → Option Action
  | .scan => some .scan
  | .start interval => some (.start interval)
  | .stop => some .stop
  | .status => none
  | .test => some .test

/-- An order whose interval, if it names one, is a second at least. -/
def Order.Acceptable : Order → Prop
  | .start interval => ∀ seconds ∈ interval, 1 ≤ seconds
  | _ => True

theorem Request.Asks.acceptable {r : Request} {o : Order} (h : r.Asks o) : o.Acceptable := by
  cases o with
  | start interval => exact Request.one_le_interval h.2.2
  | _ => trivial

end Service

namespace Monitor

/-- The monitor after the operation that an order maps to, and the events of that. -/
def following (m : Monitor) (c : Circumstances) (o : Order) : Monitor × List Event :=
  match o.action? with
  | some a => ((m.perform c a).monitor, (m.perform c a).events)
  | none => (m, [])

/-- **What an order yields:** the report of its scan, the status after the operation, or the finding. -/
inductive Yields (m : Monitor) (c : Circumstances) : Order → Json → Prop
  | scan {report : Report} (h : (m.perform c .scan).result = .ok (.report report)) :
      Yields m c .scan report.toJson
  | start {interval : Option Int} {changed : Bool}
      (h : (m.perform c (.start interval)).result = .ok (.changed changed)) :
      Yields m c (.start interval) (m.perform c (.start interval)).monitor.status.toJson
  | stop {changed : Bool} (h : (m.perform c .stop).result = .ok (.changed changed)) :
      Yields m c .stop (m.perform c .stop).monitor.status.toJson
  | status : Yields m c .status m.status.toJson
  | test {f : Finding} (h : (m.perform c .test).result = .ok (.finding f)) : Yields m c .test f.toJson

variable {m : Monitor} {c : Circumstances} {o : Order}

theorem Yields.isSendable {value : Json} (h : Yields m c o value) : value.isSendable = true := by
  cases h with
  | scan => exact Report.isSendable_toJson _
  | start => exact Status.isSendable_toJson _
  | stop => exact Status.isSendable_toJson _
  | status => exact Status.isSendable_toJson _
  | test => exact Finding.isSendable_toJson _

/-- Whatever becomes of an order, the monitor is the one after the operation that it maps to. -/
theorem monitor_obey (m : Monitor) (c : Circumstances) (o : Order) :
    (m.obey c o).1 = (m.following c o).1 := by
  cases o with
  | status => rfl
  | _ =>
    simp only [obey]
    split <;> rfl

/-- **A scan while another one is in progress.** -/
theorem obey_of_busy (busy : c.busy = true) (m : Monitor) :
    m.obey c .scan = ((m.following c .scan).1, (m.following c .scan).2,
      .detail 409 (.string MonitorFault.scanInProgress.message)) := by
  have hscan : m.scan c = m.refuse .scanInProgress := by rw [scan, if_pos busy]
  have hperform : m.perform c .scan = m.refuse .scanInProgress := by rw [perform, hscan]; rfl
  simp only [obey, hscan, following, Order.action?, hperform]
  rfl

/-! ### While the dispatcher takes jobs -/

theorem result_scan (accepts : m.dispatcher.refuses = false) (idle : c.busy = false) :
    (m.scan c).result = .ok (m.reportOf c) :=
  ((scan_attempts m c).of_accepts accepts idle).2.1

theorem result_startSession {interval : Option Int} (accepts : m.dispatcher.refuses = false)
    (long : ∀ seconds ∈ interval, 1 ≤ seconds) (c : Circumstances) :
    ∃ changed, (m.start c interval).result = .ok changed := by
  cases hrun : m.running with
  | true => exact ⟨false, by rw [start_of_running hrun]⟩
  | false =>
    have hlong : interval.any (· < 1) = false := by
      cases interval with
      | none => rfl
      | some seconds => exact decide_eq_false (Int.not_lt.mpr (long seconds rfl))
    exact ⟨true, by rw [start_of_accepts hrun hlong accepts]⟩

theorem result_stop (accepts : m.dispatcher.refuses = false) (c : Circumstances) :
    ∃ changed, (m.stop c).result = .ok changed := by
  cases hrun : m.running with
  | false => exact ⟨false, by rw [stop_of_idle hrun]⟩
  | true => exact ⟨true, by rw [stop_of_accepts hrun accepts]⟩

/-- **An order is carried out and answered.** -/
theorem obey_of_accepts (accepts : m.dispatcher.refuses = false) (acceptable : o.Acceptable)
    (hidle : ¬ (o = .scan ∧ c.busy = true)) :
    ∃ value, m.Yields c o value ∧
      m.obey c o = ((m.following c o).1, (m.following c o).2, .success value) := by
  cases o with
  | scan =>
    have idle : c.busy = false := Bool.eq_false_iff.mpr fun busy => hidle ⟨rfl, busy⟩
    have hresult := result_scan accepts idle
    refine ⟨_, .scan (congrArg (Except.map Answer.report) hresult), ?_⟩
    simp only [obey, hresult]
    rfl
  | start interval =>
    obtain ⟨changed, hresult⟩ := result_startSession accepts acceptable c
    refine ⟨_, .start (congrArg (Except.map Answer.changed) hresult), ?_⟩
    simp only [obey, hresult]
    rfl
  | stop =>
    obtain ⟨changed, hresult⟩ := result_stop accepts c
    refine ⟨_, .stop (congrArg (Except.map Answer.changed) hresult), ?_⟩
    simp only [obey, hresult]
    rfl
  | status => exact ⟨_, .status, rfl⟩
  | test =>
    have hresult : (m.sendTest c).result = .ok (m.testFinding c) := by rw [sendTest_of_accepts accepts]
    refine ⟨_, .test (congrArg (Except.map Answer.finding) hresult), ?_⟩
    simp only [obey, hresult]
    rfl

/-- The operation of an order leaves a dispatcher open that is. -/
theorem closed_following (hopen : m.dispatcher.closed = false) (c : Circumstances) (o : Order) :
    (m.following c o).1.dispatcher.closed = false := by
  unfold following
  cases ha : o.action? with
  | none => exact hopen
  | some a =>
    have hnot : a ≠ .close := by
      rintro rfl
      cases o <;> cases ha
    exact ((perform_performs m c a).closed_eq hnot).trans hopen

end Monitor

end SourceWatch
