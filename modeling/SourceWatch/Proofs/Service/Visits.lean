import SourceWatch.Proofs.Service.Orders

/-!
# The service as its monitor

However the service is visited, it is its monitor: it makes one at the first order at which one can be made, and from
then on each order is the operation that it maps to.  All other requests change nothing.

Main definitions:

* `Visit`: a request, and what surrounds it;
* `Service.afterVisits`, `Service.exchanges`: the service after visits, and each visit with the service that it meets;
* `firstMade?`: the first visit at which a monitor can be made, with that monitor;
* `Exchange.Proper`: what a visit does.

Main statements:

* `Service.monitor_afterVisits`: the monitor after visits is the one that was made, after the orders;
* `Service.made_exchanges`: a monitor is made once, if at all;
* `Service.proper_exchange`: what each visit does;
* `Service.refines_monitor`: all of this.
-/

namespace SourceWatch

open Service

/-- A request, and what surrounds it. -/
structure Visit where
  circumstances : Circumstances
  environment : Environment
  voice : Voice
  request : Request

namespace Visit

/-- The order that a visit is after. -/
def order? (v : Visit) : Option Order :=
  match v.request.intent with
  | .order o => some o
  | _ => none

/-- The monitor of the configuration as it is at the visit, with the events of loading and making it. -/
def load (v : Visit) : List Event × Except SetupFault Monitor :=
  Monitor.load v.circumstances.files v.environment v.voice none []

end Visit

/-- The monitor after a visit, once it was made. -/
def Monitor.follow (m : Monitor) (v : Visit) : Monitor :=
  match v.order? with
  | some o => (m.following v.circumstances o).1
  | none => m

/-- The first visit with an order at which a monitor can be made: that monitor, and the visits from this one on. -/
def firstMade? : List Visit → Option (Monitor × List Visit)
  | [] => none
  | v :: visits =>
    match v.order?, v.load.2 with
    | some _, .ok m => some (m, v :: visits)
    | _, _ => firstMade? visits

/-- A visit with the service that it meets. -/
structure Exchange where
  before : Service
  visit : Visit

namespace Exchange

/-- The service after the visit. -/
def after (e : Exchange) : Service :=
  (e.before.handle e.visit.circumstances e.visit.environment e.visit.voice e.visit.request).1

/-- The events that the visit causes. -/
def events (e : Exchange) : List Event :=
  (e.before.handle e.visit.circumstances e.visit.environment e.visit.voice e.visit.request).2.1

/-- The response to the visit. -/
def response (e : Exchange) : Response :=
  (e.before.handle e.visit.circumstances e.visit.environment e.visit.voice e.visit.request).2.2

/-- The monitor that is made at the visit. -/
def made? (e : Exchange) : Option Monitor :=
  match e.before.monitor, e.visit.order?, e.visit.load.2 with
  | none, some _, .ok m => some m
  | _, _, _ => none

end Exchange

namespace Service

/-- The service after visits. -/
def afterVisits (s : Service) (visits : List Visit) : Service :=
  visits.foldl (fun s v => (Exchange.mk s v).after) s

/-- The visits, each with the service that it meets. -/
def exchanges (s : Service) : List Visit → List Exchange
  | [] => []
  | v :: visits => ⟨s, v⟩ :: (Exchange.mk s v).after.exchanges visits

end Service

/-! ### What a visit does -/

/-- A visit with an order: the monitor carries it out, after some events of making the monitor. -/
structure Exchange.Obeys (e : Exchange) (making : List Event) (m : Monitor) (o : Order) : Prop where
  after : e.after = ⟨some (m.following e.visit.circumstances o).1⟩
  events : e.events = making ++ (m.following e.visit.circumstances o).2
  busy : o = .scan ∧ e.visit.circumstances.busy = true → e.response.status = 409
  success : ¬ (o = .scan ∧ e.visit.circumstances.busy = true) →
    ∃ value, m.Yields e.visit.circumstances o value ∧
      e.response.status = 200 ∧ e.response.body = .document value

/-- **What a visit does.** -/
structure Exchange.Proper (e : Exchange) : Prop where
  asks : ∀ o, e.visit.order? = some o ↔ e.visit.request.Asks o
  obeys : ∀ m o, e.before.monitor = some m → e.visit.order? = some o → e.Obeys [] m o
  makes : ∀ m o, e.before.monitor = none → e.visit.order? = some o → e.visit.load.2 = .ok m →
    e.Obeys e.visit.load.1 m o
  fails : ∀ fault o, e.before.monitor = none → e.visit.order? = some o → e.visit.load.2 = .error fault →
    e.after = e.before ∧ e.response = .breakdown
  busy : ∀ m, e.before.monitor = some m → e.visit.request.Asks .scan →
    (e.response.status = 409 ↔ e.visit.circumstances.busy = true)
  rests : e.visit.order? = none → e.after = e.before ∧ e.events = []
  refused : e.response.status = 404 ∨ e.response.status = 405 ∨ e.response.status = 422 →
    e.after = e.before ∧ e.events = []
  health : e.visit.request.verb = "GET" → Route.ofTarget? e.visit.request.target = some .health →
    e.after = e.before ∧ e.events = []

namespace Exchange

variable {e : Exchange} {m : Monitor} {o : Order}

theorem order?_eq_some_iff (v : Visit) (o : Order) : v.order? = some o ↔ v.request.Asks o := by
  rw [← Request.intent_eq_order_iff]
  unfold Visit.order?
  cases v.request.intent <;> simp

theorem intent_of_order (h : e.visit.order? = some o) : e.visit.request.intent = .order o :=
  Request.intent_eq_order_iff.mpr ((order?_eq_some_iff _ _).mp h)

/-- A visit without an order. -/
theorem rests_of_order (h : e.visit.order? = none) : e.after = e.before ∧ e.events = [] := by
  have hno : ∀ o, e.visit.request.intent ≠ .order o := fun o ho => by
    rw [Visit.order?, ho] at h
    cases h
  unfold after events Service.handle
  cases hi : e.visit.request.intent with
  | preflight => exact ⟨rfl, rfl⟩
  | refused refusal => exact ⟨rfl, rfl⟩
  | health => exact ⟨rfl, rfl⟩
  | order o => exact absurd hi (hno o)

/-- A visit with an order at which there is a monitor. -/
theorem handle_of_obtain {making : List Event} (h : e.visit.order? = some o)
    (hobtain : e.before.obtain e.visit.circumstances e.visit.environment e.visit.voice = (making, .ok m)) :
    e.before.handle e.visit.circumstances e.visit.environment e.visit.voice e.visit.request =
      (⟨some (m.obey e.visit.circumstances o).1⟩, making ++ (m.obey e.visit.circumstances o).2.1,
        e.visit.request.respond (m.obey e.visit.circumstances o).2.2) := by
  simp only [Service.handle, intent_of_order h, hobtain]

/-- A visit with an order at which no monitor can be made. -/
theorem handle_of_fault {making : List Event} {fault : SetupFault} (h : e.visit.order? = some o)
    (hobtain : e.before.obtain e.visit.circumstances e.visit.environment e.visit.voice =
      (making, .error fault)) :
    e.before.handle e.visit.circumstances e.visit.environment e.visit.voice e.visit.request =
      (e.before, making, .breakdown) := by
  simp only [Service.handle, intent_of_order h, hobtain]
  rfl

/-- An answer that can be sent is sent as it is to a request that gets a body. -/
theorem respond_of_sendable {r : Request} {status : ℕ} {value : Json} (hsend : value.isSendable = true)
    (hbody : r.verb ≠ "HEAD") :
    (r.respond (.document status [] value)).status = status ∧
      (r.respond (.document status [] value)).body = .document value := by
  simp [Request.respond, hsend, hbody]

/-- **A visit with an order.** -/
theorem obeys_of_obtain {making : List Event} (h : e.visit.order? = some o)
    (hobtain : e.before.obtain e.visit.circumstances e.visit.environment e.visit.voice = (making, .ok m))
    (accepts : m.dispatcher.refuses = false) : e.Obeys making m o := by
  have hasks := (order?_eq_some_iff _ _).mp h
  have hbody := Request.verb_ne_head hasks
  have hhandle := handle_of_obtain h hobtain
  by_cases hbusy : o = .scan ∧ e.visit.circumstances.busy = true
  · obtain ⟨rfl, busy⟩ := hbusy
    rw [Monitor.obey_of_busy busy] at hhandle
    exact
      { after := by rw [after, hhandle]
        events := by rw [events, hhandle]
        busy := fun _ => by
          rw [response, hhandle]
          refine (respond_of_sendable ?_ hbody).1
          rw [Json.isSendable_record]
          simp
        success := fun hidle => absurd ⟨rfl, busy⟩ hidle }
  · obtain ⟨value, hyields, hobey⟩ := Monitor.obey_of_accepts accepts hasks.acceptable hbusy
    rw [hobey] at hhandle
    exact
      { after := by rw [after, hhandle]
        events := by rw [events, hhandle]
        busy := fun hscan => absurd hscan hbusy
        success := fun _ => by
          rw [response, hhandle]
          exact ⟨value, hyields, respond_of_sendable hyields.isSendable hbody⟩ }

/-- A response to an order is none of those that refuse a request. -/
theorem Obeys.status {making : List Event} (h : e.Obeys making m o) :
    e.response.status = 409 ∨ e.response.status = 200 := by
  by_cases hbusy : o = .scan ∧ e.visit.circumstances.busy = true
  · exact .inl (h.busy hbusy)
  · obtain ⟨value, -, hstatus, -⟩ := h.success hbusy
    exact .inr hstatus

end Exchange

namespace Service

/-! ### Monitors that are made -/

theorem made_of_load {v : Visit} {m : Monitor} (h : v.load.2 = .ok m) : m.Made := by
  obtain ⟨config, -, hcreate⟩ := Monitor.exists_create_of_load h
  exact ⟨config, _, _, _, _, _, hcreate⟩

theorem closed_of_load {v : Visit} {m : Monitor} (h : v.load.2 = .ok m) : m.dispatcher.closed = false := by
  obtain ⟨config, ledger, sinks, probe, -, rfl⟩ := (made_of_load h).eq_initial
  rfl

/-- With nothing configured, a monitor can be made whatever the tree holds. -/
theorem exists_load_of_unconfigured {v : Visit} (h : v.environment = []) : ∃ m, v.load.2 = .ok m := by
  have hconfig : Config.load v.circumstances.files [] none [] = ([], .ok .default) := rfl
  have hroot := Monitor.checkRoot_default v.circumstances.files
  rw [Visit.load, h, Monitor.load, hconfig]
  simp only [Monitor.create, hroot]
  exact ⟨_, rfl⟩

/-- The monitor of the service, if there is one, takes jobs. -/
def Open (s : Service) : Prop :=
  ∀ m ∈ s.monitor, m.dispatcher.closed = false

section

variable {s : Service} {v : Visit} {m : Monitor} {o : Order}

theorem obtain_of_some (hm : s.monitor = some m) (v : Visit) :
    s.obtain v.circumstances v.environment v.voice = ([], .ok m) := by
  rw [obtain, hm]

theorem obtain_of_none (hm : s.monitor = none) (v : Visit) :
    s.obtain v.circumstances v.environment v.voice = v.load := by
  rw [obtain, hm]
  rfl

theorem obeys_of_some (hopen : s.Open) (hm : s.monitor = some m) (ho : v.order? = some o) :
    (Exchange.mk s v).Obeys [] m o :=
  Exchange.obeys_of_obtain ho (obtain_of_some hm v) (Dispatcher.refuses_of_open (hopen m hm))

theorem obeys_of_load (hm : s.monitor = none) (ho : v.order? = some o) (hload : v.load.2 = .ok m) :
    (Exchange.mk s v).Obeys v.load.1 m o :=
  Exchange.obeys_of_obtain ho ((obtain_of_none hm v).trans (Prod.ext rfl hload))
    (Dispatcher.refuses_of_open (closed_of_load hload))

theorem fails_of_load {fault : SetupFault} (hm : s.monitor = none) (ho : v.order? = some o)
    (hload : v.load.2 = .error fault) :
    (Exchange.mk s v).after = s ∧ (Exchange.mk s v).response = .breakdown := by
  have hhandle := Exchange.handle_of_fault (e := ⟨s, v⟩) ho
    ((obtain_of_none hm v).trans (Prod.ext rfl hload))
  rw [Exchange.after, Exchange.response, hhandle]
  exact ⟨rfl, rfl⟩

/-- A request that is refused was after no order. -/
theorem order?_of_refused (hopen : s.Open)
    (hstatus : (Exchange.mk s v).response.status = 404 ∨ (Exchange.mk s v).response.status = 405 ∨
      (Exchange.mk s v).response.status = 422) : v.order? = none := by
  have hobeyed : ∀ {making m o}, ¬ (Exchange.mk s v).Obeys making m o := fun h => by
    rcases h.status with h | h <;> omega
  cases ho : v.order? with
  | none => rfl
  | some o =>
    cases hm : s.monitor with
    | some m => exact absurd (obeys_of_some hopen hm ho) hobeyed
    | none =>
      cases hload : v.load.2 with
      | ok m => exact absurd (obeys_of_load hm ho hload) hobeyed
      | error fault =>
        have hbroken : Response.breakdown.status = 500 := rfl
        rw [(fails_of_load hm ho hload).2, hbroken] at hstatus
        omega

/-- **One visit.** -/
theorem proper_of_open (hopen : s.Open) (v : Visit) : (Exchange.mk s v).Proper where
  asks := Exchange.order?_eq_some_iff v
  obeys := fun m o hm ho => obeys_of_some hopen hm ho
  makes := fun m o hm ho hload => obeys_of_load hm ho hload
  fails := fun fault o hm ho hload => fails_of_load hm ho hload
  busy := fun m hm hasks => by
    have hobeys := obeys_of_some hopen hm ((Exchange.order?_eq_some_iff v _).mpr hasks)
    constructor
    · intro hstatus
      by_contra hidle
      obtain ⟨value, -, hsuccess, -⟩ := hobeys.success fun h => hidle h.2
      rw [hstatus] at hsuccess
      cases hsuccess
    · exact fun busy => hobeys.busy ⟨rfl, busy⟩
  rests := Exchange.rests_of_order
  refused := fun hstatus => Exchange.rests_of_order (order?_of_refused hopen hstatus)
  health := fun hverb hroute => by
    refine Exchange.rests_of_order ?_
    rw [Visit.order?, Request.intent_of_route hroute hverb]
    rfl

/-- A visit after which the service has the monitor that it had, after the operation of the order. -/
theorem after_of_some (hm : s.monitor = some m) (v : Visit) :
    (Exchange.mk s v).after = ⟨some (m.follow v)⟩ := by
  unfold Monitor.follow
  cases ho : v.order? with
  | none =>
    have hs : s = ⟨some m⟩ := by rw [← hm]
    exact (Exchange.rests_of_order ho).1.trans hs
  | some o =>
    rw [Exchange.after, Exchange.handle_of_obtain ho (obtain_of_some hm v), Monitor.monitor_obey]

theorem after_of_load (hm : s.monitor = none) (ho : v.order? = some o) (hload : v.load.2 = .ok m) :
    (Exchange.mk s v).after = ⟨some (m.follow v)⟩ := by
  unfold Monitor.follow
  rw [ho]
  exact (obeys_of_load hm ho hload).after

/-- A visit at which no monitor is made. -/
theorem after_of_none (hm : s.monitor = none) (hnot : ∀ o m, v.order? = some o → v.load.2 ≠ .ok m) :
    (Exchange.mk s v).after = s := by
  cases ho : v.order? with
  | none => exact (Exchange.rests_of_order ho).1
  | some o =>
    cases hload : v.load.2 with
    | ok m => exact absurd hload (hnot o m ho)
    | error fault => exact (fails_of_load hm ho hload).1

theorem closed_follow (hopen : m.dispatcher.closed = false) (v : Visit) :
    (m.follow v).dispatcher.closed = false := by
  unfold Monitor.follow
  cases v.order? with
  | none => exact hopen
  | some o => exact Monitor.closed_following hopen v.circumstances o

/-- A visit leaves the monitor open. -/
theorem Open.after (hopen : s.Open) (v : Visit) : (Exchange.mk s v).after.Open := by
  have hfollowed : ∀ m, m.dispatcher.closed = false → Open ⟨some (Monitor.follow m v)⟩ := by
    intro m hm n hn
    cases hn
    exact closed_follow hm v
  cases hm : s.monitor with
  | some m =>
    rw [after_of_some hm v]
    exact hfollowed m (hopen m hm)
  | none =>
    by_cases hmade : ∃ o m, v.order? = some o ∧ v.load.2 = .ok m
    · obtain ⟨o, m, ho, hload⟩ := hmade
      rw [after_of_load hm ho hload]
      exact hfollowed m (closed_of_load hload)
    · rw [after_of_none hm fun o m ho hload => hmade ⟨o, m, ho, hload⟩]
      exact hopen

end

/-! ### All visits -/

theorem proper_exchange {s : Service} (hopen : s.Open) {visits : List Visit} {e : Exchange}
    (he : e ∈ s.exchanges visits) : e.Proper := by
  induction visits generalizing s with
  | nil => cases he
  | cons v visits ih =>
    rcases List.mem_cons.mp he with rfl | he
    · exact proper_of_open hopen v
    · exact ih (hopen.after v) he

/-- **Once there is a monitor,** it follows the orders. -/
theorem afterVisits_of_some (m : Monitor) (visits : List Visit) :
    (Service.mk (some m)).afterVisits visits = ⟨some (visits.foldl Monitor.follow m)⟩ := by
  induction visits generalizing m with
  | nil => rfl
  | cons v visits ih =>
    show (Exchange.mk ⟨some m⟩ v).after.afterVisits visits = _
    rw [after_of_some rfl v, ih]
    rfl

theorem made_exchanges_of_some (m : Monitor) (visits : List Visit) :
    ((Service.mk (some m)).exchanges visits).filterMap Exchange.made? = [] := by
  induction visits generalizing m with
  | nil => rfl
  | cons v visits ih =>
    rw [exchanges, after_of_some rfl v]
    exact ih _

theorem open_fresh : fresh.Open := by
  intro m hm
  cases hm

theorem monitor_fresh : fresh.monitor = none :=
  rfl

theorem firstMade?_of_made {v : Visit} {m : Monitor} {o : Order} (ho : v.order? = some o)
    (hload : v.load.2 = .ok m) (visits : List Visit) :
    firstMade? (v :: visits) = some (m, v :: visits) := by
  simp only [firstMade?, ho, hload]

theorem firstMade?_of_not_made {v : Visit} (hnot : ∀ o m, v.order? = some o → v.load.2 ≠ .ok m)
    (visits : List Visit) : firstMade? (v :: visits) = firstMade? visits := by
  cases ho : v.order? with
  | none => simp only [firstMade?, ho]
  | some o =>
    cases hload : v.load.2 with
    | ok m => exact absurd hload (hnot o m ho)
    | error fault => simp only [firstMade?, ho, hload]

/-- **The monitor after visits.** -/
theorem monitor_afterVisits (visits : List Visit) :
    (fresh.afterVisits visits).monitor =
      (firstMade? visits).map fun made => made.2.foldl Monitor.follow made.1 := by
  induction visits with
  | nil => rfl
  | cons v visits ih =>
    show ((Exchange.mk fresh v).after.afterVisits visits).monitor = _
    by_cases hmade : ∃ o m, v.order? = some o ∧ v.load.2 = .ok m
    · obtain ⟨o, m, ho, hload⟩ := hmade
      rw [after_of_load monitor_fresh ho hload, afterVisits_of_some, firstMade?_of_made ho hload]
      rfl
    · have hnot : ∀ o m, v.order? = some o → v.load.2 ≠ .ok m := fun o m ho hload =>
        hmade ⟨o, m, ho, hload⟩
      rw [after_of_none monitor_fresh hnot, firstMade?_of_not_made hnot, ih]

/-- **A monitor is made once, if at all.** -/
theorem made_exchanges (visits : List Visit) :
    (fresh.exchanges visits).filterMap Exchange.made? = ((firstMade? visits).map Prod.fst).toList := by
  induction visits with
  | nil => rfl
  | cons v visits ih =>
    rw [exchanges]
    by_cases hmade : ∃ o m, v.order? = some o ∧ v.load.2 = .ok m
    · obtain ⟨o, m, ho, hload⟩ := hmade
      have hnow : (Exchange.mk fresh v).made? = some m := by
        simp only [Exchange.made?, fresh, ho, hload]
      rw [List.filterMap_cons_some hnow, after_of_load monitor_fresh ho hload, made_exchanges_of_some,
        firstMade?_of_made ho hload]
      rfl
    · have hnot : ∀ o m, v.order? = some o → v.load.2 ≠ .ok m := fun o m ho hload =>
        hmade ⟨o, m, ho, hload⟩
      have hnow : (Exchange.mk fresh v).made? = none := by
        unfold Exchange.made?
        split
        · next o m _ ho hload => exact absurd hload (hnot o m ho)
        · rfl
      rw [List.filterMap_cons_none hnow, after_of_none monitor_fresh hnot, firstMade?_of_not_made hnot, ih]

/-- **The service is its monitor.**  However it is visited, it makes one monitor at most, at the first order at which
one can be made; the monitor that it has then is the one that follows the orders; and each visit does what it
should. -/
theorem refines_monitor (visits : List Visit) :
    (fresh.afterVisits visits).monitor =
        ((firstMade? visits).map fun made => made.2.foldl Monitor.follow made.1) ∧
      (fresh.exchanges visits).filterMap Exchange.made? = ((firstMade? visits).map Prod.fst).toList ∧
      ∀ e ∈ fresh.exchanges visits, e.Proper :=
  ⟨monitor_afterVisits visits, made_exchanges visits, fun _ he => proper_exchange open_fresh he⟩

end Service

end SourceWatch
