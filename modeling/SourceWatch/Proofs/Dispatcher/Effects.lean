import SourceWatch.Proofs.Dispatcher.Jobs

/-!
# What jobs do, and what becomes of it when sinks fail

Besides writing records, a job makes a delivery, sends a request or runs the speech command.  A sink that always
fails does none of this.  Replacing sinks by ones that always fail changes their jobs, and leaves those of the
others as they are.

Main definitions:

* `Event.effects`, `Job.effects`: what events and jobs do besides writing records;
* `Sink.Observes`: a sink that receives the findings that it is handed as they are;
* `Job.failingAt`, `Dispatcher.failingAt`: jobs and dispatchers with some sinks replaced by ones that always fail.

Main statements:

* `CarriesOut.effects_eq`: what is done is what the jobs do, one after the other;
* `CarriesOut.deliveries_of_observes`: what a sink that observes receives;
* `Dispatcher.jobsFor_failingAt`, `Dispatcher.refuses_failingAt`: what is handed out when sinks fail;
* `Job.flatMap_effects_failingAt`: what the jobs do when sinks fail.
-/

namespace SourceWatch

namespace Event

/-- Whether an event is only that a record is written. -/
def isRecord : Event → Bool
  | logged _ => true
  | _ => false

/-- The events other than records. -/
def effects (events : List Event) : List Event :=
  events.filter fun event => !event.isRecord

theorem effects_append (events more : List Event) :
    effects (events ++ more) = effects events ++ effects more :=
  List.filter_append _ _

theorem deliveries_append (events more : List Event) :
    deliveries (events ++ more) = deliveries events ++ deliveries more :=
  List.filterMap_append

theorem requests_append (events more : List Event) :
    requests (events ++ more) = requests events ++ requests more :=
  List.filterMap_append

/-- Records are no deliveries. -/
theorem deliveries_effects (events : List Event) : deliveries (effects events) = deliveries events := by
  induction events with
  | nil => rfl
  | cons event events ih =>
    cases event with
    | logged r => exact ih
    | delivered place payload => exact congrArg (List.cons (place, payload)) ih
    | posted request => exact ih
    | spoken run => exact ih

end Event

namespace Sink

variable {around : Surroundings} {delivery : ℕ × Payload}

theorem not_mem_deliveries_speak (v : Voice) (outcome : SpeechOutcome) (message : String) :
    delivery ∉ Event.deliveries (v.speak outcome message).1 := by
  unfold Voice.speak
  split <;> exact List.not_mem_nil

theorem not_mem_deliveries_sendText (t : TextMessenger) (outcome : GatewayOutcome) (f : Finding) :
    delivery ∉ Event.deliveries (t.send outcome f).1 := by
  unfold TextMessenger.send
  split
  · exact List.not_mem_nil
  · split
    · exact List.not_mem_nil
    · split <;> exact List.not_mem_nil

/-- A sink makes no deliveries in place of another. -/
theorem place_of_mem_deliveries {index : ℕ} {sink : Sink} {payload : Payload}
    (h : delivery ∈ Event.deliveries (sink.accept around index payload).1) : delivery.1 = index := by
  have hown : ∀ payload, delivery ∈ Event.deliveries [.delivered index payload] → delivery.1 = index := by
    intro payload h
    rw [List.mem_singleton.mp h]
  cases payload with
  | finding f =>
    cases sink with
    | observer => exact hown _ h
    | mute => exact hown _ h
    | plain => exact hown _ h
    | log => cases h
    | voice v => exact absurd h (not_mem_deliveries_speak v _ _)
    | textMessage t => exact absurd h (not_mem_deliveries_sendText t _ _)
    | failing reason => cases h
  | announcement message =>
    cases sink with
    | observer => exact hown _ h
    | voice v => exact absurd h (not_mem_deliveries_speak v _ _)
    | _ => cases h

end Sink

namespace Job

variable {around : Surroundings} {jobs : List Job}

/-- What carrying out a job does besides writing records. -/
def effects (around : Surroundings) (job : Job) : List Event :=
  Event.effects (job.perform around)

/-- Failing only adds a record. -/
theorem effects_eq_accept (around : Surroundings) (job : Job) :
    job.effects around = Event.effects (job.sink.accept around job.index job.payload).1 := by
  rw [effects, perform]
  rcases job.sink.accept around job.index job.payload with ⟨events, _ | failure⟩
  · rfl
  · rw [Event.effects_append]
    exact List.append_nil _

/-- A job delivers to its own sink only. -/
theorem place_of_mem_deliveries {job : Job} {delivery : ℕ × Payload}
    (h : delivery ∈ Event.deliveries (job.effects around)) : delivery.1 = job.index := by
  rw [effects_eq_accept, Event.deliveries_effects] at h
  exact Sink.place_of_mem_deliveries h

/-- The deliveries to some of the sinks are made by the jobs for them. -/
theorem filter_deliveries (p : ℕ → Bool) (jobs : List Job) :
    (Event.deliveries (jobs.flatMap (effects around))).filter (fun delivery => p delivery.1) =
      Event.deliveries ((jobs.filter fun job => p job.index).flatMap (effects around)) := by
  induction jobs with
  | nil => rfl
  | cons job jobs ih =>
    rw [List.flatMap_cons, Event.deliveries_append, List.filter_append, ih]
    cases hp : p job.index with
    | true =>
      have hkept : (Event.deliveries (job.effects around)).filter (fun delivery => p delivery.1) =
          Event.deliveries (job.effects around) := by
        rw [List.filter_eq_self]
        intro delivery h
        rw [place_of_mem_deliveries h, hp]
      have hcons : (job :: jobs).filter (fun job => p job.index) =
          job :: jobs.filter fun job => p job.index := List.filter_cons_of_pos hp
      rw [hkept, hcons, List.flatMap_cons, Event.deliveries_append]
    | false =>
      have hgone : (Event.deliveries (job.effects around)).filter (fun delivery => p delivery.1) = [] := by
        rw [List.filter_eq_nil_iff]
        intro delivery h
        rw [place_of_mem_deliveries h, hp]
        exact Bool.false_ne_true
      have hcons : (job :: jobs).filter (fun job => p job.index) = jobs.filter fun job => p job.index :=
        List.filter_cons_of_neg (by rw [hp]; exact Bool.false_ne_true)
      rw [hgone, hcons, List.nil_append]

end Job

/-- **What is done is what the jobs do.** -/
theorem CarriesOut.effects_eq {around : Surroundings} {jobs : List Job} {events : List Event}
    (h : CarriesOut around jobs events) : Event.effects events = jobs.flatMap (Job.effects around) := by
  induction h with
  | nil => rfl
  | record r _ ih => exact ih
  | job j _ ih =>
    rw [Event.effects_append, ih]
    rfl

/-- A sink that receives the findings that it is handed as they are. -/
def Sink.Observes (sink : Sink) : Prop :=
  sink = .observer ∨ sink = .mute ∨ sink = .plain

theorem Sink.Observes.effects {sink : Sink} (h : sink.Observes) (around : Surroundings) (index : ℕ) (f : Finding) :
    Job.effects around ⟨index, sink, .finding f⟩ = [.delivered index (.finding f)] := by
  rcases h with rfl | rfl | rfl <;> rfl

/-- **A sink that observes receives the findings of its jobs,** once each and in their order. -/
theorem CarriesOut.deliveries_of_observes {around : Surroundings} {jobs : List Job} {events : List Event} {sink : Sink}
    {index : ℕ} {findings : List Finding} (h : CarriesOut around jobs events) (observes : sink.Observes)
    (hjobs : jobs.filter (fun job => job.index = index) = findings.map fun f => ⟨index, sink, .finding f⟩) :
    (Event.deliveries events).filter (fun delivery => delivery.1 = index) =
      findings.map fun f => (index, .finding f) := by
  have hown : (Event.deliveries (jobs.flatMap (Job.effects around))).filter (fun delivery => delivery.1 = index) =
      Event.deliveries ((jobs.filter fun job => job.index = index).flatMap (Job.effects around)) :=
    Job.filter_deliveries (fun place => decide (place = index)) jobs
  rw [← Event.deliveries_effects, h.effects_eq, hown, hjobs]
  clear hown hjobs h
  induction findings with
  | nil => rfl
  | cons f findings ih =>
    rw [List.map_cons, List.flatMap_cons, Event.deliveries_append, ih, observes.effects]
    rfl

/-! ### Sinks that fail -/

variable (broken : ℕ → Option String)

/-- The sink at place `index`, or one that always fails if there is a reason for it. -/
def Sink.failingAt (index : ℕ) (sink : Sink) : Sink :=
  match broken index with
  | some reason => .failing reason
  | none => sink

/-- The job when sinks fail. -/
def Job.failingAt (job : Job) : Job :=
  { job with sink := job.sink.failingAt broken job.index }

/-- The dispatcher when sinks fail. -/
def Dispatcher.failingAt (d : Dispatcher) : Dispatcher :=
  { d with
    sinks := d.sinks.mapIdx (Sink.failingAt broken)
    queue := d.queue.map (Job.failingAt broken) }

namespace Job

/-- The jobs for the sinks that are left. -/
def forOthers (jobs : List Job) : List Job :=
  jobs.filter fun job => (broken job.index).isNone

theorem forOthers_cons_of_none {job : Job} (h : broken job.index = none) (jobs : List Job) :
    forOthers broken (job :: jobs) = job :: forOthers broken jobs :=
  List.filter_cons_of_pos (by rw [h]; rfl)

theorem forOthers_cons_of_some {job : Job} {reason : String} (h : broken job.index = some reason)
    (jobs : List Job) : forOthers broken (job :: jobs) = forOthers broken jobs :=
  List.filter_cons_of_neg (by rw [h]; nofun)

theorem failingAt_of_none {job : Job} (h : broken job.index = none) : job.failingAt broken = job := by
  rw [failingAt, Sink.failingAt, h]

theorem effects_failingAt_of_some {job : Job} {reason : String} (h : broken job.index = some reason)
    (around : Surroundings) : (job.failingAt broken).effects around = [] := by
  rw [effects_eq_accept, failingAt, Sink.failingAt, h]
  cases job.payload <;> rfl

/-- **The jobs for the other sinks stay as they are.** -/
theorem forOthers_failingAt (jobs : List Job) :
    forOthers broken (jobs.map (failingAt broken)) = forOthers broken jobs := by
  induction jobs with
  | nil => rfl
  | cons job jobs ih =>
    rw [List.map_cons]
    cases h : broken job.index with
    | none => rw [failingAt_of_none broken h, forOthers_cons_of_none broken h, forOthers_cons_of_none broken h, ih]
    | some reason =>
      have hindex : broken (job.failingAt broken).index = some reason := h
      rw [forOthers_cons_of_some broken hindex, forOthers_cons_of_some broken h, ih]

/-- **What the jobs do when sinks fail.**  It is what the jobs for the other sinks do. -/
theorem flatMap_effects_failingAt (around : Surroundings) (jobs : List Job) :
    (jobs.map (failingAt broken)).flatMap (effects around) =
      (forOthers broken jobs).flatMap (effects around) := by
  induction jobs with
  | nil => rfl
  | cons job jobs ih =>
    rw [List.map_cons, List.flatMap_cons, ih]
    cases h : broken job.index with
    | none =>
      rw [failingAt_of_none broken h, forOthers_cons_of_none broken h]
      rfl
    | some reason =>
      rw [effects_failingAt_of_some broken h, forOthers_cons_of_some broken h]
      rfl

end Job

namespace Dispatcher

theorem refuses_failingAt (d : Dispatcher) : (d.failingAt broken).refuses = d.refuses := by
  have hempty : (d.sinks.mapIdx (Sink.failingAt broken)).isEmpty = d.sinks.isEmpty := by
    cases hs : d.sinks <;> simp
  exact congrArg (fun none => d.closed && !none) hempty

/-- Each sink that fails is handed what the sink in its place would be handed. -/
theorem jobsFor_failingAt (d : Dispatcher) (payload : Payload) :
    (d.failingAt broken).jobsFor payload = (d.jobsFor payload).map (Job.failingAt broken) := by
  refine List.ext_getElem? fun index => ?_
  simp only [jobsFor, failingAt, List.getElem?_map, List.getElem?_zipIdx, List.getElem?_mapIdx]
  cases d.sinks[index]? with
  | none => rfl
  | some sink => simp [Job.failingAt]

theorem taking_failingAt (d : Dispatcher) (jobs : List Job) :
    (d.failingAt broken).taking (jobs.map (Job.failingAt broken)) = (d.taking jobs).failingAt broken := by
  unfold taking
  cases hd : d.deferred with
  | true => simp [failingAt, hd]
  | false => simp [failingAt, hd]

end Dispatcher

end SourceWatch
