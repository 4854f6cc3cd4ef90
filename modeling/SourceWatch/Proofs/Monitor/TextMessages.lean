import SourceWatch.Proofs.Monitor.Report
import SourceWatch.Proofs.Sink.TextMessage

/-!
# Text messages of a monitor

A monitor with complete credentials makes one request for each finding that it reports, and without them it makes none
at all.  The account has to make an address: it is part of the address that the request goes to, and one that may not
stand there stops every message.

Main definitions:

* `SendsTextMessages`: what becomes of text messages in an environment.

Main statement: `sendsTextMessages`.
-/

namespace SourceWatch

open Text

/-! ### The requests for a payload -/

namespace Dispatcher

/-- The requests that the jobs for a payload make are made by the sinks, one after the other. -/
theorem requests_jobsFor (d : Dispatcher) (payload : Payload) :
    (d.jobsFor payload).filterMap Job.request? = d.sinks.filterMap (Sink.request? payload) := by
  have hsinks : d.sinks.zipIdx.map Prod.fst = d.sinks := List.zipIdx_map_fst 0 d.sinks
  conv => rhs; rw [← hsinks]
  rw [jobsFor, List.filterMap_map, List.filterMap_map]
  rfl

end Dispatcher

/-- The messenger that a configuration asks for in an environment. -/
def Config.messenger? (config : Config) (env : Environment) : Option TextMessenger :=
  if config.smsEnabled then
    (Credentials.ofEnvironment env).toOption.map fun c => ⟨c, TextMessenger.defaultService⟩
  else none

theorem sinks_defaultSinks (config : Config) (env : Environment) (voice : Voice) :
    (defaultSinks config env voice).2 =
      .log :: (if config.voiceEnabled then [.voice voice] else []) ++
        (config.messenger? env).toList.map .textMessage := by
  unfold defaultSinks Config.messenger?
  cases config.smsEnabled with
  | true => cases Credentials.ofEnvironment env <;> rfl
  | false => rfl

/-- **Of the sinks that a configuration asks for, only the messenger makes requests.** -/
theorem requests_defaultSinks (config : Config) (env : Environment) (voice : Voice) (payload : Payload) :
    (defaultSinks config env voice).2.filterMap (Sink.request? payload) =
      ((config.messenger? env).bind fun m => (Sink.textMessage m).request? payload).toList := by
  have hspoken : (if config.voiceEnabled then [Sink.voice voice] else []).filterMap (Sink.request? payload) = [] := by
    split <;> rfl
  have hlog : Sink.log.request? payload = none := rfl
  rw [sinks_defaultSinks, List.filterMap_append, List.filterMap_cons, hlog]
  simp only [hspoken, List.nil_append]
  cases config.messenger? env with
  | none => rfl
  | some m =>
    show [Sink.textMessage m].filterMap _ = (Sink.request? payload (Sink.textMessage m)).toList
    rw [List.filterMap_cons]
    cases (Sink.textMessage m).request? payload <;> rfl

namespace Monitor

variable {m n : Monitor} {c : Circumstances} {a : Action} {jobs : List Job}

theorem sinks_of_create {config : Config} {files : Folder} {env : Environment} {voice : Voice} {probe : Probe}
    (h : (create config files env voice none probe).2 = .ok m) :
    m.dispatcher.sinks = (defaultSinks config env voice).2 := by
  obtain ⟨ledger, -, -, rfl⟩ := eq_initial_of_create h
  rfl

theorem sink_mem_of_mem_jobsFor {d : Dispatcher} {payload : Payload} {job : Job} (h : job ∈ d.jobsFor payload) :
    job.sink ∈ d.sinks :=
  List.mem_of_getElem? (Dispatcher.mem_jobsFor.mp h).1

theorem Attempt.sink_mem {result : Except MonitorFault Report} (h : Attempt m c n result jobs) {job : Job}
    (hjob : job ∈ jobs) : job.sink ∈ m.dispatcher.sinks := by
  cases h with
  | completed =>
    obtain ⟨f, -, hf⟩ := List.mem_flatMap.mp hjob
    exact sink_mem_of_mem_jobsFor hf
  | _ => cases hjob

/-- **An operation hands its jobs to the sinks of the monitor.** -/
theorem Performs.sink_mem {result : Except MonitorFault Answer} (h : Performs m c a n result jobs) {job : Job}
    (hjob : job ∈ jobs) : job.sink ∈ m.dispatcher.sinks := by
  induction h with
  | scan attempt => exact attempt.sink_mem hjob
  | tick attempt => exact attempt.sink_mem hjob
  | started _ _ _ attempt =>
    rcases List.mem_append.mp hjob with hjob | hjob
    · exact sink_mem_of_mem_jobsFor hjob
    · rw [← sinks_announced]
      exact attempt.sink_mem hjob
  | stopped => exact sink_mem_of_mem_jobsFor hjob
  | tested => exact sink_mem_of_mem_jobsFor hjob
  | closeRefused _ ih => exact ih hjob
  | closed _ ih => exact ih hjob
  | _ => cases hjob

/-! ### Runs -/

end Monitor

variable {env : Environment} {config : Config} {files : Folder} {voice : Voice} {probe : Probe} {start m : Monitor}
  {past : List Moment}

/-- **Without a messenger, no operation makes a request.** -/
theorem Run.requests_eq_nil (run : Run start past m)
    (made : (Monitor.create config files env voice none probe).2 = .ok start) (h : config.messenger? env = none)
    {t : Moment} (ht : t ∈ past) : Event.requests t.outcome.events = [] := by
  obtain ⟨earlier, later, -, hrun, -⟩ := run.exists_of_mem ht
  have hdeferred := hrun.deferred_eq_false ⟨_, _, _, _, _, _, made⟩
  have hcarry := Monitor.perform_carriesOut hdeferred t.circumstances t.action
  have hperforms := Monitor.perform_performs t.before t.circumstances t.action
  rw [Moment.outcome, hcarry.requests_eq, List.filterMap_eq_nil_iff]
  intro job hjob
  have hsink := hperforms.sink_mem hjob
  rw [hrun.sinks_eq, Monitor.sinks_of_create made] at hsink
  have hnone := requests_defaultSinks config env voice job.payload
  rw [h] at hnone
  exact List.filterMap_eq_nil_iff.mp hnone _ hsink

/-- **With a messenger, a scan makes one request for each finding that it reports**, in their order. -/
theorem Run.requests_scan (run : Run start past m)
    (made : (Monitor.create config files env voice none probe).2 = .ok start) {messenger : TextMessenger}
    (h : config.messenger? env = some messenger) {c : Circumstances} {r : Report} (hr : (m.scan c).result = .ok r) :
    Event.requests (m.scan c).events = r.findings.filterMap fun f => (messenger.request f).toOption := by
  have hviews := (run.scan_viewsAgree ⟨_, _, _, _, _, _, made⟩ c).1 r hr
  rw [hviews.carriesOut.requests_eq, hviews.jobs, List.filterMap_flatMap, List.filterMap_eq_flatMap_toList]
  congr 1
  funext f
  rw [Dispatcher.requests_jobsFor, run.sinks_eq, Monitor.sinks_of_create made, requests_defaultSinks, h]
  rfl

/-! ### What becomes of text messages -/

/-- **What becomes of text messages in an environment.** -/
structure SendsTextMessages (env : Environment) : Prop where
  /-- Credentials are complete if all variables are set to something. -/
  complete : ∀ c, Credentials.ofEnvironment env = .ok c ↔ c.StandIn env
  /-- Otherwise the variables that are absent or empty are told of, in the order in which they are declared. -/
  incomplete : ∀ names, Credentials.ofEnvironment env = .error names →
    names ≠ [] ∧ names.Sublist Credentials.variableNames ∧
      ∀ name, name ∈ names ↔ name ∈ Credentials.variableNames ∧ env.Lacks name
  /-- A finding is sent by one request that tells of it, whatever comes of the request. -/
  one : ∀ c service, Credentials.ofEnvironment env = .ok c → (TextMessenger.mk c service).HasAddress →
    ∀ f, ∃ request, (TextMessenger.mk c service).Tells f request ∧
      ∀ outcome, Event.requests ((TextMessenger.mk c service).send outcome f).1 = [request]
  /-- An account of ordinary length makes an address if it holds no control character. -/
  ordinary : ∀ c, c.account.toList.length ≤ 4900 → (∀ d ∈ c.account.toList, Url.isControl d = false) →
    (TextMessenger.mk c TextMessenger.defaultService).HasAddress
  /-- An account that makes no address is not written to, and sending fails. -/
  unaddressed : ∀ c service, Credentials.ofEnvironment env = .ok c → ¬(TextMessenger.mk c service).HasAddress →
    ∀ f outcome, ∃ fault, (TextMessenger.mk c service).send outcome f = ([], some (.badUrl fault))
  /-- A monitor with credentials makes one request for each finding that a scan reports, in their order. -/
  reported : ∀ c config files voice probe start past m, Credentials.ofEnvironment env = .ok c →
    (TextMessenger.mk c TextMessenger.defaultService).HasAddress → config.smsEnabled = true →
    (Monitor.create config files env voice none probe).2 = .ok start → Run start past m →
    ∀ around r, (m.scan around).result = .ok r →
      List.Forall₂ (TextMessenger.mk c TextMessenger.defaultService).Tells r.findings
        (Event.requests (m.scan around).events)
  /-- A monitor without credentials makes no request, whatever it is asked. -/
  silent : ∀ names config files voice probe start past m, Credentials.ofEnvironment env = .error names →
    (Monitor.create config files env voice none probe).2 = .ok start → Run start past m →
    ∀ t ∈ past, Event.requests t.outcome.events = []

theorem TextMessenger.length_path_defaultService : defaultService.path.length ≤ 400 := by
  decide +kernel

/-- If the account makes an address, then there is a request for each finding. -/
theorem TextMessenger.HasAddress.forall₂_tells {messenger : TextMessenger} (h : messenger.HasAddress)
    (fs : List Finding) :
    List.Forall₂ messenger.Tells fs (fs.filterMap fun f => (messenger.request f).toOption) := by
  induction fs with
  | nil => exact .nil
  | cons f fs ih =>
    obtain ⟨request, hrequest⟩ := exists_request_iff.mpr h
    rw [List.filterMap_cons, hrequest]
    exact .cons (tells_of_request hrequest) ih

/-- **What becomes of text messages** in every environment. -/
theorem sendsTextMessages (env : Environment) : SendsTextMessages env where
  complete := fun c => Credentials.ofEnvironment_eq_ok_iff
  incomplete := fun names => Credentials.lacking_of_error
  one := fun c service _ haddress f => by
    obtain ⟨request, hrequest⟩ := TextMessenger.exists_request_iff (f := f).mpr haddress
    refine ⟨request, TextMessenger.tells_of_request hrequest, fun outcome => ?_⟩
    rw [TextMessenger.requests_send, hrequest]
    rfl
  ordinary := fun c hlength hprintable =>
    TextMessenger.hasAddress_of_short hlength TextMessenger.length_path_defaultService hprintable
  unaddressed := fun c service _ haddress f outcome => by
    cases hrequest : (TextMessenger.mk c service).request f with
    | ok request => exact absurd (TextMessenger.exists_request_iff.mp ⟨request, hrequest⟩) haddress
    | error fault => exact ⟨fault, by rw [TextMessenger.send, hrequest]⟩
  reported := fun c config files voice probe start past m hc haddress hsms made run around r hr => by
    have hmessenger : config.messenger? env = some ⟨c, TextMessenger.defaultService⟩ := by
      rw [Config.messenger?, if_pos hsms, hc]
      rfl
    rw [run.requests_scan made hmessenger hr]
    exact haddress.forall₂_tells r.findings
  silent := fun names config files voice probe start past m hnames made run t ht => by
    have hmessenger : config.messenger? env = none := by
      rw [Config.messenger?, hnames]
      exact ite_self _
    exact run.requests_eq_nil made hmessenger ht

/-- An account with a line feed in its middle makes no address, and no finding is sent with it. -/
theorem not_sends_lineFeed :
    let env : Environment :=
      [("TWILIO_SID", "AC\n1"), ("TWILIO_TOKEN", "t"), ("TWILIO_FROM", "+1"), ("TWILIO_TO", "+2")]
    ∃ c, Credentials.ofEnvironment env = .ok c ∧
      ∀ f outcome, Event.requests ((TextMessenger.mk c TextMessenger.defaultService).send outcome f).1 = [] := by
  intro env
  have hc : Credentials.ofEnvironment env = .ok ⟨"AC\n1", "t", "+1", "+2"⟩ := by decide +kernel
  refine ⟨_, hc, fun f outcome => ?_⟩
  have hno : ¬(TextMessenger.mk ⟨"AC\n1", "t", "+1", "+2"⟩ TextMessenger.defaultService).HasAddress := by
    intro haddress
    have hfeed := haddress.printable '\n' (by
      rw [TextMessenger.toList_messages]
      simp)
    exact absurd hfeed (by decide)
  rw [TextMessenger.requests_send]
  cases hrequest : (TextMessenger.mk ⟨"AC\n1", "t", "+1", "+2"⟩ TextMessenger.defaultService).request f with
  | ok request => exact absurd (TextMessenger.exists_request_iff.mp ⟨request, hrequest⟩) hno
  | error fault => rfl

end SourceWatch
