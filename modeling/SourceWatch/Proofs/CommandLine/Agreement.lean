import SourceWatch.Proofs.CommandLine.Setup
import SourceWatch.Proofs.Dispatcher.Effects
import SourceWatch.Proofs.Json.Documents
import SourceWatch.Proofs.Monitor.Session
import SourceWatch.Proofs.Service.Visits

/-!
# The command line and the service

A scan, a test or a question for the status comes to the same on the command line and as the first visit of the
service: the document that is printed is the one that is answered, and the events are the same up to the closing of
the monitor, which the service leaves to its shutdown.  When no monitor can be made, the run ends with exit code 1 and
prints nothing, whether or not its message tells why.

Main definitions:

* `SameOrder`: arguments and a request that ask for the same;
* `Answered`: a run that prints a document and a response that holds it;
* `SurfacesAgree`: a run and a visit that come to the same.

Main statements:

* `Monitor.execute_of_success`: a command prints what the service answers;
* `surfaces_agree`.
-/

namespace SourceWatch

open Service Text

/-! ### Commands and orders -/

namespace CommandLine

/-- The commands that come to an order, and leave the monitor without a session. -/
inductive Command.ComesTo : Command → Order → Prop
  | scan : ComesTo .scan .scan
  | status : ComesTo .status .status
  | test : ComesTo .test .test

/-- An override that names no root is none. -/
theorem load_overrides_none (files : Folder) (env : Environment) (voice : Voice) :
    Monitor.load files env voice none (overrides none) = Monitor.load files env voice none [] :=
  rfl

end CommandLine

namespace Monitor

open CommandLine

variable {m n : Monitor} {c : Circumstances} {o : Order} {command : Command} {interval : Option Int}
  {events : List Event} {value : Json}

/-- **A command prints what the service answers.** -/
theorem execute_of_success (same : command.ComesTo o) (hobey : m.obey c o = (n, events, .success value)) :
    execute m c interval command = (happenings events ++ [document value], 0, n) := by
  cases same with
  | scan =>
    unfold obey at hobey
    unfold execute
    cases hresult : (m.scan c).result with
    | ok report =>
      simp only [hresult] at hobey ⊢
      cases hobey
      rfl
    | error fault => cases fault <;> simp only [hresult] at hobey <;> cases hobey
  | status =>
    cases hobey
    rfl
  | test =>
    unfold obey at hobey
    unfold execute
    cases hresult : (m.sendTest c).result with
    | ok finding =>
      simp only [hresult] at hobey ⊢
      cases hobey
      rfl
    | error fault =>
      simp only [hresult] at hobey
      cases hobey

/-- A scan while another one is in progress. -/
theorem execute_of_busy (busy : c.busy = true) (m : Monitor) (interval : Option Int) :
    execute m c interval .scan = ([.complained s!"Busy: {MonitorFault.scanInProgress.message}\n"], 2, m) := by
  have hscan : m.scan c = m.refuse .scanInProgress := by rw [scan, if_pos busy]
  simp only [execute, hscan]
  rfl

theorem running_following (same : command.ComesTo o) (m : Monitor) (c : Circumstances) :
    (m.following c o).1.running = m.running := by
  cases same with
  | scan => exact (perform_performs m c .scan).running_eq rfl
  | status => rfl
  | test => exact (perform_performs m c .test).running_eq rfl

/-- The events of closing a monitor without a session. -/
theorem close_of_idle (idle : m.running = false) (c : Circumstances) :
    (m.close c).events = [note .info "Monitoring is not active"] := by
  simp only [close, stop_of_idle idle]

/-- A scan while another one is in progress leaves the monitor as it is. -/
theorem following_of_busy (busy : c.busy = true) (m : Monitor) : m.following c .scan = (m, []) := by
  have hscan : m.scan c = m.refuse .scanInProgress := by rw [scan, if_pos busy]
  simp only [following, Order.action?, perform, hscan]
  rfl

/-- A document that an order yields is read back as it is printed. -/
theorem Yields.read_pretty (h : m.Yields c o value) (short : value.isShort = true) :
    Json.read (value.pretty ++ "\n").toList = .ok value := by
  have hblank : ∀ c ∈ ['\n'], Json.isBlank c = true := by
    simp only [List.mem_singleton, forall_eq]
    rfl
  rw [String.toList_append]
  cases h with
  | scan => exact Json.readWithin_print (Report.faithful_toJson short) (by decide) (some 2) hblank
  | start => exact Json.readWithin_print (Status.faithful_toJson short) (by decide) (some 2) hblank
  | stop => exact Json.readWithin_print (Status.faithful_toJson short) (by decide) (some 2) hblank
  | status => exact Json.readWithin_print (Status.faithful_toJson short) (by decide) (some 2) hblank
  | test => exact Json.readWithin_print (Finding.faithful_toJson short) (by decide) (some 2) hblank

end Monitor

/-! ### Runs and visits -/

open CommandLine

/-- **Arguments and a request that ask for the same,** and name neither a root nor a configuration file. -/
structure SameOrder (arguments : List String) (request : Request) (o : Order) : Prop where
  line : ∃ r command, parse arguments = .ok r ∧ r.root = none ∧ r.config = none ∧ r.command = some command ∧
    command.ComesTo o
  asks : request.Asks o

/-- A run that prints a document, and a response that holds it. -/
structure Answered (run : CommandLine.Run) (response : Response) (value : Json) : Prop where
  ending : run.ending = .exited 0
  output : standardOutput run.lines = value.pretty ++ "\n"
  readBack : value.isShort = true → Json.read (standardOutput run.lines).toList = .ok value
  status : response.status = 200
  body : response.body = .document value

/-- A run and a response that tell of another scan. -/
structure ToldBusy (run : CommandLine.Run) (response : Response) : Prop where
  ending : run.ending = .exited 2
  output : standardOutput run.lines = ""
  complaint : .complained s!"Busy: {MonitorFault.scanInProgress.message}\n" ∈ run.lines
  status : response.status = 409
  body : response.body = .document (.record [("detail", .string MonitorFault.scanInProgress.message)])

/-- **A run and a visit that come to the same,** with one order. -/
structure SurfacesAgree (o : Order) (run : CommandLine.Run) (e : Exchange) : Prop where
  succeeds : ∀ m, e.visit.load.2 = .ok m → ¬ (o = .scan ∧ e.visit.circumstances.busy = true) →
    ∃ value, m.Yields e.visit.circumstances o value ∧ Answered run e.response value
  busy : ∀ m, e.visit.load.2 = .ok m → o = .scan ∧ e.visit.circumstances.busy = true → ToldBusy run e.response
  /-- The run closes the monitor, as the service does at its shutdown. -/
  effects : ∀ m, e.visit.load.2 = .ok m →
    eventsOf run.lines = e.events ++ (e.after.shutdown e.visit.circumstances).2.1
  requests : Event.requests (eventsOf run.lines) = Event.requests e.events
  /-- The exit code is 1 and nothing is printed just in case no monitor can be made. -/
  fails : run.ending.exitCode = 1 ∧ standardOutput run.lines = "" ↔ ∃ fault, e.visit.load.2 = .error fault
  /-- A message tells of a failure that is reported, and of no other. -/
  tells : ∀ fault, e.visit.load.2 = .error fault →
    if fault.isReported = true then Refuses run fault.message else Breaks run fault

variable {arguments : List String} {v : Visit} {o : Order} {m : Monitor} {making : List Event} {command : Command}
  {r : CommandLine.Reading} {fault : SetupFault} {result : Except SetupFault Monitor}

/-- A record sends nothing. -/
theorem requests_append_note (events : List Event) (message : String) :
    Event.requests (events ++ [Monitor.note .info message]) = Event.requests events := by
  rw [Event.requests_append]
  exact List.append_nil _

theorem load_of_unset (hload : v.load = (making, result)) (hroot : r.root = none) (hconfig : r.config = none) :
    Monitor.load v.circumstances.files v.environment v.voice r.config (overrides r.root) = (making, result) := by
  rw [hroot, hconfig, load_overrides_none]
  exact hload

/-- No monitor can be made. -/
theorem surfacesAgree_of_fault (hload : v.load = (making, .error fault)) (horder : v.order? = some o)
    (hroot : r.root = none) (hconfig : r.config = none) :
    SurfacesAgree o (runCommand v.circumstances v.environment v.voice r command) ⟨fresh, v⟩ := by
  have hhandle := Exchange.handle_of_fault (e := ⟨fresh, v⟩) horder hload
  have hsetup := load_of_unset hload hroot hconfig
  have hevents : (Exchange.mk fresh v).events = making := by rw [Exchange.events, hhandle]
  have hnone : ∀ m, v.load.2 ≠ .ok m := fun m h => by
    rw [hload] at h
    cases h
  have htells : if fault.isReported = true then
      Refuses (runCommand v.circumstances v.environment v.voice r command) fault.message
      else Breaks (runCommand v.circumstances v.environment v.voice r command) fault := by
    split
    · next hreported => exact refuses_of_reported hsetup hreported
    · next hunreported => exact breaks_of_unreported hsetup (Bool.eq_false_iff.mpr hunreported)
  refine
    { succeeds := fun m h => absurd h (hnone m)
      busy := fun m h => absurd h (hnone m)
      effects := fun m h => absurd h (hnone m)
      requests := ?_
      fails := ?_
      tells := ?_ }
  · rw [hevents]
    cases hreported : fault.isReported with
    | true => rw [runCommand_of_reported hsetup hreported, eventsOf_append, eventsOf_happenings,
        eventsOf_complained, List.append_nil]
    | false => rw [runCommand_of_unreported hsetup hreported, eventsOf_happenings]
  · refine iff_of_true ?_ ⟨fault, by rw [hload]⟩
    split at htells
    · exact ⟨htells.exitCode, htells.output⟩
    · exact ⟨htells.exitCode, htells.output⟩
  · intro other hother
    rw [hload] at hother
    cases hother
    exact htells

/-- A run and a visit that carry out one operation: the run adds one line, and the visit answers with a document. -/
structure CarriedOut (run : CommandLine.Run) (e : Exchange) (line : Line) (code status : ℕ) (value : Json) : Prop where
  ending : run.ending = .exited code
  output : standardOutput run.lines = standardOutput [line]
  line : line ∈ run.lines
  effects : eventsOf run.lines = e.events ++ (e.after.shutdown e.visit.circumstances).2.1
  requests : Event.requests (eventsOf run.lines) = Event.requests e.events
  status : e.response.status = status
  body : e.response.body = .document value

theorem carriedOut_of_execute {n : Monitor} {events : List Event} {line : Line} {code status : ℕ} {value : Json}
    (hload : v.load = (making, .ok m)) (horder : v.order? = some o) (hroot : r.root = none) (hconfig : r.config = none)
    (hexecute : execute m v.circumstances r.interval command = (happenings events ++ [line], code, n))
    (hobey : m.obey v.circumstances o = (n, events, .document status [] value)) (sendable : value.isSendable = true)
    (hline : eventsOf [line] = []) (idle : n.running = false) :
    CarriedOut (runCommand v.circumstances v.environment v.voice r command) ⟨fresh, v⟩ line code status value := by
  have hhandle := Exchange.handle_of_obtain (e := ⟨fresh, v⟩) horder hload
  rw [hobey] at hhandle
  have hasks := (Exchange.order?_eq_some_iff v o).mp horder
  obtain ⟨hstatus, hbody⟩ : (v.request.respond (.document status [] value)).status = status ∧
      (v.request.respond (.document status [] value)).body = .document value :=
    Exchange.respond_of_sendable sendable (Request.verb_ne_head hasks)
  have hclose := Monitor.close_of_idle idle v.circumstances
  have hrun : runCommand v.circumstances v.environment v.voice r command =
      ⟨v.environment.chosenRank r.logLevel, happenings making ++ (happenings events ++ [line]) ++
        happenings [Monitor.note .info "Monitoring is not active"], .exited code⟩ := by
    rw [runCommand_of_load (load_of_unset hload hroot hconfig), hexecute, hclose]
  have hevents : (Exchange.mk fresh v).events = making ++ events := by rw [Exchange.events, hhandle]
  have hshutdown : ((Exchange.mk fresh v).after.shutdown v.circumstances).2.1 =
      [Monitor.note .info "Monitoring is not active"] := by
    rw [Exchange.after, hhandle]
    exact hclose
  have hlines : eventsOf (runCommand v.circumstances v.environment v.voice r command).lines =
      making ++ events ++ [Monitor.note .info "Monitoring is not active"] := by
    simp only [hrun, eventsOf_append, eventsOf_happenings, hline, List.append_nil]
  exact
    { ending := by rw [hrun]
      output := by simp only [hrun, standardOutput_append, standardOutput_happenings, String.empty_append,
        String.append_empty]
      line := by simp [hrun]
      effects := by rw [hlines, hevents, hshutdown]
      requests := by rw [hlines, hevents, requests_append_note]
      status := by
        rw [Exchange.response, hhandle]
        exact hstatus
      body := by
        rw [Exchange.response, hhandle]
        exact hbody }

/-- A run on a monitor that was made ends with exit code 1 under no circumstances. -/
theorem fails_iff_of_load {run : CommandLine.Run} {code : ℕ} (hmade : v.load.2 = .ok m)
    (hending : run.ending = .exited code) (hcode : code ≠ 1) :
    run.ending.exitCode = 1 ∧ standardOutput run.lines = "" ↔ ∃ fault, v.load.2 = .error fault := by
  refine iff_of_false (fun hfailed => hcode ?_) fun ⟨fault, hfault⟩ => nomatch hmade.symm.trans hfault
  rw [hending] at hfailed
  exact hfailed.1

/-- A monitor is made. -/
theorem surfacesAgree_of_load (same : command.ComesTo o) (hload : v.load = (making, .ok m))
    (horder : v.order? = some o) (hroot : r.root = none) (hconfig : r.config = none) :
    SurfacesAgree o (runCommand v.circumstances v.environment v.voice r command) ⟨fresh, v⟩ := by
  have hmade : v.load.2 = .ok m := by rw [hload]
  have hidle : (m.following v.circumstances o).1.running = false := by
    rw [Monitor.running_following same]
    obtain ⟨config, ledger, sinks, probe, -, rfl⟩ := (Service.made_of_load hmade).eq_initial
    rfl
  have hasks := (Exchange.order?_eq_some_iff v o).mp horder
  by_cases hbusy : o = .scan ∧ v.circumstances.busy = true
  · obtain ⟨rfl, busy⟩ := hbusy
    cases same
    have hobey := Monitor.obey_of_busy busy m
    rw [Monitor.following_of_busy busy] at hobey hidle
    have hsendable : (Json.record [("detail", .string MonitorFault.scanInProgress.message)]).isSendable = true := by
      rw [Json.isSendable_record]
      simp
    have h := carriedOut_of_execute hload horder hroot hconfig (Monitor.execute_of_busy busy m r.interval) hobey
      hsendable rfl hidle
    exact
      { succeeds := fun _ _ hidle => absurd ⟨rfl, busy⟩ hidle
        busy := fun _ _ _ => ⟨h.ending, h.output, h.line, h.status, h.body⟩
        effects := fun _ _ => h.effects
        requests := h.requests
        fails := fails_iff_of_load hmade h.ending (by decide)
        tells := fun fault hfault => nomatch hmade.symm.trans hfault }
  · obtain ⟨value, hyields, hobey⟩ := Monitor.obey_of_accepts
      (Dispatcher.refuses_of_open (Service.closed_of_load hmade)) hasks.acceptable hbusy
    have h := carriedOut_of_execute hload horder hroot hconfig (Monitor.execute_of_success same hobey) hobey
      hyields.isSendable (eventsOf_document value) hidle
    have houtput := h.output.trans (standardOutput_document value)
    refine
      { succeeds := fun n hn _ => ?_
        busy := fun _ _ hscan => absurd hscan hbusy
        effects := fun _ _ => h.effects
        requests := h.requests
        fails := fails_iff_of_load hmade h.ending (by decide)
        tells := fun fault hfault => nomatch hmade.symm.trans hfault }
    rw [hmade] at hn
    cases hn
    refine ⟨value, hyields, h.ending, houtput, fun short => ?_, h.status, h.body⟩
    rw [houtput]
    exact hyields.read_pretty short

/-- A visit that orders a scan of a tree with one file, with nothing configured. -/
def scanVisit : Visit :=
  ⟨{ Monitor.quiet with files := [("a.py", .file (Utf8.encode "malware".toList))] }, [], .silent,
    ⟨"POST", "/scan", [], ""⟩⟩

theorem sameOrder_scan : SameOrder ["scan"] ⟨"POST", "/scan", [], ""⟩ .scan := by
  have hparse : parse ["scan"] = .ok ⟨none, none, none, some .scan, none, []⟩ := ok_of_toOption (by decide +kernel)
  exact ⟨⟨_, _, hparse, rfl, rfl, rfl, .scan⟩, by decide +kernel, by decide +kernel⟩

/-- A visit that orders a scan when the environment names a configuration file that is no text. -/
def undecodableVisit : Visit :=
  ⟨{ Monitor.quiet with files := invalidByte }, [(Environment.configVariable, "c.json")], .silent,
    ⟨"POST", "/scan", [], ""⟩⟩

end SourceWatch
