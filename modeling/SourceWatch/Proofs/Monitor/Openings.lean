import SourceWatch.Proofs.Monitor.Attempts

/-!
# The records that open scans

Each scan that is begun writes one record that opens it, with the number of the scan.  No other part of the
program writes such a record: neither the sinks, nor the walk, nor the detector, nor the scheduler itself at any
other time.

Main definitions:

* `Event.isOpening`, `Event.openings`: the records that open scans.

Main statements:

* `Monitor.openings_runCycle`: a scan writes one such record;
* `Monitor.openings_perform`: an operation writes one if it begins a scan, and none otherwise.
-/

namespace SourceWatch

namespace Event

/-- Whether an event is a record that opens a scan. -/
def isOpening : Event → Bool
  | .logged r =>
    r.component = .scheduler && "Performing security scan #".toList.isPrefixOf r.message.toList
  | _ => false

/-- The records that open scans. -/
def openings (events : List Event) : List Event :=
  events.filter isOpening

theorem openings_append (events more : List Event) :
    openings (events ++ more) = openings events ++ openings more :=
  List.filter_append ..

theorem openings_cons_of_not {e : Event} (h : e.isOpening = false) (events : List Event) :
    openings (e :: events) = openings events :=
  List.filter_cons_of_neg (by rw [h]; exact Bool.false_ne_true)

theorem openings_append_of_not {e : Event} (h : e.isOpening = false) (events : List Event) :
    openings (events ++ [e]) = openings events := by
  rw [openings_append, openings_cons_of_not h]
  exact List.append_nil _

/-- A record of another component opens no scan. -/
theorem isOpening_logged {r : LogRecord} (h : r.component ≠ .scheduler) :
    (Event.logged r).isOpening = false := by
  simp [isOpening, h]

end Event

open Event

/-! ### The sinks -/

theorem isOpening_of_mem_speak {v : Voice} {outcome : SpeechOutcome} {message : String} {e : Event}
    (h : e ∈ (v.speak outcome message).1) : e.isOpening = false := by
  unfold Voice.speak at h
  split at h
  · rw [List.mem_singleton.mp h]
    exact isOpening_logged nofun
  · rw [List.mem_singleton.mp h]
    rfl

theorem isOpening_of_mem_sendText {m : TextMessenger} {outcome : GatewayOutcome} {f : Finding}
    {e : Event} (h : e ∈ (m.send outcome f).1) : e.isOpening = false := by
  unfold TextMessenger.send at h
  split at h
  · cases h
  · split at h
    · rw [List.mem_singleton.mp h]
      rfl
    · split at h
      · rcases List.mem_cons.mp h with rfl | h
        · rfl
        · rw [List.mem_singleton.mp h]
          exact isOpening_logged nofun
      · rw [List.mem_singleton.mp h]
        rfl

/-- No sink writes a record that opens a scan. -/
theorem isOpening_of_mem_accept {s : Sink} {around : Surroundings} {index : ℕ} {payload : Payload}
    {e : Event} (h : e ∈ (s.accept around index payload).1) : e.isOpening = false := by
  cases payload with
  | finding f =>
    cases s with
    | voice v => exact isOpening_of_mem_speak h
    | textMessage m => exact isOpening_of_mem_sendText h
    | failing reason => cases h
    | log =>
      rw [List.mem_singleton.mp h]
      exact isOpening_logged nofun
    | _ =>
      rw [List.mem_singleton.mp h]
      rfl
  | announcement message =>
    cases s with
    | voice v => exact isOpening_of_mem_speak h
    | observer =>
      rw [List.mem_singleton.mp h]
      rfl
    | log =>
      rw [List.mem_singleton.mp h]
      exact isOpening_logged nofun
    | _ => cases h

theorem openings_accept (s : Sink) (around : Surroundings) (index : ℕ) (payload : Payload) :
    openings (s.accept around index payload).1 = [] := by
  rw [openings, List.filter_eq_nil_iff]
  intro e he
  rw [isOpening_of_mem_accept he]
  exact Bool.false_ne_true

theorem openings_perform (around : Surroundings) (job : Job) : openings (job.perform around) = [] := by
  have haccept := openings_accept job.sink around job.index job.payload
  unfold Job.perform
  split
  · next h => rwa [h] at haccept
  · next failure h =>
    have hrecord : (Event.logged (job.failureRecord failure)).isOpening = false := by
      unfold Job.failureRecord
      split
      · exact isOpening_logged nofun
      · exact isOpening_logged nofun
    rw [h] at haccept
    rw [openings_append_of_not hrecord, haccept]

/-- Carrying out jobs opens no scan. -/
theorem openings_performAll (around : Surroundings) (jobs : List Job) :
    openings (Job.performAll around jobs) = [] := by
  induction jobs with
  | nil => rfl
  | cons job jobs ih =>
    rw [Job.performAll, List.flatMap_cons, openings_append, openings_perform]
    exact ih

/-! ### One scan -/

/-- Taking in sightings opens no scan. -/
theorem Intake.openings_takeAll (around : Surroundings) {seen : List Sighting}
    (h : ∀ record, .noted record ∈ seen → (Event.logged record).isOpening = false) (s : Intake) :
    openings (s.takeAll around seen).1.events = openings s.events := by
  induction seen generalizing s with
  | nil => rfl
  | cons sighting seen ih =>
    have hrest := ih fun record hm => h record (List.mem_cons_of_mem _ hm)
    cases sighting with
    | noted record =>
      rw [takeAll, hrest]
      exact openings_append_of_not (h record List.mem_cons_self) _
    | found f =>
      rw [takeAll]
      split
      · exact hrest _
      · simp only
        split
        · rfl
        · rw [hrest]
          show openings (s.events ++ _) = _
          rw [openings_append, openings_performAll, List.append_nil]

namespace Monitor

/-- A record of the scheduler that begins otherwise opens no scan. -/
theorem isOpening_note {level : Level} {message : String} (h : message.toList.head? ≠ some 'P') :
    (note level message).isOpening = false := by
  simp only [note, Event.log, isOpening]
  cases hm : message.toList with
  | nil => rfl
  | cons ch rest =>
    rw [hm] at h
    have hne : ('P' == ch) = false := by
      simp only [List.head?_cons, ne_eq, Option.some.injEq] at h
      simpa using fun he => h he.symm
    have hstem : "Performing security scan #".toList = 'P' :: "erforming security scan #".toList :=
      rfl
    rw [hstem, List.isPrefixOf_cons_cons, hne]
    rfl

theorem isOpening_scanOpened (cycle : ℕ) (now : Instant) : (scanOpened cycle now).isOpening = true := by
  simp [scanOpened, note, Event.log, isOpening, String.toList_append, toString]

theorem openings_scanOpened {events : List Event} (h : openings events = []) (cycle : ℕ)
    (now : Instant) : openings (scanOpened cycle now :: events) = [scanOpened cycle now] := by
  rw [openings, List.filter_cons_of_pos (isOpening_scanOpened _ _)]
  exact congrArg _ h

theorem isOpening_scanClosed (cycle accepted files : ℕ) :
    (scanClosed cycle accepted files).isOpening = false := by
  unfold scanClosed
  split
  · exact isOpening_note (by simp [String.toList_append, toString])
  · exact isOpening_note (by simp [String.toList_append, toString])

theorem isOpening_of_mem_traverse {w : Walker} {top : Folder} {root : Path} {r : LogRecord}
    (h : r ∈ (w.traverse top root).records) : (Event.logged r).isOpening = false := by
  unfold Walker.traverse at h
  split at h
  · cases h
  · rw [List.mem_singleton.mp h]
    exact isOpening_logged nofun
  · rw [List.mem_singleton.mp h]
    exact isOpening_logged nofun

theorem isOpening_of_mem_scanFile {d : Detector} {top : Folder} {stamp : Stamp} {path : String}
    {r : LogRecord} (h : r ∈ (d.scanFile top stamp path).1) : (Event.logged r).isOpening = false := by
  unfold Detector.scanFile at h
  split at h
  · rw [List.mem_singleton.mp h]
    exact isOpening_logged nofun
  · rw [List.mem_singleton.mp h]
    exact isOpening_logged nofun
  · rw [List.mem_singleton.mp h]
    exact isOpening_logged nofun
  · cases h

/-- Nothing that a scan sees is a record that opens a scan. -/
theorem isOpening_of_mem_sightings {m : Monitor} {c : Circumstances} {stamp : Stamp} {r : LogRecord}
    (h : .noted r ∈ (m.sightings c stamp).1) : (Event.logged r).isOpening = false := by
  rcases List.mem_append.mp h with h | hprobe
  · rcases List.mem_append.mp h with hwalk | hfiles
    · obtain ⟨record, hrecord, he⟩ := List.mem_map.mp hwalk
      cases he
      exact isOpening_of_mem_traverse hrecord
    · obtain ⟨path, -, hpath⟩ := List.mem_flatMap.mp hfiles
      rcases List.mem_append.mp hpath with hrecords | hfound
      · obtain ⟨record, hrecord, he⟩ := List.mem_map.mp hrecords
        cases he
        exact isOpening_of_mem_scanFile hrecord
      · obtain ⟨f, -, he⟩ := List.mem_map.mp hfound
        cases he
  · unfold probeSightings at hprobe
    split at hprobe
    · cases hprobe
    · cases hprobe
    · obtain ⟨a, -, he⟩ := List.mem_map.mp hprobe
      cases he
    · cases List.mem_singleton.mp hprobe
      exact isOpening_note (by simp)

/-- **A scan writes one record that opens it.** -/
theorem openings_runCycle (m : Monitor) (c : Circumstances) :
    openings (m.runCycle c).events = [scanOpened (m.cycles + 1) c.now] := by
  have htake := Intake.openings_takeAll c.around
    (fun r => @isOpening_of_mem_sightings m c ⟨c.newId, c.now, (m.cycles + 1 : ℕ)⟩ r)
    (Intake.start m.ledger m.dispatcher)
  unfold runCycle
  simp only
  split
  · exact openings_scanOpened htake _ _
  · refine openings_scanOpened ?_ _ _
    exact (openings_append_of_not (isOpening_scanClosed _ _ _) _).trans htake

/-! ### One operation -/

theorem openings_scan (m : Monitor) (c : Circumstances) :
    openings (m.scan c).events = if c.busy then [] else [scanOpened (m.cycles + 1) c.now] := by
  unfold scan
  split
  · rfl
  · exact openings_runCycle m c

theorem openings_guardedScan (m : Monitor) (c : Circumstances) :
    openings (m.guardedScan c).2 = if c.busy then [] else [scanOpened (m.cycles + 1) c.now] := by
  rw [← openings_scan]
  simp only [guardedScan]
  split
  · rfl
  · exact openings_append_of_not (isOpening_note (by simp)) _
  · exact openings_append_of_not (isOpening_note (by simp)) _

theorem openings_announce (m : Monitor) (around : Surroundings) (message : String) :
    openings (m.announce around message).events = [] := by
  unfold announce
  split
  · rfl
  · exact openings_performAll _ _

theorem openings_start (m : Monitor) (c : Circumstances) (interval : Option Int) :
    openings (m.start c interval).events =
      match m.scanner (.start interval) with
      | some s => if c.busy then [] else [scanOpened (s.cycles + 1) c.now]
      | none => [] := by
  have hopened : ∀ seconds : Int,
      (note .info s!"Starting continuous security monitoring (every {seconds}s)").isOpening = false :=
    fun seconds => isOpening_note (by simp [String.toList_append, toString])
  cases hrun : m.running with
  | true =>
    rw [start_of_running hrun, scanner, hrun]
    exact openings_cons_of_not (isOpening_note (by simp)) _
  | false =>
    cases hshort : interval.any (· < 1) with
    | true =>
      rw [start_of_short hrun hshort, scanner, hrun, hshort]
      rfl
    | false =>
      cases hclosed : m.dispatcher.refuses with
      | true =>
        rw [start_of_refuses hrun hshort hclosed, scanner, hrun, hshort, hclosed]
        exact openings_cons_of_not (hopened _) _
      | false =>
        rw [start_of_accepts hrun hshort hclosed, scanner_start hrun hshort hclosed]
        refine (openings_cons_of_not (hopened _) _).trans ((openings_append _ _).trans ?_)
        rw [openings_performAll, List.nil_append]
        exact openings_guardedScan (m.announced interval) c

theorem openings_stop (m : Monitor) (c : Circumstances) : openings (m.stop c).events = [] := by
  unfold stop
  split
  · exact openings_cons_of_not (isOpening_note (by simp)) _
  · refine (openings_cons_of_not (isOpening_note (by simp)) _).trans ?_
    exact openings_announce _ _ _

theorem openings_sendTest (m : Monitor) (c : Circumstances) :
    openings (m.sendTest c).events = [] := by
  simp only [sendTest]
  split
  · rfl
  · exact openings_performAll _ _

/-- **Only an operation that begins a scan opens one.** -/
theorem openings_performed (m : Monitor) (c : Circumstances) (a : Action) :
    openings (m.perform c a).events =
      match m.scanner a with
      | some s => if c.busy then [] else [scanOpened (s.cycles + 1) c.now]
      | none => [] := by
  cases a with
  | scan => exact openings_scan m c
  | start interval => exact openings_start m c interval
  | stop => exact openings_stop m c
  | tick => exact openings_guardedScan m c
  | test => exact openings_sendTest m c
  | close =>
    have hclose : (m.close c).events = (m.stop c).events := by
      simp only [close]
      split <;> rfl
    exact (congrArg openings hclose).trans (openings_stop m c)

end Monitor

end SourceWatch
