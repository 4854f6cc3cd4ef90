import SourceWatch.Proofs.Dispatcher.Effects
import SourceWatch.Proofs.Files.Walk
import SourceWatch.Proofs.Monitor.Attempts

/-!
# The views of one scan

A scan that is completed is told in four ways: by its report, by the ledger, by what the sinks are handed
and by the count of scans.  They all agree with offering what there is to see to the ledger, one finding
after the other.

Main definitions:

* `Monitor.ViewsAgree`: the four views of a scan agree.

Main statement: `Run.scan_viewsAgree`.
-/

namespace SourceWatch

namespace Monitor

/-- **The views of a scan agree.**  They all tell what became of the findings that there were to see. -/
structure ViewsAgree (m : Monitor) (c : Circumstances) (r : Report) : Prop where
  raw : r.rawFindings = (m.seen c).length
  split : r.rawFindings = r.suppressed + r.findings.length
  findings : r.findings = (m.ledger.acceptAll (m.seen c)).2
  inOrder : r.findings.Sublist (m.seen c)
  ledger : (m.scan c).monitor.ledger = (m.ledger.acceptAll (m.seen c)).1
  jobs : m.jobs c .scan = r.findings.flatMap fun f => m.dispatcher.jobsFor (.finding f)
  perSink : ∀ index sink, m.dispatcher.sinks[index]? = some sink →
    (m.jobs c .scan).filter (fun job => job.index = index) =
      r.findings.map fun f => ⟨index, sink, .finding f⟩
  carriesOut : CarriesOut c.around (m.jobs c .scan) (m.scan c).events
  received : ∀ index sink, m.dispatcher.sinks[index]? = some sink → sink.Observes →
    (Event.deliveries (m.scan c).events).filter (fun delivery => delivery.1 = index) =
      r.findings.map fun f => (index, .finding f)
  files : r.filesScanned = (m.walker.traverse c.files m.root).files.length
  cycle : r.cycle = (m.scan c).monitor.cycles
  counted : (m.scan c).monitor.cycles = m.cycles + 1
  stamped : ∀ f ∈ m.seen c, f.cycle = r.cycle

variable {m : Monitor} {c : Circumstances} {r : Report}

theorem viewsAgree_of_completes (hd : m.dispatcher.deferred = false) (h : (m.scan c).result = .ok r) :
    m.ViewsAgree c r := by
  have hattempt := scan_attempts m c
  have hcarry := perform_carriesOut hd c .scan
  have hlength := (m.ledger.acceptAll_sublist (m.seen c)).length_le
  rw [h] at hattempt
  generalize hn : (m.scan c).monitor = n at hattempt
  generalize hj : m.jobs c .scan = jobs at hattempt hcarry
  cases hattempt with
  | completed idle whole =>
    have hraw := rawFindings_eq_seen m c
    have hsent : ∀ index sink, m.dispatcher.sinks[index]? = some sink →
        (m.novelJobs c).filter (fun job => job.index = index) =
          (m.novel c).map fun f => ⟨index, sink, .finding f⟩ := fun index sink hsink => by
      have hfilter := Dispatcher.filter_jobsFor_flatMap hsink ((m.novel c).map .finding)
      rw [List.flatMap_map, List.map_map] at hfilter
      exact hfilter
    exact
      { raw := by rw [reportOf, hraw]
        split := by
          simp only [reportOf, novel, hraw]
          omega
        findings := by rw [reportOf, novel, hraw]
        inOrder := by
          rw [reportOf, novel, hraw]
          exact m.ledger.acceptAll_sublist (m.seen c)
        ledger := by rw [hn, afterScan, hraw]
        jobs := hj
        perSink := fun index sink hsink => hj ▸ hsent index sink hsink
        carriesOut := hj ▸ hcarry
        received := fun index sink hsink observes => hcarry.deliveries_of_observes observes (hsent index sink hsink)
        files := rfl
        cycle := by rw [hn]; rfl
        counted := by rw [hn]; rfl
        stamped := fun f hf => cycle_of_mem_seen hf }

end Monitor

namespace Run

variable {start m : Monitor} {past : List Moment}

/-- **Four views of one scan.**  After every run, the views of a scan that is completed agree; and before the
monitor is closed, every scan is completed unless another is in progress. -/
theorem scan_viewsAgree (made : start.Made) (run : Run start past m) (c : Circumstances) :
    (∀ r, (m.scan c).result = .ok r → m.ViewsAgree c r) ∧
      ((∀ t ∈ past, t.action ≠ .close) → c.busy = false → ∃ r, (m.scan c).result = .ok r) := by
  refine ⟨fun r => Monitor.viewsAgree_of_completes (run.deferred_eq_false made), fun hopen idle => ?_⟩
  have haccepts := Dispatcher.refuses_of_open (run.closed_eq_false made hopen)
  exact ⟨_, ((Monitor.scan_attempts m c).of_accepts haccepts idle).2.1⟩

theorem scan_viewsAgree_plain :
    let anomaly : Anomaly := ⟨"Process", .low, "unknown process", "ps"⟩
    let m := (Monitor.plain.perform Monitor.quiet .test).monitor.probing (.static [anomaly, anomaly])
    ∃ r, (m.scan Monitor.quiet).result = .ok r ∧ m.ViewsAgree Monitor.quiet r ∧
      r.rawFindings = 2 ∧ r.findings.length = 1 := by
  intro anomaly m
  have hrun := (Run.step (@Run.here Monitor.plain) Monitor.quiet .test nofun).probe
    (.static [anomaly, anomaly])
  obtain ⟨hviews, hcompletes⟩ := scan_viewsAgree Monitor.made_plain hrun Monitor.quiet
  obtain ⟨r, hr⟩ := hcompletes (by simp) rfl
  have hwalk : m.walker.traverse [] m.root = ⟨[], []⟩ := by
    refine (Walker.traverse_of_folder m.walker (Monitor.resolve_defaultRoot [])).trans ?_
    simp [Walker.listing, Walker.filesIn, Walker.filesBelow]
  have hseen : m.seen Monitor.quiet =
      [anomaly, anomaly].map (Finding.ofAnomaly (m.nextStamp Monitor.quiet)) := by
    show (m.walker.traverse [] m.root).files.flatMap _ ++ _ = _
    rw [hwalk]
    rfl
  refine ⟨r, hr, hviews r hr, ?_, ?_⟩
  · rw [(hviews r hr).raw, hseen]
    rfl
  · rw [(hviews r hr).findings, hseen]
    decide +kernel

end Run

end SourceWatch
