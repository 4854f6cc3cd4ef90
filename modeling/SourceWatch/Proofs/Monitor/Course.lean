import SourceWatch.Proofs.Monitor.Run

/-!
# Courses

A course is what happens to a monitor, one thing after the other, in whatever order.  Other than in a run, a tick
needs no timer: one that is disarmed just when it ticks may still scan.  So courses take in what the runs do.

Main definitions:

* `Turn`: something that happens to a monitor;
* `Monitor.afterAll`: the monitor after a course;
* `Monitor.moments`: the operations of a course, with the states in which they are taken.

Main statements:

* `Monitor.afterAll_invariant`, `Monitor.moments_invariant`: what operations and changes of the probe preserve holds
  after every course;
* `Monitor.exists_of_mem_moments`: every operation is taken after a part of the course;
* `Monitor.moments_forall₂`: two monitors that stay alike show the same all along a course.
-/

namespace SourceWatch

/-- Something that happens to a monitor: its probe comes to tell something else, or an operation is carried
out. -/
inductive Turn where
  | probe (p : Probe)
  | operation (c : Circumstances) (a : Action)

/-- Whether the monitor is closed in a turn. -/
def Turn.isClose : Turn → Bool
  | operation _ .close => true
  | _ => false

namespace Monitor

/-- The monitor after a turn. -/
def after (m : Monitor) : Turn → Monitor
  | .probe p => m.probing p
  | .operation c a => (m.perform c a).monitor

/-- The monitor after a course. -/
def afterAll (m : Monitor) (turns : List Turn) : Monitor :=
  turns.foldl after m

/-- The operations of a course, oldest first, with the states in which they are taken. -/
def moments (m : Monitor) : List Turn → List Moment
  | [] => []
  | .probe p :: turns => (m.probing p).moments turns
  | .operation c a :: turns => ⟨m, c, a⟩ :: (m.perform c a).monitor.moments turns

variable {m : Monitor} {turns : List Turn}

theorem afterAll_append (m : Monitor) (turns more : List Turn) :
    m.afterAll (turns ++ more) = (m.afterAll turns).afterAll more :=
  List.foldl_append

theorem moments_append (m : Monitor) (turns more : List Turn) :
    m.moments (turns ++ more) = m.moments turns ++ (m.afterAll turns).moments more := by
  induction turns generalizing m with
  | nil => rfl
  | cons turn turns ih =>
    cases turn with
    | probe p => exact ih _
    | operation c a => exact congrArg (List.cons _) (ih _)

/-- What holds at the start and is preserved by every change of the probe and by every operation holds after
every course. -/
theorem afterAll_invariant (Inv : Monitor → Prop) (hstart : Inv m)
    (hprobe : ∀ m probe, Inv m → Inv (m.probing probe))
    (hstep : ∀ {m c a n result jobs}, Performs m c a n result jobs → Inv m → Inv n)
    (turns : List Turn) : Inv (m.afterAll turns) := by
  induction turns generalizing m with
  | nil => exact hstart
  | cons turn turns ih =>
    cases turn with
    | probe p => exact ih (hprobe m p hstart)
    | operation c a => exact ih (hstep (perform_performs m c a) hstart)

/-- What holds of a past and a state, and is preserved by every change of the probe and by every operation, holds
after every course. -/
theorem moments_invariant (Inv : List Moment → Monitor → Prop) (hstart : Inv [] m)
    (hprobe : ∀ past n probe, Inv past n → Inv past (n.probing probe))
    (hstep : ∀ past n c a, Inv past n → Inv (past ++ [⟨n, c, a⟩]) (n.perform c a).monitor)
    (turns : List Turn) : Inv (m.moments turns) (m.afterAll turns) := by
  induction turns using List.reverseRecOn with
  | nil => exact hstart
  | append_singleton turns turn ih =>
    rw [moments_append, afterAll_append]
    cases turn with
    | probe p =>
      rw [moments, moments, List.append_nil]
      exact hprobe _ _ p ih
    | operation c a => exact hstep _ _ c a ih

/-- Every operation of a course is taken after a part of the course. -/
theorem exists_of_mem_moments {t : Moment} (ht : t ∈ m.moments turns) :
    ∃ earlier later, turns = earlier ++ .operation t.circumstances t.action :: later ∧
      t.before = m.afterAll earlier := by
  induction turns generalizing m with
  | nil => cases ht
  | cons turn turns ih =>
    cases turn with
    | probe p =>
      obtain ⟨earlier, later, rfl, hbefore⟩ := ih ht
      exact ⟨.probe p :: earlier, later, rfl, hbefore⟩
    | operation c a =>
      rcases List.mem_cons.mp ht with rfl | ht
      · exact ⟨[], turns, rfl, rfl⟩
      · obtain ⟨earlier, later, rfl, hbefore⟩ := ih ht
        exact ⟨.operation c a :: earlier, later, rfl, hbefore⟩

/-- Two monitors side by side.  If every operation leaves them as alike as they were, then what an operation shows
of two monitors that are alike is shown of them all along a course. -/
theorem moments_forall₂ {Alike : Monitor → Monitor → Prop} {Shown : Moment → Moment → Prop} {n : Monitor}
    (h : Alike m n) (hprobe : ∀ m n probe, Alike m n → Alike (m.probing probe) (n.probing probe))
    (hstep : ∀ m n c a, Alike m n →
      Shown ⟨m, c, a⟩ ⟨n, c, a⟩ ∧ Alike (m.perform c a).monitor (n.perform c a).monitor)
    (turns : List Turn) : List.Forall₂ Shown (m.moments turns) (n.moments turns) := by
  induction turns generalizing m n with
  | nil => exact .nil
  | cons turn turns ih =>
    cases turn with
    | probe p => exact ih (hprobe m n p h)
    | operation c a =>
      obtain ⟨hshown, halike⟩ := hstep m n c a h
      exact .cons hshown (ih halike)

/-! ### The dispatcher along a course -/

/-- A monitor as it is made defers nothing. -/
theorem Made.deferred_eq_false (made : m.Made) : m.dispatcher.deferred = false := by
  obtain ⟨config, ledger, sinks, probe, -, rfl⟩ := made.eq_initial
  rfl

/-- Jobs are carried out at once. -/
theorem deferred_afterAll (made : m.Made) (turns : List Turn) :
    (m.afterAll turns).dispatcher.deferred = false :=
  afterAll_invariant (fun n => n.dispatcher.deferred = false) made.deferred_eq_false (fun _ _ h => h)
    (fun hperforms h => hperforms.deferred_eq.trans h) turns

/-- The events of every operation of a course are records and the jobs that it hands out. -/
theorem carriesOut_of_mem_moments (made : m.Made) {t : Moment} (ht : t ∈ m.moments turns) :
    CarriesOut t.circumstances.around t.jobs t.outcome.events := by
  obtain ⟨earlier, later, -, hbefore⟩ := exists_of_mem_moments ht
  refine perform_carriesOut ?_ t.circumstances t.action
  rw [hbefore]
  exact deferred_afterAll made earlier

/-- Before it is closed, a monitor takes jobs. -/
theorem refuses_afterAll (made : m.Made) (turns : List Turn)
    (hopen : ∀ turn ∈ turns, turn.isClose = false) :
    (m.afterAll turns).dispatcher.refuses = false := by
  refine Dispatcher.refuses_of_open ?_
  have hclosed : m.dispatcher.closed = false := by
    obtain ⟨config, ledger, sinks, probe, -, rfl⟩ := made.eq_initial
    rfl
  clear made
  induction turns generalizing m with
  | nil => exact hclosed
  | cons turn turns ih =>
    have hrest : ∀ turn ∈ turns, turn.isClose = false := fun turn ht =>
      hopen turn (List.mem_cons_of_mem _ ht)
    cases turn with
    | probe p => exact ih hrest hclosed
    | operation c a =>
      have hnot : a ≠ .close := by
        rintro rfl
        exact absurd (hopen _ List.mem_cons_self) (by nofun)
      exact ih hrest (((perform_performs m c a).closed_eq hnot).trans hclosed)

/-- Before it is closed, a monitor takes jobs whatever it is asked. -/
theorem refuses_of_mem_moments (made : m.Made) (hopen : ∀ turn ∈ turns, turn.isClose = false)
    {t : Moment} (ht : t ∈ m.moments turns) : t.before.dispatcher.refuses = false := by
  obtain ⟨earlier, later, rfl, hbefore⟩ := exists_of_mem_moments ht
  rw [hbefore]
  exact refuses_afterAll made earlier fun turn hturn => hopen turn (List.mem_append_left _ hturn)

end Monitor

end SourceWatch
