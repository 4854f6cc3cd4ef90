import SourceWatch.Proofs.Dispatcher.Jobs
import Mathlib.Data.List.Nodup

/-!
# The pool that carries out jobs

A dispatcher hands each job to a pool, then puts it into the set of pending jobs, and asks last to be told when the
job is finished.  When it is told so, it takes the job out of the set; of a job that was finished before, it is
told as soon as it asks.  The pool carries out a job whenever it likes, also before the job is in the set, or
between that and the asking.

Main definitions:

* `Ticket`: a job in the pool, and how far the pool and the dispatcher have come with it;
* `Pool`, `Pool.Step`, `Pool.step`: the pool with its tickets, and what happens to it, one thing at a time;
* `Pool.drains`: waiting for the pending jobs, without time to wait;
* `Pool.Accounted`: what is known of the tickets, in whatever order things happen.

Main statements:

* `Ticket.Sound.watch`, `Ticket.Sound.tell`: a job that is finished early does not stay in the set;
* `Pool.accounted_afterAll`: what is known of the tickets after any steps in any order;
* `Pool.jobs_afterAll`: no job is lost;
* `Pool.Accounted.pending_of_atRest`, `Pool.Accounted.drains_iff`: which jobs are pending.
-/

namespace SourceWatch

/-- A job in the pool. -/
structure Ticket where
  job : Job
  /-- Whether the job was put into the set of pending jobs. -/
  registered : Bool
  /-- Whether the dispatcher asked to be told when the job is finished. -/
  watched : Bool
  finished : Bool
  /-- Whether the dispatcher was told that the job is finished. -/
  told : Bool
  /-- Whether the job is in the set of pending jobs. -/
  pending : Bool
  deriving DecidableEq

namespace Ticket

/-- A job that was just handed to the pool. -/
def fresh (job : Job) : Ticket :=
  ⟨job, false, false, false, false, false⟩

/-- Puts the job into the set of pending jobs. -/
def register (t : Ticket) : Ticket :=
  if t.registered then t else { t with registered := true, pending := true }

/-- Tells the dispatcher that the job is finished, if it is and the dispatcher asked for that.  The job is taken
out of the set. -/
def tell (t : Ticket) : Ticket :=
  if t.watched && t.finished then { t with told := true, pending := false } else t

/-- Asks to be told when the job is finished; if it is already, the dispatcher is told at once. -/
def watch (t : Ticket) : Ticket :=
  if t.registered then { t with watched := true }.tell else t

/-- Carries the job out. -/
def finish (t : Ticket) : Ticket :=
  { t with finished := true }

/-- What is known of a ticket: the job is in the set from when it is put there until the dispatcher is told that it
is finished, and this is told of a job that is. -/
structure Sound (t : Ticket) : Prop where
  pending : t.pending = (t.registered && !t.told)
  watched : t.watched = true → t.registered = true
  told : t.told = true → t.watched = true ∧ t.finished = true

variable {t : Ticket}

theorem sound_fresh (job : Job) : (fresh job).Sound :=
  ⟨rfl, nofun, nofun⟩

theorem Sound.register (h : t.Sound) : t.register.Sound := by
  unfold Ticket.register
  split
  · exact h
  · next hnew =>
    -- what was not put into the set was not watched, and so nothing was told of it
    have hwatched : t.watched ≠ true := fun hw => hnew (h.watched hw)
    have htold : t.told = false := Bool.eq_false_iff.mpr fun ht => hwatched (h.told ht).1
    exact
      { pending := by
          show true = (true && !t.told)
          rw [htold]
          rfl
        watched := fun _ => rfl
        told := h.told }

theorem Sound.tell (h : t.Sound) : t.tell.Sound := by
  unfold Ticket.tell
  split
  · next hdue =>
    rw [Bool.and_eq_true] at hdue
    exact
      { pending := (Bool.and_false _).symm
        watched := h.watched
        told := fun _ => hdue }
  · exact h

/-- **Asking late.**  A job that is finished before the dispatcher asks does not stay in the set. -/
theorem Sound.watch (h : t.Sound) : t.watch.Sound := by
  unfold Ticket.watch
  split
  · next hregistered =>
    refine Sound.tell ?_
    exact
      { pending := h.pending
        watched := fun _ => hregistered
        told := fun ht => ⟨rfl, (h.told ht).2⟩ }
  · exact h

theorem Sound.finish (h : t.Sound) : t.finish.Sound where
  pending := h.pending
  watched := h.watched
  told := fun ht => ⟨(h.told ht).1, rfl⟩

theorem job_register (t : Ticket) : t.register.job = t.job := by
  unfold register
  split <;> rfl

theorem job_tell (t : Ticket) : t.tell.job = t.job := by
  unfold tell
  split <;> rfl

theorem job_watch (t : Ticket) : t.watch.job = t.job := by
  unfold watch
  split
  · exact job_tell _
  · rfl

theorem finished_register (t : Ticket) : t.register.finished = t.finished := by
  unfold register
  split <;> rfl

theorem finished_tell (t : Ticket) : t.tell.finished = t.finished := by
  unfold tell
  split <;> rfl

theorem finished_watch (t : Ticket) : t.watch.finished = t.finished := by
  unfold watch
  split
  · exact finished_tell _
  · rfl

end Ticket

/-- The pool. -/
structure Pool where
  closed : Bool
  /-- The jobs that were handed over, oldest first. -/
  tickets : List Ticket
  /-- The places of the jobs that were carried out, in the order in which they were. -/
  ran : List ℕ
  deriving DecidableEq

namespace Pool

/-- What happens to a pool, to the ticket at a place or as a whole. -/
inductive Step where
  | handOver (job : Job)
  | register (place : ℕ)
  | watch (place : ℕ)
  | finish (place : ℕ)
  | tell (place : ℕ)
  | shutdown
  deriving DecidableEq

/-- A pool with nothing in it. -/
def empty : Pool :=
  ⟨false, [], []⟩

/-- Whether there is a job at a place that was not carried out. -/
def waitsAt (p : Pool) (place : ℕ) : Bool :=
  p.tickets[place]?.any fun t => !t.finished

/-- One thing happens.  A pool that was shut down takes no job, and a job that was carried out is not carried out
again. -/
def step (p : Pool) : Step → Pool
  | .handOver job => if p.closed then p else { p with tickets := p.tickets ++ [.fresh job] }
  | .register place => { p with tickets := p.tickets.modify place .register }
  | .watch place => { p with tickets := p.tickets.modify place .watch }
  | .finish place =>
    if p.waitsAt place then
      { p with tickets := p.tickets.modify place .finish, ran := p.ran ++ [place] }
    else p
  | .tell place => { p with tickets := p.tickets.modify place .tell }
  | .shutdown => { p with closed := true }

/-- One thing happens after the other. -/
def afterAll (p : Pool) (steps : List Step) : Pool :=
  steps.foldl step p

/-- The jobs that were handed over. -/
def jobs (p : Pool) : List Job :=
  p.tickets.map Ticket.job

/-- Whether all pending jobs are finished: the set is looked at once, and there is no time to wait. -/
def drains (p : Pool) : Bool :=
  (p.tickets.filter Ticket.pending).all Ticket.finished

/-- Nothing is left to do for the dispatcher: it asked to be told of every job, and was told of those that are
finished. -/
def AtRest (p : Pool) : Prop :=
  ∀ t ∈ p.tickets, t.watched = true ∧ (t.finished = true → t.told = true)

/-- **What is known of the tickets.** -/
structure Accounted (p : Pool) : Prop where
  sound : ∀ t ∈ p.tickets, t.Sound
  once : p.ran.Nodup
  mem_ran : ∀ place, place ∈ p.ran ↔ ∃ t, p.tickets[place]? = some t ∧ t.finished = true

variable {p : Pool}

/-! ### One step -/

theorem waitsAt_eq_true {place : ℕ} :
    p.waitsAt place = true ↔ ∃ t, p.tickets[place]? = some t ∧ t.finished = false := by
  rw [waitsAt, Option.any_eq_true]
  simp only [Bool.not_eq_true']

theorem mem_modify {α : Type} {xs : List α} {place : ℕ} {f : α → α} {x : α}
    (h : x ∈ xs.modify place f) : x ∈ xs ∨ ∃ y ∈ xs, x = f y := by
  obtain ⟨k, hk⟩ := List.mem_iff_getElem?.mp h
  rw [List.getElem?_modify] at hk
  obtain ⟨y, hy, hx⟩ := Option.map_eq_some_iff.mp hk
  have hmem : y ∈ xs := List.mem_of_getElem? hy
  split at hx
  · exact .inr ⟨y, hmem, hx.symm⟩
  · exact .inl (hx ▸ hmem)

/-- What a step makes of a ticket in place leaves it sound. -/
theorem sound_of_modify {place : ℕ} {f : Ticket → Ticket} (h : ∀ t ∈ p.tickets, t.Sound)
    (hf : ∀ t : Ticket, t.Sound → (f t).Sound) : ∀ t ∈ p.tickets.modify place f, t.Sound := by
  intro t ht
  rcases mem_modify ht with hold | ⟨u, hu, rfl⟩
  · exact h t hold
  · exact hf u (h u hu)

/-- A step that does not carry out jobs leaves those that were carried out. -/
theorem finished_modify {place : ℕ} {f : Ticket → Ticket} (hf : ∀ t, (f t).finished = t.finished) (k : ℕ) :
    (∃ t, (p.tickets.modify place f)[k]? = some t ∧ t.finished = true) ↔
      ∃ t, p.tickets[k]? = some t ∧ t.finished = true := by
  rw [List.getElem?_modify]
  cases p.tickets[k]? with
  | none => simp
  | some t => by_cases hk : place = k <;> simp [hk, hf]

theorem Accounted.modify {place : ℕ} {f : Ticket → Ticket} (h : p.Accounted)
    (hf : ∀ t : Ticket, t.Sound → (f t).Sound) (hfinished : ∀ t, (f t).finished = t.finished) :
    Accounted { p with tickets := p.tickets.modify place f } where
  sound := sound_of_modify h.sound hf
  once := h.once
  mem_ran := fun k => (h.mem_ran k).trans (finished_modify hfinished k).symm

theorem Accounted.handOver (h : p.Accounted) (job : Job) :
    Accounted { p with tickets := p.tickets ++ [.fresh job] } where
  sound := fun t ht => by
    rcases List.mem_append.mp ht with hold | hnew
    · exact h.sound t hold
    · rw [List.mem_singleton.mp hnew]
      exact Ticket.sound_fresh job
  once := h.once
  mem_ran := fun place => by
    rw [h.mem_ran]
    constructor
    · rintro ⟨t, ht, hfinished⟩
      exact ⟨t, List.getElem?_append_left (List.getElem?_eq_some_iff.mp ht).1 ▸ ht, hfinished⟩
    · rintro ⟨t, ht, hfinished⟩
      rcases Nat.lt_or_ge place p.tickets.length with hlt | hge
      · rw [List.getElem?_append_left hlt] at ht
        exact ⟨t, ht, hfinished⟩
      · -- the new job was not carried out
        rw [List.getElem?_append_right hge] at ht
        have hnew := List.mem_of_getElem? ht
        rw [List.mem_singleton.mp hnew] at hfinished
        cases hfinished

theorem Accounted.finish (h : p.Accounted) {place : ℕ} (hwaits : p.waitsAt place = true) :
    Accounted { p with tickets := p.tickets.modify place .finish, ran := p.ran ++ [place] } := by
  obtain ⟨t, ht, hunfinished⟩ := waitsAt_eq_true.mp hwaits
  have hnew : place ∉ p.ran := fun hran => by
    obtain ⟨u, hu, hfinished⟩ := (h.mem_ran place).mp hran
    rw [ht] at hu
    cases hu
    rw [hunfinished] at hfinished
    cases hfinished
  exact
    { sound := sound_of_modify h.sound fun _ => Ticket.Sound.finish
      once := by
        rw [← List.concat_eq_append]
        exact h.once.concat hnew
      mem_ran := fun k => by
        show k ∈ p.ran ++ [place] ↔ ∃ t, (p.tickets.modify place .finish)[k]? = some t ∧ t.finished = true
        rw [List.mem_append, h.mem_ran, List.mem_singleton, List.getElem?_modify]
        by_cases hk : place = k
        · subst hk
          simp [ht, Ticket.finish]
        · simp [hk, Ne.symm hk] }

/-- **One step.** -/
theorem Accounted.step (h : p.Accounted) (s : Step) : (p.step s).Accounted := by
  cases s with
  | handOver job =>
    rw [Pool.step]
    split
    · exact h
    · exact h.handOver job
  | register place => exact h.modify (fun _ => Ticket.Sound.register) Ticket.finished_register
  | watch place => exact h.modify (fun _ => Ticket.Sound.watch) Ticket.finished_watch
  | finish place =>
    rw [Pool.step]
    split
    · next hwaits => exact h.finish hwaits
    · exact h
  | tell place => exact h.modify (fun _ => Ticket.Sound.tell) Ticket.finished_tell
  | shutdown => exact ⟨h.sound, h.once, h.mem_ran⟩

/-- A step takes no job away. -/
theorem jobs_step (p : Pool) (s : Step) : p.jobs <+: (p.step s).jobs := by
  have hkept : ∀ {place : ℕ} {f : Ticket → Ticket}, (∀ t, (f t).job = t.job) →
      p.jobs <+: (p.tickets.modify place f).map Ticket.job := by
    intro place f hf
    have hsame : (p.tickets.modify place f).map Ticket.job = p.jobs := by
      refine List.ext_getElem? fun k => ?_
      rw [jobs, List.getElem?_map, List.getElem?_map, List.getElem?_modify]
      cases p.tickets[k]? with
      | none => rfl
      | some t => by_cases hk : place = k <;> simp [hk, hf]
    exact ⟨[], (List.append_nil _).trans hsame.symm⟩
  cases s with
  | handOver job =>
    rw [step]
    split
    · exact List.prefix_refl _
    · exact ⟨[job], by rw [jobs, jobs, List.map_append]; rfl⟩
  | register place => exact hkept Ticket.job_register
  | watch place => exact hkept Ticket.job_watch
  | finish place =>
    rw [step]
    split
    · exact hkept fun _ => rfl
    · exact List.prefix_refl _
  | tell place => exact hkept Ticket.job_tell
  | shutdown => exact List.prefix_refl _

/-! ### All steps -/

theorem afterAll_cons (p : Pool) (s : Step) (steps : List Step) :
    p.afterAll (s :: steps) = (p.step s).afterAll steps :=
  rfl

theorem afterAll_append (p : Pool) (steps more : List Step) :
    p.afterAll (steps ++ more) = (p.afterAll steps).afterAll more :=
  List.foldl_append

theorem Accounted.afterAll (h : p.Accounted) (steps : List Step) : (p.afterAll steps).Accounted := by
  induction steps generalizing p with
  | nil => exact h
  | cons s steps ih =>
    rw [afterAll_cons]
    exact ih (h.step s)

theorem accounted_empty : empty.Accounted where
  sound := fun _ ht => absurd ht List.not_mem_nil
  once := List.nodup_nil
  mem_ran := fun place => by simp [empty]

/-- **In whatever order things happen, the tickets are accounted for.** -/
theorem accounted_afterAll (steps : List Step) : (empty.afterAll steps).Accounted :=
  accounted_empty.afterAll steps

/-- **No job is lost.** -/
theorem jobs_afterAll (p : Pool) (steps : List Step) : p.jobs <+: (p.afterAll steps).jobs := by
  induction steps generalizing p with
  | nil => exact List.prefix_refl _
  | cons s steps ih =>
    rw [afterAll_cons]
    exact (jobs_step p s).trans (ih _)

/-! ### The set of pending jobs -/

/-- A job that waits is in the set, once it was put there. -/
theorem Accounted.pending_of_waits (h : p.Accounted) {t : Ticket} (ht : t ∈ p.tickets)
    (hregistered : t.registered = true) (hwaits : t.finished = false) : t.pending = true := by
  have htold : t.told = false := Bool.eq_false_iff.mpr fun hold => by
    rw [((h.sound t ht).told hold).2] at hwaits
    cases hwaits
  rw [(h.sound t ht).pending, hregistered, htold]
  rfl

/-- A job is not in the set before it was put there, nor after the dispatcher was told that it is finished. -/
theorem Accounted.pending_iff (h : p.Accounted) {t : Ticket} (ht : t ∈ p.tickets) :
    t.pending = true ↔ t.registered = true ∧ t.told = false := by
  rw [(h.sound t ht).pending, Bool.and_eq_true, Bool.not_eq_true']

/-- All pending jobs are finished just in case all jobs are that were put into the set. -/
theorem Accounted.drains_iff (h : p.Accounted) :
    p.drains = true ↔ ∀ t ∈ p.tickets, t.registered = true → t.finished = true := by
  rw [drains, List.all_eq_true]
  constructor
  · intro hall t ht hregistered
    by_contra hwaits
    rw [Bool.not_eq_true] at hwaits
    have hpending := h.pending_of_waits ht hregistered hwaits
    rw [hall t (List.mem_filter.mpr ⟨ht, hpending⟩)] at hwaits
    cases hwaits
  · intro hall t ht
    obtain ⟨hmem, hpending⟩ := List.mem_filter.mp ht
    exact hall t hmem ((h.pending_iff hmem).mp hpending).1

/-- **At rest, exactly the unfinished jobs are pending.** -/
theorem Accounted.pending_of_atRest (h : p.Accounted) (hrest : p.AtRest) {t : Ticket}
    (ht : t ∈ p.tickets) : t.pending = !t.finished := by
  obtain ⟨hwatched, htold⟩ := hrest t ht
  have hregistered := (h.sound t ht).watched hwatched
  cases hfinished : t.finished with
  | false => exact h.pending_of_waits ht hregistered hfinished
  | true =>
    rw [(h.sound t ht).pending, hregistered, htold hfinished]
    rfl

end Pool

end SourceWatch
