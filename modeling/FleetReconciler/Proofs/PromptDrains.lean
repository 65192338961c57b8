import FleetReconciler.Proofs.BatchRuns
import FleetReconciler.Proofs.Journal

/-!
# Drains by prompt handlers

A run of a prompt handler does not wait, queues nothing and does not fail. First deliveries do not
wait either, so a batch of them never sleeps and never looks at the clock: whatever the settings,
the deliveries are carried out in the order of the queue, and nothing is delivered again.

* `Handler.act` — the state after a run;
* `Handler.Prompt` — what is so of a prompt handler;
* `Batch.InTurn` — what every step of such a batch keeps;
* `Batch.execute_prompt`, `Dispatcher.batch_prompt` — the batch, and its settling;
* `Dispatcher.drain_prompt` — **the whole drain is one batch in the order of the queue**;
* `Dispatcher.drainTasks_prompt` — the same for tasks that are carried out as services.
-/

namespace FleetReconciler

variable {σ τ : Type}

/-- The state after a run that does not wait. -/
def Handler.act (h : Handler σ τ) (s : σ) (t : Task) : σ :=
  (h.finish (h.start t s).1.2 (h.start t s).2).2

/-- For tasks of some sort on states of some sort, a run does not wait, queues nothing, does not
fail, and leaves such a state. -/
structure Handler.Prompt (h : Handler σ τ) (Q : Task → Prop) (P : σ → Prop) : Prop where
  awake : ∀ {t s}, Q t → P s → (h.start t s).1.1 = 0
  outcome : ∀ {t s}, Q t → P s → (h.finish (h.start t s).1.2 (h.start t s).2).1 = {}
  act : ∀ {t s}, Q t → P s → P (h.act s t)

theorem Handler.Prompt.foldl {h : Handler σ τ} {Q : Task → Prop} {P : σ → Prop}
    (hprompt : h.Prompt Q P) {tasks : List Task} (htasks : ∀ t ∈ tasks, Q t) {s : σ} (hs : P s) :
    P (tasks.foldl h.act s) := by
  induction tasks generalizing s with
  | nil => exact hs
  | cons t tasks ih =>
    exact ih (fun u hu => htasks u (List.mem_cons_of_mem _ hu))
      (hprompt.act (htasks t List.mem_cons_self) hs)

/-! ## One batch -/

namespace Batch

/-- What is so of a batch of first deliveries that a prompt handler carries out: they are finished
in order, all well, and the state is the one after those that are finished. -/
structure InTurn (h : Handler σ τ) (P : σ → Prop) (d₀ : Dispatcher σ) (deliveries : List Delivery)
    (d : Dispatcher σ) (b : Batch τ) : Prop where
  order : b.finished.map Prod.fst ++ (b.ready.map Flight.delivery ++ b.waiting) = deliveries
  taken : ∀ f ∈ b.ready, f.phase = .taken
  asleep : b.asleep = []
  succeeded : ∀ x ∈ b.finished, x.2 = none
  queue : d.queue = d₀.queue
  arrivals : d.arrivals = []
  state : d.state = (b.finished.map fun x => x.1.task).foldl h.act d₀.state
  sort : P d.state

variable {h : Handler σ τ} {Q : Task → Prop} {P : σ → Prop} {d₀ d d' : Dispatcher σ}
  {b b' : Batch τ} {deliveries : List Delivery}

/-- A first delivery that was taken is started and finished at once. -/
theorem resume_prompt (hprompt : h.Prompt Q P) {f : Flight τ} (htaken : f.phase = .taken)
    (hfirst : f.delivery.attempt = 1) (hQ : Q f.delivery.task) (hP : P d.state) :
    resume h d b f =
      ((({ d with state := h.act d.state f.delivery.task }).mark (.started d.now f.delivery)).mark
        (.ended d.now f.delivery),
        { b with finished := b.finished ++ [(f.delivery, none)] }) := by
  have hdelay : (d.settings.delayBefore f.delivery.attempt).toNat = 0 := by
    rw [hfirst]
    rfl
  unfold resume start
  simp only [htaken, hdelay, hprompt.awake hQ hP, if_true]
  unfold finish
  simp only [Dispatcher.mark, hprompt.outcome hQ hP]
  rfl

/-- **Every step finishes the next delivery, or takes one.** -/
theorem InTurn.step (hturn : InTurn h P d₀ deliveries d b) (hprompt : h.Prompt Q P)
    (hfirst : ∀ x ∈ deliveries, x.attempt = 1 ∧ Q x.task)
    (hstep : Batch.step h d b = some (d', b')) : InTurn h P d₀ deliveries d' b' := by
  rcases step_cases hstep with ⟨x, rest, hwaiting, -, rfl, rfl⟩ | ⟨f, ready, hready, heq⟩ |
    ⟨a, rest, -, harrivals, rfl, rfl⟩ | ⟨time, -, htime, heq⟩
  · exact { hturn with
      order := by simpa [hwaiting] using hturn.order
      taken := List.forall_mem_append.2 ⟨hturn.taken, by simp⟩ }
  · have htaken : f.phase = .taken := hturn.taken f (hready ▸ List.mem_cons_self)
    have hmem : f.delivery ∈ deliveries := by
      rw [← hturn.order, hready]
      simp
    obtain ⟨hone, hQ⟩ := hfirst f.delivery hmem
    rw [resume_prompt hprompt htaken hone hQ hturn.sort] at heq
    cases heq
    exact { hturn with
      order := by simpa [hready] using hturn.order
      taken := fun g hg => hturn.taken g (hready ▸ List.mem_cons_of_mem _ hg)
      succeeded := List.forall_mem_append.2 ⟨hturn.succeeded, by simp⟩
      state := by simp [Dispatcher.mark, hturn.state]
      sort := hprompt.act hQ hturn.sort }
  · rw [hturn.arrivals] at harrivals
    cases harrivals
  · -- nothing sleeps, so nothing wakes
    simp [firstWake?, hturn.asleep] at htime

/-- **A batch of first deliveries is carried out in order**, and every run succeeds. -/
theorem execute_prompt (hprompt : h.Prompt Q P) (harrivals : d.arrivals = []) (hP : P d.state)
    (hfirst : ∀ x ∈ deliveries, x.attempt = 1 ∧ Q x.task) :
    let p := execute h d deliveries
    p.2 = deliveries.map (·, none) ∧ p.1.queue = d.queue ∧
      p.1.state = (deliveries.map Delivery.task).foldl h.act d.state := by
  have hstart : InTurn h P d deliveries d ({ waiting := deliveries } : Batch τ) :=
    { order := rfl
      taken := by simp
      asleep := rfl
      succeeded := by simp
      queue := rfl
      arrivals := harrivals
      state := rfl
      sort := hP }
  obtain ⟨hend, hnone⟩ := run_invariant (P := InTurn h P d deliveries)
    (fun hturn hstep => hturn.step hprompt hfirst hstep) hstart (h := h) (Nat.le_refl _)
  obtain ⟨hwaiting, hready, -⟩ := finished_of_step_eq_none hnone
  intro p
  obtain ⟨b, hp, hb⟩ : ∃ b : Batch τ, p.2 = b.finished ∧ InTurn h P d deliveries p.1 b ∧
      b.waiting = [] ∧ b.ready = [] := ⟨_, rfl, hend, hwaiting, hready⟩
  obtain ⟨hturn, hwaiting, hready⟩ := hb
  have horder : b.finished.map Prod.fst = deliveries := by
    simpa [hwaiting, hready] using hturn.order
  refine ⟨?_, hturn.queue, ?_⟩
  · calc p.2 = b.finished.map id := hp.trans (List.map_id _).symm
      _ = b.finished.map ((·, none) ∘ Prod.fst) :=
        List.map_congr_left fun x hx => Prod.ext rfl (hturn.succeeded x hx)
      _ = deliveries.map (·, none) := by rw [← List.map_map, horder]
  · rw [hturn.state, ← horder, List.map_map]
    rfl

end Batch

/-! ## The whole drain -/

namespace Dispatcher

variable {h : Handler σ τ} {Q : Task → Prop} {P : σ → Prop} {d : Dispatcher σ}

/-- Successes are only counted. -/
theorem settle_succeeded (h : Handler σ τ) (d : Dispatcher σ) (report : Report)
    (deliveries : List Delivery) :
    settle h (d, report) (deliveries.map (·, none)) =
      (d, { report with succeeded := report.succeeded + deliveries.length }) := by
  induction deliveries generalizing report with
  | nil => rfl
  | cons x deliveries ih =>
    have hrest := ih { report with succeeded := report.succeeded + 1 }
    rw [Nat.add_assoc, Nat.add_comm 1] at hrest
    exact hrest

/-- **A drain by a prompt handler is one batch**: the tasks are carried out in the order of the
queue and all succeed. -/
theorem drain_prompt (hprompt : h.Prompt Q P) (harrivals : d.arrivals = []) (hP : P d.state)
    (hfirst : ∀ x ∈ d.queue, x.attempt = 1 ∧ Q x.task) {rounds : Nat} (hrounds : 0 < rounds) :
    let p := d.drain h rounds
    p.1.queue = [] ∧ p.1.state = (d.queue.map Delivery.task).foldl h.act d.state ∧
      p.2 = { succeeded := d.queue.length } := by
  obtain ⟨hresults, hqueue, hstate⟩ :=
    Batch.execute_prompt (d := { d with queue := [] }) hprompt harrivals hP hfirst
  have hbatch : batch h (d, {}) =
      ((Batch.execute h { d with queue := [] } d.queue).1, { succeeded := d.queue.length }) := by
    unfold batch
    simp only [hresults, settle_succeeded, Nat.zero_add]
  obtain ⟨rounds, rfl⟩ : ∃ n, rounds = n + 1 := ⟨rounds - 1, by omega⟩
  have hstays (p : Dispatcher σ × Report) (hp : p.1.queue = []) (n : Nat) :
      drainFrom h n p = p := by
    cases n with
    | zero => rfl
    | succ n => exact if_pos hp
  by_cases hempty : d.queue = []
  · have hdrain : d.drain h (rounds + 1) = (d, {}) := hstays (d, {}) hempty _
    rw [hdrain, hempty]
    exact ⟨hempty, rfl, rfl⟩
  · have hdrain : d.drain h (rounds + 1) = batch h (d, {}) :=
      (if_neg hempty).trans (hstays _ (by rw [hbatch]; exact hqueue) _)
    rw [hdrain, hbatch]
    exact ⟨hqueue, hstate, rfl⟩

/-- **Tasks whose services always end well are carried out in their order, once each.** -/
theorem drainTasks_prompt {perform : (r : Request) → σ → r.Reply × σ} {settings : DiscoverySettings}
    (hserved : ∀ {t s}, Q t → P s → ((t.execute settings).run perform s).1 = .ok () ∧
      P ((t.execute settings).run perform s).2)
    (dispatcher : DispatcherSettings) {s : σ} (hs : P s) {tasks : List Task}
    (htasks : ∀ t ∈ tasks, Q t) :
    let p := (ofTasks dispatcher s tasks).drainTasks perform settings
    p.1.queue = [] ∧ p.2 = { succeeded := tasks.length } ∧ P p.1.state ∧
      p.1.state = tasks.foldl (fun s t => ((t.execute settings).run perform s).2) s := by
  have hprompt : (taskHandler perform settings).Prompt Q P :=
    { awake := fun _ _ => rfl
      outcome := fun ht hs => by
        simp only [taskHandler, (hserved ht hs).1]
        rfl
      act := fun ht hs => (hserved ht hs).2 }
  have hqueue : (ofTasks dispatcher s tasks).queue = firstDeliveries 0 tasks := by
    rw [ofTasks, enqueueAll_eq]
    rfl
  have hrest : (ofTasks dispatcher s tasks).arrivals = [] ∧
      (ofTasks dispatcher s tasks).state = s := by
    rw [ofTasks, enqueueAll_eq]
    exact ⟨rfl, rfl⟩
  have hfirst : ∀ x ∈ (ofTasks dispatcher s tasks).queue, x.attempt = 1 ∧ Q x.task := by
    intro x hx
    rw [hqueue] at hx
    have htask := List.mem_map_of_mem (f := Delivery.task) hx
    rw [map_task_firstDeliveries] at htask
    exact ⟨attempt_of_mem_firstDeliveries hx, htasks _ htask⟩
  have hrounds : 0 < max 1 (ofTasks dispatcher s tasks).settings.maxAttempts.toNat :=
    Nat.lt_of_lt_of_le Nat.zero_lt_one (Nat.le_max_left _ _)
  obtain ⟨hempty, hstate, hreport⟩ :=
    drain_prompt hprompt hrest.1 (hrest.2.symm ▸ hs) hfirst hrounds
  rw [hqueue, map_task_firstDeliveries, hrest.2] at hstate
  rw [hqueue, length_firstDeliveries] at hreport
  refine ⟨hempty, hreport, ?_, hstate⟩
  unfold drainTasks
  rw [hstate]
  exact hprompt.foldl htasks hs

end Dispatcher

end FleetReconciler
