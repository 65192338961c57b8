import FleetReconciler.Proofs.RepeatedRuns

/-!
# What a drain reports

Handlers that queue nothing, and whose success depends on the task and on how often it has run, leave
nothing to the order of the deliveries: a task is run until its first success, or as often as the
settings allow, and the report counts just that. It does not matter how many deliveries are in
flight, how long a redelivery waits, how long the handlers sleep or in which order the tasks were
queued. All these change the batches, the completions and the order of the queue, so the argument is
about one delivery at a time: what it forecasts, from its attempt on, is what its result says and
what its redelivery forecasts.

* `lastRun`, `forecast` — with which run a delivery and its redeliveries end, and how they count;
* `forecast_step` — **a forecast is a result and the forecast of the redelivery**;
* `Dispatcher.Steady.batch` — report and forecasts of the queue together stay the same;
* `Trial.drained_spec` — the report and the runs of a drain follow from the tasks alone;
* `drain_reports_agree` — **two drains of the same tasks report the same.**
-/

namespace FleetReconciler

variable {σ τ : Type} {succeeds : Task → Nat → Bool} {tasks : List Task} {s₀ : σ}

/-! ## Forecasts -/

section Forecast

variable (succeeds : Task → Nat → Bool) (s : DispatcherSettings)

/-- The numbers of the runs that a delivery and its redeliveries have left. -/
def runsLeft (x : Delivery) : List Nat := List.range' x.attempt.toNat (s.left x)

/-- The number of the run with which a delivery and its redeliveries end: that of the first success,
or of the last run that is allowed. -/
def lastRun (x : Delivery) : Nat := ((runsLeft s x).find? (succeeds x.task)).getD s.mostRuns

/-- How a delivery and its redeliveries are counted. -/
def forecast (x : Delivery) : Report :=
  let ends := (runsLeft s x).any (succeeds x.task)
  { succeeded := if ends then 1 else 0
    redelivered := lastRun succeeds s x - x.attempt.toNat
    dropped := if ends then 0 else 1 }

end Forecast

section Step

variable {s : DispatcherSettings} {x : Delivery} {failure : Option Failure}

theorem runsLeft_eq_cons (hx : s.Allows x) :
    runsLeft s x = x.attempt.toNat :: List.range' (x.attempt.toNat + 1) (s.left x - 1) := by
  have hleft : s.left x = s.left x - 1 + 1 := by
    have hone := hx.one_le_left
    omega
  rw [runsLeft, hleft, List.range'_succ]
  rfl

theorem attempt_le_lastRun (succeeds : Task → Nat → Bool) (hx : s.Allows x) :
    x.attempt.toNat ≤ lastRun succeeds s x := by
  unfold lastRun
  cases hfind : (runsLeft s x).find? (succeeds x.task) with
  | none => exact hx.2
  | some n =>
    have hmem := List.mem_of_find?_eq_some hfind
    exact (List.mem_range'_1.1 hmem).1

/-- A redelivery has the runs left that its delivery had, but for the first. -/
theorem runsLeft_redelivery {y : Delivery} (hx : s.Allows x)
    (hy : redelivery? s (x, failure) = some y) :
    y.attempt.toNat = x.attempt.toNat + 1 ∧ runsLeft s x = x.attempt.toNat :: runsLeft s y := by
  obtain ⟨hallows, hless⟩ := DispatcherSettings.left_redelivery hx hy
  have hattempt : y.attempt.toNat = x.attempt.toNat + 1 := by
    have hmost := hx.2
    have hmost' := hallows.2
    unfold DispatcherSettings.left at hless
    simp only at hless
    omega
  refine ⟨hattempt, ?_⟩
  have hleft : s.left x - 1 = s.left y := Nat.sub_eq_of_eq_add hless.symm
  rw [runsLeft_eq_cons hx, runsLeft, hattempt, hleft]

/-- **A forecast is the result of the delivery and the forecast of its redelivery**, if there is one;
so are the runs that are left. -/
theorem forecast_step (hx : s.Allows x)
    (hresult : failure = none ↔ succeeds x.task x.attempt.toNat = true) :
    forecast succeeds s x = (Report.count {} (x.verdict s failure)).plus
      (((redelivery? s (x, failure)).map (forecast succeeds s)).getD {}) ∧
    lastRun succeeds s x + 1 - x.attempt.toNat = 1 +
      ((redelivery? s (x, failure)).map fun y => lastRun succeeds s y + 1 - y.attempt.toNat).getD 0 := by
  have hle := attempt_le_lastRun succeeds hx
  cases failure with
  | none =>
    have hsuccess : succeeds x.task x.attempt.toNat = true := hresult.1 rfl
    have hlast : lastRun succeeds s x = x.attempt.toNat := by
      rw [lastRun, runsLeft_eq_cons hx, List.find?_cons_of_pos hsuccess]
      rfl
    have hany : (runsLeft s x).any (succeeds x.task) = true := by
      rw [runsLeft_eq_cons hx, List.any_cons, hsuccess, Bool.true_or]
    constructor
    · rw [forecast, hany, hlast, Nat.sub_self]
      rfl
    · rw [hlast, Nat.add_sub_cancel_left]
      rfl
  | some f =>
    have hfail : ¬ succeeds x.task x.attempt.toNat = true := fun h => nomatch hresult.2 h
    rcases failed_cases s x f with ⟨hlast, hverdict, hnone⟩ | ⟨-, hverdict, hnext⟩
    · -- it was the last run that is allowed
      have hleft : s.left x = 1 := by
        have hone := hx.1
        have hmost := hx.2
        rw [UInt32.le_iff_toNat_le] at hlast
        unfold DispatcherSettings.left DispatcherSettings.mostRuns at *
        omega
      have hruns : runsLeft s x = [x.attempt.toNat] := by
        rw [runsLeft, hleft]
        rfl
      have hany : (runsLeft s x).any (succeeds x.task) = false := by
        simp [hruns, hfail]
      have hlast : lastRun succeeds s x = x.attempt.toNat := by
        have hnever : (runsLeft s x).find? (succeeds x.task) = none := by
          simp [hruns, hfail]
        have hmost : s.mostRuns + 1 - x.attempt.toNat = 1 := hleft
        rw [lastRun, hnever, Option.getD_none]
        omega
      constructor
      · rw [forecast, hany, hlast, Nat.sub_self, hverdict, hnone]
        rfl
      · rw [hlast, Nat.add_sub_cancel_left, hnone]
        rfl
    · obtain ⟨hattempt, hruns⟩ := runsLeft_redelivery hx hnext
      have htask : x.next.task = x.task := rfl
      have hallows := (DispatcherSettings.left_redelivery hx hnext).1
      have hlast : lastRun succeeds s x = lastRun succeeds s x.next := by
        rw [lastRun, lastRun, hruns, List.find?_cons_of_neg hfail, htask]
      have hany : (runsLeft s x).any (succeeds x.task) =
          (runsLeft s x.next).any (succeeds x.next.task) := by
        rw [hruns, List.any_cons, Bool.eq_false_iff.2 hfail, Bool.false_or, htask]
      have hle' := attempt_le_lastRun succeeds hallows
      rw [hnext, hverdict, Option.map_some, Option.getD_some, Option.map_some, Option.getD_some]
      constructor
      · rw [forecast, forecast, hany, hlast]
        simp only [Report.count, Report.plus, Report.mk.injEq]
        omega
      · omega

end Step

/-! ## Batches and drains -/

/-- The runs of a task that a delivery and its redeliveries have left, if it is of this task. -/
def runsOwed (succeeds : Task → Nat → Bool) (s : DispatcherSettings) (t : Task) (x : Delivery) : Nat :=
  if x.task = t then lastRun succeeds s x + 1 - x.attempt.toNat else 0

section Settled

variable {s : DispatcherSettings} {results : List (Delivery × Option Failure)}

/-- The tasks of the redeliveries are among those of the results, in their order. -/
theorem tasks_redeliveries_sublist (s : DispatcherSettings)
    (results : List (Delivery × Option Failure)) :
    ((results.filterMap (redelivery? s)).map Delivery.task).Sublist
      ((results.map Prod.fst).map Delivery.task) := by
  induction results with
  | nil => exact List.Sublist.refl _
  | cons x results ih =>
    rw [List.filterMap_cons]
    cases hy : redelivery? s x with
    | none => exact ih.cons _
    | some y =>
      simp only [List.map_cons, redelivery?_task hy]
      exact ih.cons_cons _

/-- What was forecast is what the results say and what is forecast of the redeliveries. -/
theorem sum_forecast_results (hall : ∀ x ∈ results, s.Allows x.1)
    (hresults : ∀ x ∈ results, (x.2 = none ↔ succeeds x.1.task x.1.attempt.toNat = true)) :
    Report.sum ((results.map Prod.fst).map (forecast succeeds s)) =
      (Report.tally s results).plus
        (Report.sum ((results.filterMap (redelivery? s)).map (forecast succeeds s))) := by
  induction results with
  | nil => rfl
  | cons x results ih =>
    obtain ⟨hx, hall⟩ := List.forall_mem_cons.1 hall
    obtain ⟨hresult, hresults⟩ := List.forall_mem_cons.1 hresults
    have hstep := (forecast_step hx hresult).1
    have htally : Report.tally s (x :: results) =
        (Report.count {} (x.1.verdict s x.2)).plus (Report.tally s results) :=
      Report.tally_append s [x] results
    rw [List.map_cons, List.map_cons, Report.sum_cons, ih hall hresults, hstep, htally,
      List.filterMap_cons]
    cases redelivery? s x with
    | none =>
      simp only [Option.map_none, Option.getD_none, Report.plus_zero, Report.plus_assoc]
    | some y =>
      simp only [Option.map_some, Option.getD_some, List.map_cons, Report.sum_cons]
      rw [Report.plus_assoc, Report.plus_assoc, ← Report.plus_assoc (forecast succeeds s y),
        Report.plus_comm (forecast succeeds s y), Report.plus_assoc]

/-- The runs of a task that were left are those that were made and those of the redeliveries. -/
theorem total_runsOwed_results (t : Task) (hall : ∀ x ∈ results, s.Allows x.1)
    (hresults : ∀ x ∈ results, (x.2 = none ↔ succeeds x.1.task x.1.attempt.toNat = true)) :
    total (runsOwed succeeds s t) (results.map Prod.fst) =
      ((results.map Prod.fst).map Delivery.task).count t +
        total (runsOwed succeeds s t) (results.filterMap (redelivery? s)) := by
  induction results with
  | nil => rfl
  | cons x results ih =>
    obtain ⟨hx, hall⟩ := List.forall_mem_cons.1 hall
    obtain ⟨hresult, hresults⟩ := List.forall_mem_cons.1 hresults
    have hstep := (forecast_step hx hresult).2
    have hrest := ih hall hresults
    rw [List.map_cons, total_cons, List.map_cons, List.count_cons, List.filterMap_cons]
    cases hy : redelivery? s x with
    | none =>
      rw [hy, Option.map_none, Option.getD_none] at hstep
      by_cases htask : x.1.task = t
      · simp only [runsOwed, htask, beq_self_eq_true, if_true]
        omega
      · simp only [runsOwed, htask, beq_iff_eq, if_false]
        omega
    | some y =>
      rw [hy, Option.map_some, Option.getD_some] at hstep
      have hsame : y.task = x.1.task := redelivery?_task hy
      by_cases htask : x.1.task = t
      · simp only [total_cons, runsOwed, hsame, htask, beq_self_eq_true, if_true] at hrest ⊢
        omega
      · simp only [total_cons, runsOwed, hsame, htask, beq_iff_eq, if_false] at hrest ⊢
        omega

end Settled

namespace Dispatcher

variable {h : Handler σ τ}

/-- What is so of a dispatcher between the batches of a drain while the handler repeats itself: the
tasks of the queue differ, and the attempt of each delivery is the number of its next run. -/
structure Steady (h : Handler σ τ) (tasks : List Task) (s₀ : σ) (d : Dispatcher σ) : Prop where
  draining : d.Draining
  reaches : h.Reaches tasks s₀ (d.started.map Delivery.task) [] d.state
  distinct : (d.queue.map Delivery.task).Nodup
  numbered : ∀ x ∈ d.queue, x.task ∈ tasks ∧ d.runsOf x.task + 1 = x.attempt.toNat

/-- What the report and the forecasts of the queue come to. -/
def expected (succeeds : Task → Nat → Bool) (p : Dispatcher σ × Report) : Report :=
  p.2.plus (Report.sum (p.1.queue.map (forecast succeeds p.1.settings)))

/-- How often a task has been run and will be run. -/
def expectedRuns (succeeds : Task → Nat → Bool) (t : Task) (d : Dispatcher σ) : Nat :=
  d.runsOf t + total (runsOwed succeeds d.settings t) d.queue

/-- What a batch of such a dispatcher does: nothing is queued but redeliveries, each delivery is one
more run of its task, and the results are those of the runs with their numbers. -/
theorem Steady.batch_results {d : Dispatcher σ} (hd : d.Steady h tasks s₀)
    (hrep : h.Repeats succeeds tasks s₀) (report : Report) :
    ∃ results : List (Delivery × Option Failure), (results.map Prod.fst).Perm d.queue ∧
      let p := Dispatcher.batch h (d, report)
      p.1.settings = d.settings ∧ p.1.arrivals = [] ∧
      h.Reaches tasks s₀ (p.1.started.map Delivery.task) [] p.1.state ∧
      p.1.queue = results.filterMap (redelivery? d.settings) ∧
      p.2 = report.plus (Report.tally d.settings results) ∧
      (∀ t, p.1.runsOf t = d.runsOf t + (d.queue.map Delivery.task).count t) ∧
      ∀ x ∈ results, p.1.runsOf x.1.task = x.1.attempt.toNat ∧
        (x.2 = none ↔ succeeds x.1.task x.1.attempt.toNat = true) := by
  obtain ⟨started, queued, hstarted, hperm, hresults, hqueued, hqueue, -, hsettings, hreport⟩ :=
    batch_spec h d report
  obtain ⟨hnone, harrivals, hreaches, hnumbered⟩ := Batch.execute_numbered
    (d := { d with queue := [] }) hrep hd.draining.arrivals hd.reaches hd.distinct hd.numbered
  have hsame : (Dispatcher.batch h (d, report)).1.started =
      (Batch.execute h { d with queue := [] } d.queue).1.started := (settle_spec h _ report _).2.2.1
  have hrest : (Dispatcher.batch h (d, report)).1.arrivals =
      (Batch.execute h { d with queue := [] } d.queue).1.arrivals := (settle_rest h _ _).2.2
  have hnoted : h.Reaches tasks s₀ ((Dispatcher.batch h (d, report)).1.started.map Delivery.task) []
      (Dispatcher.batch h (d, report)).1.state :=
    settle_state (fun n s hs => hs.note n) (hsame ▸ hreaches) _
  have hempty : queued = [] := by
    rw [hnone] at hqueued
    exact hqueued.symm
  rw [hempty] at hqueue
  refine ⟨_, hresults, hsettings, hrest.trans harrivals, hnoted, hqueue, hreport, fun t => ?_, ?_⟩
  · rw [runsOf, hstarted, List.map_append, List.count_append, (hperm.map Delivery.task).count_eq]
    rfl
  · have hruns (t : Task) : (Dispatcher.batch h (d, report)).1.runsOf t =
        (Batch.execute h { d with queue := [] } d.queue).1.runsOf t := by
      rw [runsOf, hsame]
      rfl
    intro x hx
    rw [hruns]
    exact hnumbered x hx

/-- **A batch changes nothing in what is expected**, and uses up as many of the runs that are left as
there are deliveries. -/
theorem Steady.batch {d : Dispatcher σ} (hd : d.Steady h tasks s₀)
    (hrep : h.Repeats succeeds tasks s₀) (report : Report) :
    let p := Dispatcher.batch h (d, report)
    p.1.Steady h tasks s₀ ∧
      total p.1.settings.left p.1.queue + d.queue.length ≤ total d.settings.left d.queue ∧
      expected succeeds p = expected succeeds (d, report) ∧
      ∀ t, p.1.expectedRuns succeeds t = d.expectedRuns succeeds t := by
  obtain ⟨results, hresults, hsettings, harrivals, hreaches, hqueue, hreport, hruns, hnumbered⟩ :=
    hd.batch_results hrep report
  intro p
  have hall : ∀ x ∈ results, d.settings.Allows x.1 := fun x hx =>
    hd.draining.allowed _ (hresults.subset (List.mem_map_of_mem hx))
  have hresult : ∀ x ∈ results, (x.2 = none ↔ succeeds x.1.task x.1.attempt.toNat = true) :=
    fun x hx => (hnumbered x hx).2
  have hlength : results.length = d.queue.length := by
    rw [← hresults.length_eq, List.length_map]
  replace hqueue : p.1.queue = results.filterMap (redelivery? d.settings) := hqueue
  refine ⟨⟨⟨harrivals, fun y hy => ?_⟩, hreaches, ?_, fun y hy => ?_⟩, ?_, ?_, fun t => ?_⟩
  · rw [hqueue] at hy
    obtain ⟨x, hx, hxy⟩ := List.mem_filterMap.1 hy
    rw [hsettings]
    exact (DispatcherSettings.left_redelivery (hall x hx) hxy).1
  · have hdistinct := (hresults.map Delivery.task).nodup_iff.2 hd.distinct
    rw [hqueue]
    exact hdistinct.sublist (tasks_redeliveries_sublist d.settings results)
  · -- a redelivery is the next run of its task
    rw [hqueue] at hy
    obtain ⟨x, hx, hxy⟩ := List.mem_filterMap.1 hy
    have hmem := (hd.numbered x.1 (hresults.subset (List.mem_map_of_mem hx))).1
    have hnext := (runsLeft_redelivery (hall x hx) hxy).1
    rw [redelivery?_task hxy, hnext, (hnumbered x hx).1]
    exact ⟨hmem, rfl⟩
  · have hleft := DispatcherSettings.total_left_redeliveries hall
    rw [total_perm _ hresults, hlength] at hleft
    rw [hsettings, hqueue]
    exact hleft
  · have hforecast := sum_forecast_results hall hresult
    rw [Report.sum_perm (hresults.map _)] at hforecast
    unfold expected
    rw [hsettings, hqueue, hreport, hforecast, Report.plus_assoc]
  · have howed := total_runsOwed_results t hall hresult
    rw [total_perm _ hresults, (hresults.map Delivery.task).count_eq] at howed
    have hran : p.1.runsOf t = d.runsOf t + (d.queue.map Delivery.task).count t := hruns t
    unfold expectedRuns
    rw [hsettings, hqueue, hran, howed, Nat.add_assoc]

/-- **No number of batches changes what is expected.** -/
theorem Steady.drainFrom (hrep : h.Repeats succeeds tasks s₀) (rounds : Nat)
    {p : Dispatcher σ × Report} (hp : p.1.Steady h tasks s₀) :
    expected succeeds (Dispatcher.drainFrom h rounds p) = expected succeeds p ∧
      ∀ t, (Dispatcher.drainFrom h rounds p).1.expectedRuns succeeds t =
        p.1.expectedRuns succeeds t := by
  induction rounds generalizing p with
  | zero => exact ⟨rfl, fun _ => rfl⟩
  | succ rounds ih =>
    unfold Dispatcher.drainFrom
    split
    · exact ⟨rfl, fun _ => rfl⟩
    · obtain ⟨d, report⟩ := p
      obtain ⟨hnext, -, hexpected, hruns⟩ := hp.batch hrep report
      obtain ⟨hexpected', hruns'⟩ := ih hnext
      exact ⟨hexpected'.trans hexpected, fun t => (hruns' t).trans (hruns t)⟩

end Dispatcher

/-! ## Drains of tasks -/

/-- Whether one of the runs of a task that are allowed succeeds. -/
def succeedsWithin (succeeds : Nat → Bool) (most : Nat) : Bool := (List.range' 1 most).any succeeds

/-- How often a task is run: until its first success, or as often as is allowed. -/
def runsUntil (succeeds : Nat → Bool) (most : Nat) : Nat :=
  ((List.range' 1 most).find? succeeds).getD most

/-- The report of tasks each of which is run until its first success or as often as is allowed. -/
def Report.ofTasks (succeeds : Task → Nat → Bool) (most : Nat) (tasks : List Task) : Report where
  succeeded := tasks.countP fun t => succeedsWithin (succeeds t) most
  redelivered := total (fun t => runsUntil (succeeds t) most - 1) tasks
  dropped := tasks.countP fun t => !succeedsWithin (succeeds t) most

/-- The report does not depend on the order of the tasks. -/
theorem Report.ofTasks_perm (succeeds : Task → Nat → Bool) (most : Nat) {tasks tasks' : List Task}
    (h : tasks.Perm tasks') : ofTasks succeeds most tasks = ofTasks succeeds most tasks' := by
  unfold ofTasks
  rw [h.countP_eq, h.countP_eq, total_perm _ h]

section First

variable (succeeds : Task → Nat → Bool) (s : DispatcherSettings) (ticket : Nat) (t : Task)

theorem runsLeft_first : runsLeft s ⟨ticket, t, 1⟩ = List.range' 1 s.mostRuns :=
  congrArg (List.range' 1) (Nat.add_sub_cancel _ 1)

theorem lastRun_first : lastRun succeeds s ⟨ticket, t, 1⟩ = runsUntil (succeeds t) s.mostRuns := by
  rw [lastRun, runsLeft_first]
  rfl

theorem forecast_first :
    forecast succeeds s ⟨ticket, t, 1⟩ = Report.ofTasks succeeds s.mostRuns [t] := by
  have hends : (runsLeft s ⟨ticket, t, 1⟩).any (succeeds t) =
      succeedsWithin (succeeds t) s.mostRuns := by
    rw [runsLeft_first]
    rfl
  unfold forecast Report.ofTasks
  rw [lastRun_first, hends]
  cases hwithin : succeedsWithin (succeeds t) s.mostRuns <;>
    simp only [List.countP_singleton, hwithin, total_cons, total_nil, Nat.add_zero] <;> rfl

/-- What is forecast of queued tasks is their report. -/
theorem sum_forecast_firstDeliveries (tasks : List Task) :
    Report.sum ((firstDeliveries ticket tasks).map (forecast succeeds s)) =
      Report.ofTasks succeeds s.mostRuns tasks := by
  induction tasks generalizing ticket with
  | nil => rfl
  | cons t tasks ih =>
    rw [firstDeliveries, List.map_cons, Report.sum_cons, ih, forecast_first]
    simp only [Report.ofTasks, Report.plus, List.countP_cons, List.countP_nil, total_cons, total_nil,
      Nat.zero_add, Nat.add_comm]

/-- Each time that a task was queued it is run until its first success or as often as is allowed. -/
theorem total_runsOwed_firstDeliveries (tasks : List Task) :
    total (runsOwed succeeds s t) (firstDeliveries ticket tasks) =
      tasks.count t * runsUntil (succeeds t) s.mostRuns := by
  induction tasks generalizing ticket with
  | nil => exact (Nat.zero_mul _).symm
  | cons u tasks ih =>
    rw [firstDeliveries, total_cons, ih, List.count_cons]
    by_cases hut : u = t
    · subst hut
      have howed : runsOwed succeeds s u ⟨ticket, u, 1⟩ = runsUntil (succeeds u) s.mostRuns := by
        rw [runsOwed, if_pos rfl, lastRun_first]
        exact Nat.add_sub_cancel _ 1
      rw [howed, beq_self_eq_true, if_pos rfl, Nat.succ_mul, Nat.add_comm]
    · have howed : runsOwed succeeds s t ⟨ticket, u, 1⟩ = 0 := if_neg hut
      have hne : ¬ (u == t) = true := fun h => hut (beq_iff_eq.1 h)
      rw [howed, if_neg hne, Nat.zero_add, Nat.add_zero]

end First

/-- A drain of different tasks by a handler that repeats itself. Sleeps are part of the handler. -/
structure Trial (succeeds : Task → Nat → Bool) : Type 1 where
  σ : Type
  τ : Type
  handler : Handler σ τ
  settings : DispatcherSettings
  now : Nat
  state : σ
  tasks : List Task
  distinct : tasks.Nodup
  repeats : handler.Repeats succeeds tasks state

namespace Trial

/-- The dispatcher when the tasks have been queued. -/
def dispatcher (x : Trial succeeds) : Dispatcher x.σ :=
  ({ settings := x.settings, now := x.now, state := x.state } : Dispatcher x.σ).enqueueAll x.tasks

/-- How many batches may be needed. -/
def rounds (x : Trial succeeds) : Nat := x.settings.mostRuns * x.tasks.length

/-- The dispatcher and the report after the drain. -/
def drained (x : Trial succeeds) : Dispatcher x.σ × Report := x.dispatcher.drain x.handler x.rounds

theorem dispatcher_eq (x : Trial succeeds) : x.dispatcher =
    { settings := x.settings, now := x.now, state := x.state
      queue := firstDeliveries 0 x.tasks, ticket := x.tasks.length } := by
  simp [dispatcher, Dispatcher.enqueueAll_eq]

theorem steady (x : Trial succeeds) : x.dispatcher.Steady x.handler x.tasks x.state := by
  rw [dispatcher_eq]
  refine ⟨⟨rfl, fun y hy => DispatcherSettings.allows_of_mem_firstDeliveries hy⟩, .fresh, ?_,
    fun y hy => ?_⟩
  · rw [map_task_firstDeliveries]
    exact x.distinct
  · have hmem := List.mem_map_of_mem (f := Delivery.task) hy
    rw [map_task_firstDeliveries] at hmem
    rw [attempt_of_mem_firstDeliveries hy]
    exact ⟨hmem, rfl⟩

/-- **A drain leaves nothing queued, and its report and runs follow from the tasks alone.** -/
theorem drained_spec (x : Trial succeeds) :
    x.drained.1.queue = [] ∧ x.drained.2 = Report.ofTasks succeeds x.settings.mostRuns x.tasks ∧
      ∀ t, x.drained.1.runsOf t =
        if t ∈ x.tasks then runsUntil (succeeds t) x.settings.mostRuns else 0 := by
  have heq := x.dispatcher_eq
  have hrounds : total x.dispatcher.settings.left x.dispatcher.queue ≤ x.rounds := by
    rw [heq]
    exact Nat.le_of_eq (DispatcherSettings.total_left_firstDeliveries x.settings 0 x.tasks)
  obtain ⟨-, hempty, -⟩ := Dispatcher.drainFrom_ends (p := (x.dispatcher, {}))
    (P := fun d => d.Steady x.handler x.tasks x.state) (f := fun d => total d.settings.left d.queue)
    (fun _ report hd => ⟨(hd.batch x.repeats report).1, (hd.batch x.repeats report).2.1⟩)
    x.steady hrounds
  obtain ⟨hexpected, hruns⟩ :=
    Dispatcher.Steady.drainFrom x.repeats x.rounds (p := (x.dispatcher, {})) x.steady
  replace hempty : x.drained.1.queue = [] := hempty
  replace hexpected : Dispatcher.expected succeeds x.drained =
    Dispatcher.expected succeeds (x.dispatcher, {}) := hexpected
  refine ⟨hempty, ?_, fun t => ?_⟩
  · rw [Dispatcher.expected, Dispatcher.expected, hempty, heq] at hexpected
    exact hexpected.trans ((Report.zero_plus _).trans
      (sum_forecast_firstDeliveries succeeds x.settings 0 x.tasks))
  · have hall : x.drained.1.expectedRuns succeeds t = x.dispatcher.expectedRuns succeeds t := hruns t
    rw [Dispatcher.expectedRuns, Dispatcher.expectedRuns, hempty, heq] at hall
    have howed := total_runsOwed_firstDeliveries succeeds x.settings 0 t x.tasks
    have hran : x.drained.1.runsOf t = x.tasks.count t * runsUntil (succeeds t) x.settings.mostRuns :=
      hall.trans ((Nat.zero_add _).trans howed)
    rw [hran, x.distinct.count]
    split
    · exact Nat.one_mul _
    · exact Nat.zero_mul _

end Trial

/-! ## Two drains -/

/-- **Two drains of the same tasks report the same**, whatever the concurrency and the retry delay,
however long the handlers sleep and in whichever order the tasks were queued, if they allow equally
many runs and the n-th run of a task succeeds in both or in neither. They end; succeeded are the
tasks with a success among the runs that are allowed, dropped the others, and redelivered are the runs
of each task but one; a task is run until its first success, or as often as is allowed. -/
theorem drain_reports_agree (x y : Trial succeeds)
    (hmost : max 1 x.settings.maxAttempts.toNat = max 1 y.settings.maxAttempts.toNat)
    (htasks : x.tasks.Perm y.tasks) :
    let most := max 1 x.settings.maxAttempts.toNat
    ((∀ more, x.dispatcher.drain x.handler (x.rounds + more) = x.drained) ∧
      ∀ more, y.dispatcher.drain y.handler (y.rounds + more) = y.drained) ∧
    (x.drained.1.queue = [] ∧ y.drained.1.queue = []) ∧
    x.drained.2 = y.drained.2 ∧
    x.drained.2 =
      { succeeded := x.tasks.countP fun t => succeedsWithin (succeeds t) most
        redelivered := total (fun t => runsUntil (succeeds t) most - 1) x.tasks
        dropped := x.tasks.countP fun t => !succeedsWithin (succeeds t) most } ∧
    ∀ t, x.drained.1.runsOf t = (if t ∈ x.tasks then runsUntil (succeeds t) most else 0) ∧
      y.drained.1.runsOf t = x.drained.1.runsOf t := by
  intro most
  obtain ⟨hempty, hreport, hruns⟩ := x.drained_spec
  obtain ⟨hempty', hreport', hruns'⟩ := y.drained_spec
  have hmost' : y.settings.mostRuns = most := hmost.symm
  rw [hmost'] at hreport' hruns'
  refine ⟨⟨(Dispatcher.drain_returned_iff _).2 hempty, (Dispatcher.drain_returned_iff _).2 hempty'⟩,
    ⟨hempty, hempty'⟩, ?_, hreport, fun t => ⟨hruns t, ?_⟩⟩
  · rw [hreport, hreport']
    exact Report.ofTasks_perm succeeds most htasks
  · rw [hruns', hruns]
    simp only [htasks.mem_iff]
    rfl

/-- Of two tasks the first fails once and the second twice, which is as often as it may be run. They
are queued in either order, one delivery at a time and without a delay, or all at a time with delays
and slower handlers; the reports are the same. -/
theorem reports_of_two_schedules :
    let revision : RevisionKey := ⟨⟨⟨"base", by decide⟩⟩, ⟨"r1", by decide⟩⟩
    let first : Task := .fetchInstances ⟨revision, ⟨"east", by decide⟩⟩
    let second : Task := .fetchInstances ⟨revision, ⟨"west", by decide⟩⟩
    let failed : ScriptStep := { failure := some (.of .malformed) }
    let script : Script := [(first.text, [failed]), (second.text, [failed, failed])]
    let narrow : DispatcherSettings := { concurrency := 1, maxAttempts := 2, retryDelay := 0 }
    let wide : DispatcherSettings := { concurrency := 8, maxAttempts := 2, retryDelay := 1000 }
    let one := (({ settings := narrow, state := {} } : Dispatcher ScriptState).enqueueAll
      [first, second]).drain script.handler 4
    let other := (({ settings := wide, state := {} } : Dispatcher ScriptState).enqueueAll
      [second, first]).drain (script.slowed 500).handler 4
    one.2 = other.2 ∧ one.2 = { succeeded := 1, redelivered := 2, dropped := 1 } ∧
      one.1.runsOf second = 2 ∧ other.1.runsOf second = 2 := by
  intro revision first second failed script narrow wide one other
  let succeeds : Task → Nat → Bool := fun t n => (script.stepOf t (n - 1)).failure.isNone
  have hsilent : ∀ t n, (script.stepOf t n).queued = [] :=
    Script.forall_stepOf (P := fun step => step.queued = []) rfl (by decide)
  have hsucceeds : ∀ t n, (script.stepOf t n).failure = none ↔ succeeds t (n + 1) = true :=
    fun _ _ => Option.isNone_iff_eq_none.symm
  let x : Trial succeeds :=
    { σ := ScriptState, τ := ScriptStep, handler := script.handler, settings := narrow, now := 0
      state := {}, tasks := [first, second]
      distinct := by decide
      repeats := Script.repeats hsilent hsucceeds _ }
  let y : Trial succeeds :=
    { σ := ScriptState, τ := ScriptStep, handler := (script.slowed 500).handler, settings := wide
      now := 0, state := {}, tasks := [second, first]
      distinct := by decide
      repeats := Script.repeats (fun t n => (script.stepOf_slowed 500 t n).2.trans (hsilent t n))
        (fun t n => by rw [(script.stepOf_slowed 500 t n).1]; exact hsucceeds t n) _ }
  obtain ⟨-, -, hsame, hreport, hruns⟩ := drain_reports_agree x y rfl (List.Perm.swap _ _ _)
  have hcounted : Report.ofTasks succeeds 2 [first, second] =
      { succeeded := 1, redelivered := 2, dropped := 1 } := by decide +kernel
  have hran : (if second ∈ [first, second] then runsUntil (succeeds second) 2 else 0) = 2 := by
    decide +kernel
  have hsecond : one.1.runsOf second = 2 := (hruns second).1.trans hran
  exact ⟨hsame, hreport.trans hcounted, hsecond, (hruns second).2.trans hsecond⟩

end FleetReconciler
