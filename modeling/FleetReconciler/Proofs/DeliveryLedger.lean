import FleetReconciler.Proofs.BatchRuns

/-!
# The ledger of a dispatcher

Every task that is queued has a ticket. A ledger notes the tasks in the order of their tickets, the
results of all deliveries in the order in which they were settled, and the reports of the calls.

* `Ledger`, `DispatcherCall.perform` — the ledger that is kept of a run of calls;
* `Life` — what has become of one task: its runs so far and whether it is queued;
* `Dispatcher.batch_spec` — what a batch and its settlement do;
* `Ledger.Accounts` — ledger, dispatcher and reports agree; `Accounts.batch` is the step;
* `no_delivery_is_lost` — **every task succeeded, was dropped or is queued.**
-/

namespace FleetReconciler

/-! ## Reports -/

namespace Report

/-- The sum of two tallies. -/
def plus (r r' : Report) : Report :=
  ⟨r.succeeded + r'.succeeded, r.redelivered + r'.redelivered, r.dropped + r'.dropped⟩

/-- The sum of tallies. -/
def sum (reports : List Report) : Report := reports.foldl plus {}

/-- The tally of some results. -/
def tally (s : DispatcherSettings) (results : List (Delivery × Option Failure)) : Report :=
  results.foldl (fun r x => r.count (x.1.verdict s x.2)) {}

theorem plus_assoc (r r' r'' : Report) : (r.plus r').plus r'' = r.plus (r'.plus r'') := by
  simp [plus, Nat.add_assoc]

@[simp] theorem plus_zero (r : Report) : r.plus {} = r := rfl

@[simp] theorem zero_plus (r : Report) : plus {} r = r := by
  simp [plus]

theorem count_eq_plus (r : Report) (v : Verdict) : r.count v = r.plus (count {} v) := by
  cases v <;> rfl

@[simp] theorem sum_append_singleton (reports : List Report) (r : Report) :
    sum (reports ++ [r]) = (sum reports).plus r := by
  simp [sum]

theorem plus_comm (r r' : Report) : r.plus r' = r'.plus r := by
  simp only [plus, Nat.add_comm]

theorem foldl_plus (r : Report) (reports : List Report) :
    reports.foldl plus r = r.plus (sum reports) := by
  unfold sum
  induction reports generalizing r with
  | nil => rfl
  | cons r' reports ih => rw [List.foldl_cons, List.foldl_cons, ih, ih (plus {} r'), zero_plus, plus_assoc]

@[simp] theorem sum_cons (r : Report) (reports : List Report) :
    sum (r :: reports) = r.plus (sum reports) := by
  have hfold := foldl_plus r reports
  rw [← hfold, sum, List.foldl_cons, zero_plus]

/-- A sum does not depend on the order. -/
theorem sum_perm {reports reports' : List Report} (h : reports.Perm reports') :
    sum reports = sum reports' := by
  induction h with
  | nil => rfl
  | cons r _ ih => rw [sum_cons, sum_cons, ih]
  | swap r r' reports =>
    rw [sum_cons, sum_cons, sum_cons, sum_cons, ← plus_assoc, ← plus_assoc, plus_comm r']
  | trans _ _ ih ih' => exact ih.trans ih'

theorem foldl_count (s : DispatcherSettings) (r : Report)
    (results : List (Delivery × Option Failure)) :
    results.foldl (fun r x => r.count (x.1.verdict s x.2)) r = r.plus (tally s results) := by
  unfold tally
  induction results generalizing r with
  | nil => rfl
  | cons x results ih =>
    rw [List.foldl_cons, List.foldl_cons, ih, ih (count {} _), count_eq_plus r, plus_assoc]

theorem tally_append (s : DispatcherSettings) (results more : List (Delivery × Option Failure)) :
    tally s (results ++ more) = (tally s results).plus (tally s more) := by
  rw [tally, List.foldl_append, foldl_count]
  rfl

end Report

/-! ## Settling -/

/-- The delivery that follows a result, if one does. -/
def redelivery? (s : DispatcherSettings) (x : Delivery × Option Failure) : Option Delivery :=
  match x.1.verdict s x.2 with
  | .redelivery _ => some x.1.next
  | _ => none

/-- A failed delivery is dropped if its attempt is the last that is allowed, else delivered again. -/
theorem failed_cases (s : DispatcherSettings) (x : Delivery) (f : Failure) :
    (s.maxAttempts ≤ x.attempt ∧ x.verdict s (some f) = .drop f ∧
      redelivery? s (x, some f) = none) ∨
    (x.attempt < s.maxAttempts ∧ x.verdict s (some f) = .redelivery f ∧
      redelivery? s (x, some f) = some x.next) := by
  unfold redelivery? Delivery.verdict
  by_cases hlast : s.maxAttempts ≤ x.attempt
  · exact .inl ⟨hlast, if_pos hlast, by simp [hlast]⟩
  · exact .inr ⟨UInt32.not_le.1 hlast, if_neg hlast, by simp [hlast]⟩

/-- Each result is a success, a drop or a redelivery. -/
theorem length_results (s : DispatcherSettings) (results : List (Delivery × Option Failure)) :
    results.length = (Report.tally s results).succeeded + (Report.tally s results).dropped +
      (Report.tally s results).redelivered ∧
    (Report.tally s results).redelivered = (results.filterMap (redelivery? s)).length := by
  induction results with
  | nil => exact ⟨rfl, rfl⟩
  | cons x results ih =>
    obtain ⟨hlength, hredelivered⟩ := ih
    have hcons : Report.tally s (x :: results) =
        (Report.count {} (x.1.verdict s x.2)).plus (Report.tally s results) :=
      Report.tally_append s [x] results
    rw [hcons, List.filterMap_cons, List.length_cons, redelivery?]
    cases x.1.verdict s x.2 <;> simp only [Report.count, Report.plus, List.length_cons] <;> omega

namespace Dispatcher

variable {σ τ : Type}

theorem settle_spec (h : Handler σ τ) (d : Dispatcher σ) (report : Report)
    (results : List (Delivery × Option Failure)) :
    let p := settle h (d, report) results
    p.1.queue = d.queue ++ results.filterMap (redelivery? d.settings) ∧
      p.1.ticket = d.ticket ∧ p.1.started = d.started ∧ p.1.settings = d.settings ∧
      p.2 = report.plus (Report.tally d.settings results) := by
  induction results generalizing d report with
  | nil => exact ⟨(List.append_nil _).symm, rfl, rfl, rfl, rfl⟩
  | cons x results ih =>
    obtain ⟨d', hone, hqueue, hticket, hstarted, hsettings⟩ : ∃ d' : Dispatcher σ,
        settleOne h (d, report) x = (d', report.count (x.1.verdict d.settings x.2)) ∧
          d'.queue = d.queue ++ (redelivery? d.settings x).toList ∧ d'.ticket = d.ticket ∧
          d'.started = d.started ∧ d'.settings = d.settings := by
      refine ⟨_, rfl, ?_⟩
      unfold redelivery?
      cases x.1.verdict d.settings x.2 <;> simp [Delivery.notice?, started]
    obtain ⟨hqueue', hticket', hstarted', hsettings', hreport'⟩ :=
      ih d' (report.count (x.1.verdict d.settings x.2))
    intro p
    have hp : p = settle h (d', report.count (x.1.verdict d.settings x.2)) results :=
      congrArg (fun p => settle h p results) hone
    rw [hp]
    refine ⟨?_, hticket'.trans hticket, hstarted'.trans hstarted, hsettings'.trans hsettings, ?_⟩
    · rw [hqueue', hqueue, hsettings, List.append_assoc]
      cases hx : redelivery? d.settings x <;> simp [hx]
    · rw [hreport', hsettings, ← Report.foldl_count, ← Report.foldl_count, List.foldl_cons]

/-- A settlement takes no time, and neither marks anything nor lets anything arrive. -/
theorem settle_rest (h : Handler σ τ) (p : Dispatcher σ × Report)
    (results : List (Delivery × Option Failure)) :
    (settle h p results).1.now = p.1.now ∧ (settle h p results).1.marks = p.1.marks ∧
      (settle h p results).1.arrivals = p.1.arrivals := by
  induction results generalizing p with
  | nil => exact ⟨rfl, rfl, rfl⟩
  | cons x results ih =>
    have hone : (settleOne h p x).1.now = p.1.now ∧ (settleOne h p x).1.marks = p.1.marks ∧
        (settleOne h p x).1.arrivals = p.1.arrivals := by
      obtain ⟨d, report⟩ := p
      simp only [settleOne]
      cases x.1.verdict d.settings x.2 <;> exact ⟨rfl, rfl, rfl⟩
    obtain ⟨hnow, hmarks, harrivals⟩ := ih (settleOne h p x)
    exact ⟨hnow.trans hone.1, hmarks.trans hone.2.1, harrivals.trans hone.2.2⟩

/-- A settlement changes the state that the handlers share only by notices. -/
theorem settle_state {h : Handler σ τ} {P : σ → Prop} (hnote : ∀ n s, P s → P (h.note n s))
    {p : Dispatcher σ × Report} (hP : P p.1.state) (results : List (Delivery × Option Failure)) :
    P (settle h p results).1.state := by
  induction results generalizing p with
  | nil => exact hP
  | cons x results ih =>
    refine ih (p := settleOne h p x) ?_
    obtain ⟨d, report⟩ := p
    simp only [settleOne]
    cases x.1.verdict d.settings x.2 with
    | success => exact hP
    | redelivery f => exact hnote _ _ hP
    | drop f => exact hnote _ _ hP

/-- What a batch and its settlement do: every delivery of the queue is started once and has one
result, and the queue holds what was queued meanwhile and the redeliveries. -/
theorem batch_spec (h : Handler σ τ) (d : Dispatcher σ) (report : Report) :
    let results := (Batch.execute h { d with queue := [] } d.queue).2
    ∃ started tasks, (batch h (d, report)).1.started = d.started ++ started ∧
      started.Perm d.queue ∧ (results.map Prod.fst).Perm d.queue ∧
      (Batch.execute h { d with queue := [] } d.queue).1.queue.map Delivery.task = tasks ∧
      (batch h (d, report)).1.queue =
        firstDeliveries d.ticket tasks ++ results.filterMap (redelivery? d.settings) ∧
      (batch h (d, report)).1.ticket = d.ticket + tasks.length ∧
      (batch h (d, report)).1.settings = d.settings ∧
      (batch h (d, report)).2 = report.plus (Report.tally d.settings results) := by
  obtain ⟨started, tasks, hstarted, hperm, hresults, hqueues⟩ :=
    Batch.execute_spec h { d with queue := [] } d.queue
  intro results
  obtain ⟨hqueue, hticket, hstarted', hsettings, hreport⟩ :=
    settle_spec h (Batch.execute h { d with queue := [] } d.queue).1 report results
  have hsettings' := hqueues.settings
  have hqueue' : (Batch.execute h { d with queue := [] } d.queue).1.queue =
    firstDeliveries d.ticket tasks := hqueues.queue
  rw [hsettings'] at hqueue hsettings hreport
  refine ⟨started, tasks, hstarted'.trans hstarted, hperm, hresults, ?_, ?_,
    hticket.trans hqueues.ticket, hsettings, hreport⟩
  · rw [hqueue', map_task_firstDeliveries]
  · rw [← hqueue']
    exact hqueue

/-- While it waits, a dispatcher only lets tasks arrive. -/
theorem await_spec (shutdown : Nat) (arrivals : List (Arrival σ)) (d : Dispatcher σ) :
    ∃ tasks, d.Queues tasks (await shutdown arrivals d) ∧
      (await shutdown arrivals d).started = d.started := by
  induction arrivals generalizing d with
  | nil =>
    unfold await
    split
    · exact ⟨[], ⟨by simp [firstDeliveries], rfl, rfl⟩, rfl⟩
    · exact ⟨[], .refl d, rfl⟩
  | cons a rest ih =>
    unfold await
    split
    · exact ⟨[], .refl d, rfl⟩
    · split
      · exact ⟨[], ⟨by simp [firstDeliveries], rfl, rfl⟩, rfl⟩
      · obtain ⟨tasks, hqueues, hstarted⟩ := ih (d.receive a rest)
        exact ⟨_, (d.queues_receive a rest).trans hqueues, hstarted.trans (d.started_receive a rest)⟩

/-- A dispatcher that waits marks nothing, and its clock does not go back. -/
theorem await_rest (shutdown : Nat) (arrivals : List (Arrival σ)) (d : Dispatcher σ) :
    (await shutdown arrivals d).marks = d.marks ∧ d.now ≤ (await shutdown arrivals d).now := by
  induction arrivals generalizing d with
  | nil =>
    unfold await
    split
    · exact ⟨rfl, Nat.le_max_left _ _⟩
    · exact ⟨rfl, Nat.le_refl _⟩
  | cons a rest ih =>
    unfold await
    split
    · exact ⟨rfl, Nat.le_refl _⟩
    · split
      · exact ⟨rfl, Nat.le_max_left _ _⟩
      · obtain ⟨hmarks, hnow⟩ := ih (d.receive a rest)
        rw [receive_eq] at hmarks hnow ⊢
        exact ⟨hmarks, Nat.le_trans (Nat.le_max_left _ _) hnow⟩

end Dispatcher

/-! ## The life of a task -/

/-- The deliveries of a task with the given outcomes: the attempts in order, from one. -/
def attempts (ticket : Nat) (task : Task) (outcomes : List (Option Failure)) :
    List (Delivery × Option Failure) :=
  outcomes.zipIdx.map fun (outcome, n) => (⟨ticket, task, .ofNat (n + 1)⟩, outcome)

/-- How often a task is run at most. -/
def DispatcherSettings.mostRuns (s : DispatcherSettings) : Nat := max 1 s.maxAttempts.toNat

/-- Whether a task with the given outcomes is to be run again. -/
def DispatcherSettings.Pending (s : DispatcherSettings) (outcomes : List (Option Failure)) : Prop :=
  (∀ o ∈ outcomes, o ≠ none) ∧ outcomes.length < s.mostRuns

instance (s : DispatcherSettings) (outcomes : List (Option Failure)) :
    Decidable (s.Pending outcomes) := inferInstanceAs (Decidable (_ ∧ _))

/-- What has become of the task of a ticket: its handler was started for attempt one, two and so on,
each with one result; no run followed a success; it is queued for the next attempt just if all runs
failed and there may be another one. -/
structure Life (s : DispatcherSettings) (results : List (Delivery × Option Failure))
    (started queue : List Delivery) (ticket : Nat) (task : Task)
    (outcomes : List (Option Failure)) : Prop where
  results : results.filter (·.1.ticket = ticket) = attempts ticket task outcomes
  started : started.filter (·.ticket = ticket) = (attempts ticket task outcomes).map Prod.fst
  queue : queue.filter (·.ticket = ticket) =
    if s.Pending outcomes then [⟨ticket, task, .ofNat (outcomes.length + 1)⟩] else []
  most : outcomes.length ≤ s.mostRuns
  failed : ∀ o ∈ outcomes.dropLast, o ≠ none

theorem attempts_append_singleton (ticket : Nat) (task : Task) (outcomes : List (Option Failure))
    (outcome : Option Failure) :
    attempts ticket task (outcomes ++ [outcome]) = attempts ticket task outcomes ++
      [(⟨ticket, task, .ofNat (outcomes.length + 1)⟩, outcome)] := by
  simp [attempts, List.zipIdx_append]

theorem mem_attempts {ticket : Nat} {task : Task} {outcomes : List (Option Failure)}
    {x : Delivery × Option Failure} : x ∈ attempts ticket task outcomes ↔
      ∃ n outcome, outcomes[n]? = some outcome ∧ (⟨ticket, task, .ofNat (n + 1)⟩, outcome) = x := by
  simp only [attempts, List.mem_map, Prod.exists, List.mem_zipIdx_iff_getElem?]
  exact exists_comm

/-- What follows from an attempt that may be made: it is the last one if there may not be more. -/
theorem verdict_attempt (s : DispatcherSettings) (ticket : Nat) (task : Task) {n : Nat}
    (hn : n < s.mostRuns) (f : Failure) :
    Delivery.verdict s ⟨ticket, task, .ofNat (n + 1)⟩ (some f) =
      if n + 1 < s.mostRuns then .redelivery f else .drop f := by
  have hsmall : n + 1 < 2 ^ 32 := by
    have hmax := s.maxAttempts.toNat_lt
    unfold DispatcherSettings.mostRuns at hn
    omega
  have hlast : UInt32.ofNat (n + 1) ≥ s.maxAttempts ↔ ¬ n + 1 < s.mostRuns := by
    rw [ge_iff_le, UInt32.le_iff_toNat_le, UInt32.toNat_ofNat_of_lt' hsmall]
    unfold DispatcherSettings.mostRuns
    omega
  simp only [Delivery.verdict, hlast, ite_not]

/-- The redelivery after an attempt that may be made. -/
theorem redelivery?_attempt (s : DispatcherSettings) (ticket : Nat) (task : Task) {n : Nat}
    (hn : n < s.mostRuns) (outcome : Option Failure) :
    redelivery? s (⟨ticket, task, .ofNat (n + 1)⟩, outcome) =
      if outcome ≠ none ∧ n + 1 < s.mostRuns then some ⟨ticket, task, .ofNat (n + 1 + 1)⟩
      else none := by
  cases outcome with
  | none => rfl
  | some f =>
    rw [redelivery?, verdict_attempt s ticket task hn]
    by_cases hmore : n + 1 < s.mostRuns <;> simp [hmore, Delivery.next, UInt32.ofNat_add]

/-- A redelivery is the next attempt of its delivery. -/
theorem eq_next_of_redelivery? {s : DispatcherSettings} {x : Delivery × Option Failure} {y : Delivery}
    (h : redelivery? s x = some y) : y = x.1.next := by
  unfold redelivery? at h
  split at h
  · exact (Option.some.inj h).symm
  · cases h

theorem redelivery?_ticket {s : DispatcherSettings} {x : Delivery × Option Failure} {y : Delivery}
    (h : redelivery? s x = some y) : y.ticket = x.1.ticket := by
  rw [eq_next_of_redelivery? h]
  rfl

theorem redelivery?_task {s : DispatcherSettings} {x : Delivery × Option Failure} {y : Delivery}
    (h : redelivery? s x = some y) : y.task = x.1.task := by
  rw [eq_next_of_redelivery? h]
  rfl

/-- The redeliveries of a ticket follow from its results. -/
theorem filter_redelivery (s : DispatcherSettings) (results : List (Delivery × Option Failure))
    (ticket : Nat) :
    (results.filterMap (redelivery? s)).filter (·.ticket = ticket) =
      (results.filter (·.1.ticket = ticket)).filterMap (redelivery? s) := by
  induction results with
  | nil => rfl
  | cons x results ih =>
    rw [List.filterMap_cons, List.filter_cons]
    cases hx : redelivery? s x with
    | none =>
      by_cases hticket : x.1.ticket = ticket <;> simp [hticket, hx, ih]
    | some y =>
      have hy := redelivery?_ticket hx
      by_cases hticket : x.1.ticket = ticket <;> simp [hticket, hx, hy, ih]

theorem filter_firstDeliveries (ticket n : Nat) (tasks : List Task) :
    (firstDeliveries n tasks).filter (·.ticket = ticket) =
      if n ≤ ticket then (tasks[ticket - n]?.map (⟨ticket, ·, 1⟩)).toList else [] := by
  induction tasks generalizing n with
  | nil => simp [firstDeliveries]
  | cons t tasks ih =>
    rw [firstDeliveries, List.filter_cons, ih]
    rcases Nat.lt_trichotomy n ticket with hn | rfl | hn
    · have hsub : ticket - n = ticket - (n + 1) + 1 := by omega
      simp [Nat.ne_of_lt hn, Nat.le_of_lt hn, hsub, Nat.succ_le_of_lt hn]
    · have h2 : ¬ n + 1 ≤ n := by omega
      simp [h2]
    · have h1 : ¬ n ≤ ticket := by omega
      have h2 : ¬ n + 1 ≤ ticket := by omega
      simp [Nat.ne_of_gt hn, h1, h2]

/-- Nothing of a list has a number that all its numbers are below. -/
theorem filter_eq_nil_of_lt {α : Type} {f : α → Nat} {l : List α} {n k : Nat} (hk : n ≤ k)
    (h : ∀ x ∈ l, f x < n) : l.filter (fun x => f x = k) = [] :=
  List.filter_eq_nil_iff.2 fun x hx => by simp [Nat.ne_of_lt (Nat.lt_of_lt_of_le (h x hx) hk)]

namespace Life

variable {s : DispatcherSettings} {results more : List (Delivery × Option Failure)}
  {started queue : List Delivery} {ticket : Nat} {task : Task} {outcomes : List (Option Failure)}

/-- The life of a task begins when it is queued with a new ticket. -/
theorem first {n : Nat} (hn : n ≤ ticket) (hresults : ∀ x ∈ results, x.1.ticket < n)
    (hstarted : ∀ x ∈ started, x.ticket < n) (hqueue : queue.filter (·.ticket = ticket) =
      [⟨ticket, task, 1⟩]) : Life s results started queue ticket task [] where
  results := filter_eq_nil_of_lt hn hresults
  started := filter_eq_nil_of_lt hn hstarted
  queue := by
    have hpending : s.Pending [] := ⟨fun _ ho => absurd ho List.not_mem_nil,
      Nat.lt_of_lt_of_le Nat.zero_lt_one (Nat.le_max_left _ _)⟩
    rw [hqueue, if_pos hpending]
    rfl
  most := Nat.zero_le _
  failed _ ho := absurd ho List.not_mem_nil

/-- Tasks that are queued have lives of their own. -/
theorem queued (h : Life s results started queue ticket task outcomes) {n : Nat} (hn : ticket < n)
    (tasks : List Task) :
    Life s results started (queue ++ firstDeliveries n tasks) ticket task outcomes :=
  { h with
    queue := by
      rw [List.filter_append, filter_firstDeliveries, if_neg (Nat.not_le_of_lt hn), List.append_nil]
      exact h.queue }

/-- **A batch takes a task that is queued one attempt further**, and does nothing to another. -/
theorem batch (h : Life s results started queue ticket task outcomes) {newly : List Delivery}
    (hnewly : newly.Perm queue) (hmore : (more.map Prod.fst).Perm queue) {n : Nat}
    (hn : ticket < n) (tasks : List Task) :
    ∃ outcomes', Life s (results ++ more) (started ++ newly)
      (firstDeliveries n tasks ++ more.filterMap (redelivery? s)) ticket task outcomes' := by
  have hnewly := hnewly.filter (·.ticket = ticket)
  have hmore := hmore.filter (·.ticket = ticket)
  rw [List.filter_map] at hmore
  have hqueue : (firstDeliveries n tasks ++ more.filterMap (redelivery? s)).filter
      (·.ticket = ticket) = (more.filter (·.1.ticket = ticket)).filterMap (redelivery? s) := by
    rw [List.filter_append, filter_firstDeliveries, if_neg (Nat.not_le_of_lt hn), List.nil_append,
      filter_redelivery]
  by_cases hpending : s.Pending outcomes
  · have hone := h.queue
    rw [if_pos hpending] at hone
    rw [hone] at hnewly hmore
    obtain ⟨x, hx, hfst⟩ := List.map_eq_singleton_iff.1 (List.perm_singleton.1 hmore)
    obtain ⟨delivery, outcome⟩ := x
    obtain rfl : delivery = _ := hfst
    replace hx : more.filter (·.1.ticket = ticket) = [(_, outcome)] := hx
    refine ⟨outcomes ++ [outcome], ?_, ?_, ?_, ?_, ?_⟩
    · rw [List.filter_append, h.results, hx, attempts_append_singleton]
    · rw [List.filter_append, h.started, List.perm_singleton.1 hnewly, attempts_append_singleton,
        List.map_append]
      rfl
    · have hiff : s.Pending (outcomes ++ [outcome]) ↔
          outcome ≠ none ∧ outcomes.length + 1 < s.mostRuns := by
        unfold DispatcherSettings.Pending
        rw [List.forall_mem_append, List.length_append, List.forall_mem_singleton]
        exact and_congr_left fun _ => and_iff_right hpending.1
      rw [hqueue, hx, List.filterMap_cons, redelivery?_attempt s ticket task hpending.2,
        List.length_append]
      by_cases hagain : outcome ≠ none ∧ outcomes.length + 1 < s.mostRuns
      · rw [if_pos hagain, if_pos (hiff.2 hagain)]
        rfl
      · rw [if_neg hagain, if_neg fun h => hagain (hiff.1 h)]
        rfl
    · rw [List.length_append]
      exact hpending.2
    · rw [List.dropLast_concat]
      exact hpending.1
  · have hnone := h.queue
    rw [if_neg hpending] at hnone
    rw [hnone] at hnewly hmore
    have hx : more.filter (·.1.ticket = ticket) = [] := List.map_eq_nil_iff.1 (List.perm_nil.1 hmore)
    refine ⟨outcomes, ?_, ?_, ?_, h.most, h.failed⟩
    · rw [List.filter_append, hx, List.append_nil, h.results]
    · rw [List.filter_append, List.perm_nil.1 hnewly, List.append_nil, h.started]
    · rw [hqueue, hx, if_neg hpending]
      rfl

end Life

/-! ## The ledger -/

/-- What a dispatcher has been given and what came of it. -/
structure Ledger where
  /-- Every task that was ever queued, in the order of the tickets. -/
  tasks : List Task := []
  /-- Every delivery that was carried out with its failure, in the order of the settlements. -/
  results : List (Delivery × Option Failure) := []
  /-- The reports of the calls. -/
  reports : List Report := []

variable {σ τ : Type}

namespace Ledger

/-- Notes the tasks that are queued. -/
def queued (l : Ledger) (tasks : List Task) : Ledger := { l with tasks := l.tasks ++ tasks }

/-- Notes a batch: what its handlers queued and its results. -/
def batch (h : Handler σ τ) (d : Dispatcher σ) (l : Ledger) : Ledger :=
  let (d', results) := Batch.execute h { d with queue := [] } d.queue
  { l.queued (d'.queue.map Delivery.task) with results := l.results ++ results }

/-- Notes the batches of a drain. -/
def drainFrom (h : Handler σ τ) : Nat → Dispatcher σ × Report → Ledger → Ledger
  | 0, _, l => l
  | rounds + 1, p, l =>
    if p.1.queue = [] then l else drainFrom h rounds (Dispatcher.batch h p) (l.batch h p.1)

/-- Notes the rounds of a run. -/
def runFrom (h : Handler σ τ) (shutdown : Nat) (stopFirst : Nat → Bool) :
    Nat → Dispatcher σ × Report → Ledger → Ledger
  | 0, _, l => l
  | rounds + 1, (d, report), l =>
    if d.queue = [] then
      if shutdown ≤ d.now then l
      else
        let d' := d.await shutdown d.arrivals
        runFrom h shutdown stopFirst rounds (d', report) (l.queued (d'.queue.map Delivery.task))
    else if shutdown ≤ d.now ∧ stopFirst rounds then l
    else runFrom h shutdown stopFirst rounds (Dispatcher.batch h (d, report)) (l.batch h d)

/-- Notes the report of a call. -/
def ended (l : Ledger) (report : Report) : Ledger := { l with reports := l.reports ++ [report] }

/-- What is so of a ledger, the dispatcher whose ledger it is, and the tally of the call that is
going on: every queued task has succeeded, was dropped or is queued, every run has a result, and the
reports count the results. -/
structure Accounts (s : DispatcherSettings) (l : Ledger) (d : Dispatcher σ) (report : Report) :
    Prop where
  settings : d.settings = s
  tasks : l.tasks.length = d.ticket
  results : ∀ x ∈ l.results, x.1.ticket < d.ticket
  started : ∀ x ∈ d.started, x.ticket < d.ticket
  queue : ∀ x ∈ d.queue, x.ticket < d.ticket
  lives : ∀ ticket task, l.tasks[ticket]? = some task →
    ∃ outcomes, Life s l.results d.started d.queue ticket task outcomes
  runs : d.started.length = l.results.length
  balance : d.ticket = (Report.tally s l.results).succeeded + (Report.tally s l.results).dropped +
    d.queue.length
  reports : (Report.sum l.reports).plus report = Report.tally s l.results

namespace Accounts

variable {s : DispatcherSettings} {l : Ledger} {d d' : Dispatcher σ} {report : Report}

theorem fresh (s : DispatcherSettings) (now : Nat) (arrivals : List (Arrival σ)) (state : σ) :
    Accounts s {} ({ settings := s, now, arrivals, state } : Dispatcher σ) {} where
  settings := rfl
  tasks := rfl
  results _ hx := absurd hx List.not_mem_nil
  started _ hx := absurd hx List.not_mem_nil
  queue _ hx := absurd hx List.not_mem_nil
  lives _ _ htask := by simp at htask
  runs := rfl
  balance := rfl
  reports := rfl

theorem ended (h : l.Accounts s d report) : (l.ended report).Accounts s d {} :=
  { h with reports := by simpa [Ledger.ended] using h.reports }

/-- A ticket of the ledger with new tasks is one of the old ones, or is first queued now. -/
theorem ticket_cases (h : l.Accounts s d report) {tasks : List Task} {ticket : Nat} {task : Task}
    (htask : (l.tasks ++ tasks)[ticket]? = some task) :
    (ticket < d.ticket ∧ l.tasks[ticket]? = some task) ∨
      d.ticket ≤ ticket ∧ (firstDeliveries d.ticket tasks).filter (·.ticket = ticket) =
        [⟨ticket, task, 1⟩] := by
  rw [List.getElem?_append, h.tasks] at htask
  split at htask
  · exact .inl ⟨‹_›, htask⟩
  · have hle : d.ticket ≤ ticket := Nat.le_of_not_lt ‹_›
    rw [filter_firstDeliveries, if_pos hle, htask]
    exact .inr ⟨hle, rfl⟩

/-- Tasks are queued. -/
theorem queued (h : l.Accounts s d report) {tasks : List Task} (hqueues : d.Queues tasks d')
    (hstarted : d'.started = d.started) : (l.queued tasks).Accounts s d' report where
  settings := hqueues.settings.trans h.settings
  tasks := by
    rw [hqueues.ticket, ← h.tasks]
    exact List.length_append
  results x hx := by
    rw [hqueues.ticket]
    exact Nat.lt_add_right _ (h.results x hx)
  started x hx := by
    rw [hqueues.ticket]
    rw [hstarted] at hx
    exact Nat.lt_add_right _ (h.started x hx)
  queue x hx := by
    rw [hqueues.ticket]
    rw [hqueues.queue, List.mem_append] at hx
    rcases hx with hx | hx
    · exact Nat.lt_add_right _ (h.queue x hx)
    · exact ticket_of_mem_firstDeliveries hx
  lives ticket task htask := by
    rw [hstarted, hqueues.queue]
    rcases h.ticket_cases htask with ⟨hold, htask⟩ | ⟨hnew, hfirst⟩
    · obtain ⟨outcomes, hlife⟩ := h.lives ticket task htask
      exact ⟨outcomes, hlife.queued hold tasks⟩
    · refine ⟨[], Life.first hnew h.results h.started ?_⟩
      rw [List.filter_append, filter_eq_nil_of_lt hnew h.queue, hfirst]
      rfl
  runs := by
    rw [hstarted]
    exact h.runs
  balance := by
    have hbalance := h.balance
    rw [hqueues.ticket, hqueues.queue, List.length_append, length_firstDeliveries]
    simp only [Ledger.queued]
    omega
  reports := h.reports

/-- **A batch is carried out and settled.** -/
theorem batch (h : l.Accounts s d report) (handler : Handler σ τ) :
    (l.batch handler d).Accounts s (Dispatcher.batch handler (d, report)).1
      (Dispatcher.batch handler (d, report)).2 := by
  obtain ⟨started, tasks, hstarted, hperm, hresults, htasks, hqueue, hticket, hsettings, hreport⟩ :=
    Dispatcher.batch_spec handler d report
  have hledger : l.batch handler d = { l.queued tasks with
      results := l.results ++ (Batch.execute handler { d with queue := [] } d.queue).2 } := by
    rw [← htasks]
    rfl
  generalize Batch.execute handler { d with queue := [] } d.queue = executed at *
  generalize Dispatcher.batch handler (d, report) = p at *
  rw [h.settings] at hqueue hreport
  -- a result, a start and a redelivery are each of a delivery of the queue
  have hold : ∀ x ∈ executed.2, x.1.ticket < d.ticket := fun x hx =>
    h.queue _ (hresults.subset (List.mem_map_of_mem hx))
  have hnewly : ∀ x ∈ started, x.ticket < d.ticket := fun x hx => h.queue _ (hperm.subset hx)
  have hagain : ∀ y ∈ executed.2.filterMap (redelivery? s), y.ticket < d.ticket := by
    intro y hy
    obtain ⟨x, hx, hxy⟩ := List.mem_filterMap.1 hy
    rw [redelivery?_ticket hxy]
    exact hold x hx
  have hresultsOld := List.forall_mem_append.2 ⟨h.results, hold⟩
  have hstartedOld := List.forall_mem_append.2 ⟨h.started, hnewly⟩
  rw [← hstarted] at hstartedOld
  have hlength : executed.2.length = d.queue.length := by
    rw [← hresults.length_eq, List.length_map]
  rw [hledger]
  exact {
    settings := hsettings.trans h.settings
    tasks := by
      rw [hticket, ← h.tasks]
      exact List.length_append
    results := fun x hx => by
      rw [hticket]
      exact Nat.lt_add_right _ (hresultsOld x hx)
    started := fun x hx => by
      rw [hticket]
      exact Nat.lt_add_right _ (hstartedOld x hx)
    queue := fun x hx => by
      rw [hticket]
      rw [hqueue, List.mem_append] at hx
      rcases hx with hx | hx
      · exact ticket_of_mem_firstDeliveries hx
      · exact Nat.lt_add_right _ (hagain x hx)
    lives := fun ticket task htask => by
      rw [hqueue]
      rcases h.ticket_cases htask with ⟨hlt, htask⟩ | ⟨hnew, hfirst⟩
      · obtain ⟨outcomes, hlife⟩ := h.lives ticket task htask
        rw [hstarted]
        exact hlife.batch hperm hresults hlt tasks
      · refine ⟨[], Life.first hnew hresultsOld hstartedOld ?_⟩
        rw [List.filter_append, filter_eq_nil_of_lt hnew hagain, hfirst]
        rfl
    runs := by
      rw [hstarted, List.length_append, List.length_append, h.runs, hperm.length_eq, hlength]
    balance := by
      have hbalance := h.balance
      obtain ⟨hall, hredelivered⟩ := length_results s executed.2
      rw [hticket, hqueue, List.length_append, length_firstDeliveries, Report.tally_append]
      simp only [Report.plus]
      omega
    reports := by
      rw [hreport, ← Report.plus_assoc, Report.tally_append]
      exact congrArg (Report.plus · _) h.reports }

/-- A dispatcher that waits is given tasks. -/
theorem await (h : l.Accounts s d report) (hempty : d.queue = []) (shutdown : Nat) :
    let d' := d.await shutdown d.arrivals
    (l.queued (d'.queue.map Delivery.task)).Accounts s d' report := by
  obtain ⟨tasks, hqueues, hstarted⟩ := Dispatcher.await_spec shutdown d.arrivals d
  intro d'
  have htasks : d'.queue.map Delivery.task = tasks := by
    rw [hqueues.queue, hempty, List.nil_append, map_task_firstDeliveries]
  rw [htasks]
  exact h.queued hqueues hstarted

/-- **A drain keeps the accounts**, by one batch after another. -/
theorem drainFrom (handler : Handler σ τ) (rounds : Nat) {p : Dispatcher σ × Report}
    (h : l.Accounts s p.1 p.2) :
    (l.drainFrom handler rounds p).Accounts s (Dispatcher.drainFrom handler rounds p).1
      (Dispatcher.drainFrom handler rounds p).2 := by
  induction rounds generalizing l p with
  | zero => exact h
  | succ rounds ih =>
    unfold Ledger.drainFrom Dispatcher.drainFrom
    split
    · exact h
    · exact ih (h.batch handler)

/-- **A run keeps the accounts**, by batches and waits. -/
theorem runFrom (handler : Handler σ τ) (shutdown : Nat) (stopFirst : Nat → Bool) (rounds : Nat)
    {p : Dispatcher σ × Report} (h : l.Accounts s p.1 p.2) :
    (l.runFrom handler shutdown stopFirst rounds p).Accounts s
      (Dispatcher.runFrom handler shutdown stopFirst rounds p).1
      (Dispatcher.runFrom handler shutdown stopFirst rounds p).2 := by
  induction rounds generalizing l p with
  | zero => exact h
  | succ rounds ih =>
    obtain ⟨d, report⟩ := p
    unfold Ledger.runFrom Dispatcher.runFrom
    split
    · rename_i hempty
      split
      · exact h
      · exact ih (h.await hempty shutdown)
    · split
      · exact h
      · exact ih (h.batch handler)

end Accounts

end Ledger

/-! ## Runs of calls -/

/-- A call of a dispatcher. A drain and a run may use any handler. -/
inductive DispatcherCall (σ : Type) : Type 1 where
  | enqueue (t : Task)
  | drain {τ : Type} (h : Handler σ τ) (rounds : Nat)
  | run {τ : Type} (h : Handler σ τ) (shutdown : Nat) (stopFirst : Nat → Bool) (rounds : Nat)

namespace DispatcherCall

/-- Makes a call and notes it. -/
def perform (p : Dispatcher σ × Ledger) : DispatcherCall σ → Dispatcher σ × Ledger
  | enqueue t => (p.1.enqueue t, p.2.queued [t])
  | drain h rounds =>
    let (d, report) := p.1.drain h rounds
    (d, (p.2.drainFrom h rounds (p.1, {})).ended report)
  | run h shutdown stopFirst rounds =>
    let (d, report) := p.1.run h shutdown stopFirst rounds
    (d, (p.2.runFrom h shutdown stopFirst rounds (p.1, {})).ended report)

theorem accounts_perform {s : DispatcherSettings} {p : Dispatcher σ × Ledger}
    (h : p.2.Accounts s p.1 {}) (call : DispatcherCall σ) :
    (call.perform p).2.Accounts s (call.perform p).1 {} := by
  cases call with
  | enqueue t => exact h.queued ⟨rfl, rfl, rfl⟩ rfl
  | drain handler rounds => exact (h.drainFrom (p := (p.1, {})) handler rounds).ended
  | run handler shutdown stopFirst rounds =>
    exact (h.runFrom (p := (p.1, {})) handler shutdown stopFirst rounds).ended

theorem accounts_foldl {s : DispatcherSettings} {p : Dispatcher σ × Ledger}
    (h : p.2.Accounts s p.1 {}) (calls : List (DispatcherCall σ)) :
    (calls.foldl perform p).2.Accounts s (calls.foldl perform p).1 {} := by
  induction calls generalizing p with
  | nil => exact h
  | cons call calls ih => exact ih (accounts_perform h call)

end DispatcherCall

namespace Dispatcher

variable {h : Handler σ τ} {rounds : Nat}

/-- A drain of one more round carries out one more batch if anything is queued. -/
theorem drainFrom_succ (p : Dispatcher σ × Report) :
    drainFrom h (rounds + 1) p =
      if (drainFrom h rounds p).1.queue = [] then drainFrom h rounds p
      else batch h (drainFrom h rounds p) := by
  induction rounds generalizing p with
  | zero => rfl
  | succ rounds ih =>
    by_cases hempty : p.1.queue = []
    · have hstays (n : Nat) : drainFrom h (n + 1) p = p := if_pos hempty
      rw [hstays, hstays, if_pos hempty]
    · have hgoes (n : Nat) : drainFrom h (n + 1) p = drainFrom h n (batch h p) := if_neg hempty
      rw [hgoes, hgoes, ih]

/-- **A drain has returned, so that further rounds do nothing, just if it has emptied the queue.** -/
theorem drain_returned_iff (d : Dispatcher σ) :
    (∀ more, d.drain h (rounds + more) = d.drain h rounds) ↔ (d.drain h rounds).1.queue = [] := by
  constructor
  · intro hreturned
    by_contra hqueue
    have hbatch : batch h (d.drain h rounds) = d.drain h rounds := by
      have hnext : d.drain h (rounds + 1) = batch h (d.drain h rounds) :=
        (drainFrom_succ (d, {})).trans (if_neg hqueue)
      exact hnext.symm.trans (hreturned 1)
    -- one more batch would start the handlers of what is queued
    obtain ⟨started, -, hstarted, hperm, -⟩ :=
      batch_spec h (d.drain h rounds).1 (d.drain h rounds).2
    rw [hbatch] at hstarted
    have hnone : started = [] := List.append_right_eq_self.1 hstarted.symm
    rw [hnone] at hperm
    exact hqueue (List.nil_perm.1 hperm)
  · intro hempty more
    induction more with
    | zero => rfl
    | succ more ih =>
      rw [drain, ← Nat.add_assoc, drainFrom_succ]
      unfold drain at ih hempty
      rw [ih, if_pos hempty, drain]

end Dispatcher

end FleetReconciler
