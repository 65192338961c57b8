import FleetReconciler.Proofs.BatchClock
import FleetReconciler.Proofs.DeliveryLedger
import Mathlib.Data.List.Nodup

/-!
# The discipline of drains and runs

Drains and runs carry out one batch after another, so the history of a dispatcher is that of its
rounds. Within a round the deliveries are taken in the order of the queue as there is room. What is
queued meanwhile is carried out in a later round, after all of this one has ended: it has not been
started before, since its ticket is new or its attempt is.

* `Round`, `DispatcherCall.allRounds` — the rounds of a run of calls;
* `Ledger.Accounts.not_started`, `nodup_started` — a queued delivery is yet to be started;
* `Chronicle` — what is so of the history between two batches; `Chronicle.batch` is the step;
* `deliveries_are_disciplined` — **how many deliveries are under way at a time, and what comes before
  what.**
-/

namespace FleetReconciler

variable {σ τ : Type}

/-! ## Rounds -/

/-- What is noted of a batch: the queue that it carried out, what happened meanwhile, and what was
queued meanwhile. -/
structure Round where
  carried : List Delivery
  marks : List Mark
  queued : List Delivery

namespace Dispatcher

/-- The round that a batch makes. -/
def round (h : Handler σ τ) (p : Dispatcher σ × Report) : Round where
  carried := p.1.queue
  marks := (batch h p).1.marks.drop p.1.marks.length
  queued := (batch h p).1.queue

/-- The rounds of a drain. -/
def drainRounds (h : Handler σ τ) : Nat → Dispatcher σ × Report → List Round
  | 0, _ => []
  | rounds + 1, p => if p.1.queue = [] then [] else round h p :: drainRounds h rounds (batch h p)

/-- The rounds of a run. -/
def runRounds (h : Handler σ τ) (shutdown : Nat) (stopFirst : Nat → Bool) :
    Nat → Dispatcher σ × Report → List Round
  | 0, _ => []
  | rounds + 1, (d, report) =>
    if d.queue = [] then
      if shutdown ≤ d.now then []
      else runRounds h shutdown stopFirst rounds (d.await shutdown d.arrivals, report)
    else if shutdown ≤ d.now ∧ stopFirst rounds then []
    else round h (d, report) :: runRounds h shutdown stopFirst rounds (batch h (d, report))

end Dispatcher

namespace DispatcherCall

/-- The rounds of a call. -/
def rounds (d : Dispatcher σ) : DispatcherCall σ → List Round
  | enqueue _ => []
  | drain h rounds => Dispatcher.drainRounds h rounds (d, {})
  | run h shutdown stopFirst rounds => Dispatcher.runRounds h shutdown stopFirst rounds (d, {})

/-- The rounds of all calls. -/
def allRounds : List (DispatcherCall σ) → Dispatcher σ × Ledger → List Round
  | [], _ => []
  | call :: calls, p => call.rounds p.1 ++ allRounds calls (call.perform p)

end DispatcherCall

/-! ## What is yet to be started -/

/-- Attempts that are allowed have different numbers. -/
theorem DispatcherSettings.eq_of_ofNat_eq (s : DispatcherSettings) {m n : Nat} (hm : m < s.mostRuns)
    (hn : n < s.mostRuns) (h : UInt32.ofNat (m + 1) = UInt32.ofNat (n + 1)) : m = n := by
  have hmost : s.mostRuns < 2 ^ 32 := by
    have hmax := s.maxAttempts.toNat_lt
    unfold DispatcherSettings.mostRuns
    omega
  have hm' : m + 1 < 2 ^ 32 := by omega
  have hn' : n + 1 < 2 ^ 32 := by omega
  have hnat := congrArg UInt32.toNat h
  rw [UInt32.toNat_ofNat_of_lt' hm', UInt32.toNat_ofNat_of_lt' hn'] at hnat
  exact Nat.succ.inj hnat

/-- A task is delivered once for each attempt that is allowed. -/
theorem nodup_attempts (s : DispatcherSettings) (ticket : Nat) (task : Task)
    {outcomes : List (Option Failure)} (h : outcomes.length ≤ s.mostRuns) :
    ((attempts ticket task outcomes).map Prod.fst).Nodup := by
  have hrange : (attempts ticket task outcomes).map Prod.fst =
      (List.range outcomes.length).map fun n => (⟨ticket, task, .ofNat (n + 1)⟩ : Delivery) := by
    rw [attempts, List.map_map, List.range_eq_range', ← List.zipIdx_map_snd, List.map_map]
    rfl
  rw [hrange]
  refine (List.nodup_range).map_on fun m hm n hn heq => ?_
  have hattempt := congrArg Delivery.attempt heq
  exact s.eq_of_ofNat_eq (Nat.lt_of_lt_of_le (List.mem_range.1 hm) h)
    (Nat.lt_of_lt_of_le (List.mem_range.1 hn) h) hattempt

namespace Ledger.Accounts

variable {s : DispatcherSettings} {l : Ledger} {d : Dispatcher σ} {report : Report}

theorem exists_task (h : l.Accounts s d report) {ticket : Nat} (hlt : ticket < d.ticket) :
    ∃ task, l.tasks[ticket]? = some task := by
  rw [← h.tasks] at hlt
  exact ⟨_, List.getElem?_eq_getElem hlt⟩

/-- **A queued delivery has not been started.** -/
theorem not_started (h : l.Accounts s d report) {x : Delivery} (hx : x ∈ d.queue) :
    x ∉ d.started := by
  intro hstarted
  obtain ⟨task, htask⟩ := h.exists_task (h.queue x hx)
  obtain ⟨outcomes, hlife⟩ := h.lives x.ticket task htask
  have hqueued : x ∈ d.queue.filter (·.ticket = x.ticket) :=
    List.mem_filter.2 ⟨hx, decide_eq_true rfl⟩
  rw [hlife.queue] at hqueued
  split at hqueued
  · rename_i hpending
    have hnext := List.mem_singleton.1 hqueued
    have hran : x ∈ d.started.filter (·.ticket = x.ticket) :=
      List.mem_filter.2 ⟨hstarted, decide_eq_true rfl⟩
    rw [hlife.started] at hran
    obtain ⟨y, hy, hyx⟩ := List.mem_map.1 hran
    obtain ⟨n, outcome, houtcome, rfl⟩ := mem_attempts.1 hy
    obtain ⟨hn, -⟩ := List.getElem?_eq_some_iff.1 houtcome
    -- the attempt that is queued is a later one than all that were started
    have hsame := s.eq_of_ofNat_eq (Nat.lt_of_lt_of_le hn hlife.most) hpending.2
      (congrArg Delivery.attempt (hyx.trans hnext))
    omega
  · exact absurd hqueued List.not_mem_nil

/-- **A delivery is started once.** -/
theorem nodup_started (h : l.Accounts s d report) : d.started.Nodup := by
  rw [List.nodup_iff_count_le_one]
  intro x
  by_cases hx : x ∈ d.started
  · obtain ⟨task, htask⟩ := h.exists_task (h.started x hx)
    obtain ⟨outcomes, hlife⟩ := h.lives x.ticket task htask
    have hnodup := nodup_attempts s x.ticket task hlife.most
    rw [← hlife.started] at hnodup
    have hcount : (d.started.filter (·.ticket = x.ticket)).count x = d.started.count x :=
      List.count_filter (decide_eq_true rfl)
    rw [← hcount]
    exact List.nodup_iff_count_le_one.1 hnodup x
  · rw [List.count_eq_zero.2 hx]
    exact Nat.zero_le _

end Ledger.Accounts

/-! ## Histories of rounds -/

/-- Each delivery that a round carries out is taken, in the order of the queue, is started and
ends. -/
structure Round.Complete (r : Round) : Prop where
  taken : r.marks.filterMap Mark.taken? = r.carried
  started : (r.marks.filterMap Mark.started?).Perm r.carried
  ended : (r.marks.filterMap Mark.ended?).Perm r.carried

/-- What was queued during a round starts after all that the round carries out has ended. -/
def Round.Bars (r : Round) (marks : List Mark) : Prop :=
  ∀ x ∈ r.queued, ∀ history b later, marks = history ++ .started b x :: later →
    ∀ y ∈ r.carried, ∃ a, .ended a y ∈ history

/-- What is so of the history of a dispatcher between two batches. -/
structure Chronicle (s : DispatcherSettings) (rounds : List Round) (d : Dispatcher σ) : Prop where
  clock : ∀ m ∈ d.marks, m.time ≤ d.now
  timely : Timely s d.marks
  marks : d.marks = rounds.flatMap Round.marks
  complete : ∀ r ∈ rounds, r.Complete
  queue : ∀ x ∈ d.queue, x.Follows d.marks
  bars : ∀ r ∈ rounds, r.Bars d.marks

/-- A mark of a longer history is one of the history, or comes after it. -/
theorem mark_of_append {marks more history later : List Mark} {m : Mark}
    (h : marks ++ more = history ++ m :: later) :
    (∃ between, marks = history ++ m :: between) ∨ ∃ between, history = marks ++ between := by
  obtain ⟨between, hhistory, -⟩ | ⟨rest, hmarks, hrest⟩ := List.append_eq_append_iff.1 h
  · exact .inr ⟨between, hhistory⟩
  · cases rest with
    | nil => exact .inr ⟨[], by rw [hmarks, List.append_nil, List.append_nil]⟩
    | cons m' rest =>
      obtain ⟨rfl, -⟩ := List.cons.inj hrest
      exact .inl ⟨rest, hmarks⟩

namespace Round

variable {r : Round} {marks : List Mark}

/-- What has not been started at all is not started too early. -/
theorem bars_of_not_started (h : ∀ x ∈ r.queued, x ∉ marks.filterMap Mark.started?) :
    r.Bars marks := by
  intro x hx history b later heq
  have hstart : .started b x ∈ marks := by
    rw [heq]
    exact List.mem_append_right _ List.mem_cons_self
  exact absurd (Mark.mem_filterMap_started?.2 ⟨b, hstart⟩) (h x hx)

/-- What starts later starts after all of a complete round of the history. -/
theorem Bars.append (h : r.Bars marks) (hcomplete : r.Complete) (hpast : ∀ m ∈ r.marks, m ∈ marks)
    (more : List Mark) : r.Bars (marks ++ more) := by
  intro x hx history b later heq y hy
  rcases mark_of_append heq with ⟨between, hbetween⟩ | ⟨between, rfl⟩
  · exact h x hx history b between hbetween y hy
  · obtain ⟨a, ha⟩ := Mark.mem_filterMap_ended?.1 (hcomplete.ended.mem_iff.2 hy)
    exact ⟨a, List.mem_append_left _ (hpast _ ha)⟩

end Round

/-- What a batch adds to a history is a complete round. -/
theorem Dispatcher.batch_clocked (h : Handler σ τ) {d : Dispatcher σ} (report : Report)
    (hclock : ∀ m ∈ d.marks, m.time ≤ d.now) (htimely : Timely d.settings d.marks)
    (hdone : ∀ x ∈ d.marks.filterMap Mark.taken?, x ∈ d.marks.filterMap Mark.ended?)
    (hpast : ∀ x ∈ d.queue, x.Follows d.marks) :
    let d' := (batch h (d, report)).1
    (∀ m ∈ d'.marks, m.time ≤ d'.now) ∧ Timely d.settings d'.marks ∧
      d'.marks = d.marks ++ (round h (d, report)).marks ∧ (round h (d, report)).Complete := by
  obtain ⟨hclock', htimely', ms, hmarks, htaken, hstarted, hended⟩ :=
    Batch.execute_clocked (d := { d with queue := [] }) h hclock htimely hdone hpast
  obtain ⟨hnow, hsame, -⟩ := settle_rest h
    ((Batch.execute h { d with queue := [] } d.queue).1, report)
    (Batch.execute h { d with queue := [] } d.queue).2
  intro d'
  replace hnow : d'.now = (Batch.execute h { d with queue := [] } d.queue).1.now := hnow
  replace hsame : d'.marks = (Batch.execute h { d with queue := [] } d.queue).1.marks := hsame
  have hround : (round h (d, report)).marks = ms := by
    have hall : d'.marks = d.marks ++ ms := hsame.trans hmarks
    rw [round, show (batch h (d, report)).1.marks = d.marks ++ ms from hall]
    exact List.drop_left
  rw [hsame, hnow, hround]
  refine ⟨hclock', htimely', hmarks, ?_, ?_, ?_⟩ <;> rw [hround]
  · exact htaken
  · exact hstarted
  · exact hended

namespace Chronicle

variable {s : DispatcherSettings} {rounds : List Round} {d d' : Dispatcher σ} {report : Report}

theorem fresh (s : DispatcherSettings) (now : Nat) (arrivals : List (Arrival σ)) (state : σ) :
    Chronicle s [] ({ settings := s, now, arrivals, state } : Dispatcher σ) where
  clock _ hm := absurd hm List.not_mem_nil
  timely := .nil
  marks := rfl
  complete _ hr := absurd hr List.not_mem_nil
  queue _ hx := absurd hx List.not_mem_nil
  bars _ hr := absurd hr List.not_mem_nil

/-- The deliveries that were taken, those that were started and those that have ended are those of
the rounds. -/
theorem carried (h : Chronicle s rounds d) :
    d.marks.filterMap Mark.taken? = rounds.flatMap Round.carried ∧
      (d.marks.filterMap Mark.started?).Perm (rounds.flatMap Round.carried) ∧
      (d.marks.filterMap Mark.ended?).Perm (rounds.flatMap Round.carried) := by
  rw [h.marks, List.filterMap_flatMap, List.filterMap_flatMap, List.filterMap_flatMap]
  refine ⟨?_, ?_, ?_⟩
  · exact List.flatMap_congr fun r hr => (h.complete r hr).taken
  · exact List.Perm.flatMap_left _ fun r hr => (h.complete r hr).started
  · exact List.Perm.flatMap_left _ fun r hr => (h.complete r hr).ended

/-- Tasks are queued between two batches. -/
theorem queued (h : Chronicle s rounds d) {tasks : List Task} (hqueues : d.Queues tasks d')
    (hmarks : d'.marks = d.marks) (hnow : d.now ≤ d'.now) : Chronicle s rounds d' where
  clock m hm := Nat.le_trans (h.clock m (hmarks ▸ hm)) hnow
  timely := hmarks ▸ h.timely
  marks := hmarks.trans h.marks
  complete := h.complete
  queue x hx := by
    rw [hqueues.queue, List.mem_append] at hx
    rw [hmarks]
    rcases hx with hx | hx
    · exact h.queue x hx
    · exact fun hattempt => absurd (attempt_of_mem_firstDeliveries hx) hattempt
  bars r hr := hmarks ▸ h.bars r hr

/-- **A batch adds a round.** -/
theorem batch {l : Ledger} (h : Chronicle s rounds d) (haccounts : l.Accounts s d report)
    (handler : Handler σ τ) :
    Chronicle s (rounds ++ [Dispatcher.round handler (d, report)])
      (Dispatcher.batch handler (d, report)).1 := by
  have hsettings := haccounts.settings
  subst hsettings
  obtain ⟨htaken, -, hended⟩ := h.carried
  obtain ⟨hclock, htimely, hmarks, hcomplete⟩ := Dispatcher.batch_clocked handler report h.clock
    h.timely (fun x hx => hended.mem_iff.2 (htaken ▸ hx)) h.queue
  obtain ⟨-, tasks, -, -, hresults, -, hqueue, -⟩ := Dispatcher.batch_spec handler d report
  refine ⟨hclock, htimely, ?_, ?_, fun x hx hattempt => ?_, ?_⟩
  · rw [List.flatMap_append, ← h.marks, List.flatMap_singleton, hmarks]
  · exact List.forall_mem_append.2 ⟨h.complete, List.forall_mem_singleton.2 hcomplete⟩
  · rw [hqueue, List.mem_append] at hx
    rcases hx with hx | hx
    · exact absurd (attempt_of_mem_firstDeliveries hx) hattempt
    · -- a redelivery repeats a delivery of this batch, which has ended
      obtain ⟨y, hy, hyx⟩ := List.mem_filterMap.1 hx
      have hmem : y.1 ∈ d.queue := hresults.subset (List.mem_map_of_mem hy)
      obtain ⟨a, ha⟩ := Mark.mem_filterMap_ended?.1 (hcomplete.ended.mem_iff.2 hmem)
      exact ⟨a, y.1, (eq_next_of_redelivery? hyx).symm, hmarks ▸ List.mem_append_right _ ha⟩
  · rw [List.forall_mem_append, List.forall_mem_singleton]
    refine ⟨fun r hr => ?_, Round.bars_of_not_started fun x => (haccounts.batch handler).not_started⟩
    have hpast : ∀ m ∈ r.marks, m ∈ d.marks := by
      intro m hm
      rw [h.marks]
      exact List.mem_flatMap.2 ⟨r, hr, hm⟩
    rw [hmarks]
    exact (h.bars r hr).append (h.complete r hr) hpast _

/-- **A drain adds its rounds.** -/
theorem drainFrom (handler : Handler σ τ) (n : Nat) {l : Ledger} {p : Dispatcher σ × Report}
    (h : Chronicle s rounds p.1) (haccounts : l.Accounts s p.1 p.2) :
    Chronicle s (rounds ++ Dispatcher.drainRounds handler n p)
      (Dispatcher.drainFrom handler n p).1 := by
  induction n generalizing rounds l p with
  | zero => exact (List.append_nil rounds).symm ▸ h
  | succ n ih =>
    unfold Dispatcher.drainRounds Dispatcher.drainFrom
    split
    · exact (List.append_nil rounds).symm ▸ h
    · rw [List.append_cons]
      exact ih (h.batch haccounts handler) (haccounts.batch handler)

/-- **A run adds its rounds.** -/
theorem runFrom (handler : Handler σ τ) (shutdown : Nat) (stopFirst : Nat → Bool) (n : Nat)
    {l : Ledger} {p : Dispatcher σ × Report} (h : Chronicle s rounds p.1)
    (haccounts : l.Accounts s p.1 p.2) :
    Chronicle s (rounds ++ Dispatcher.runRounds handler shutdown stopFirst n p)
      (Dispatcher.runFrom handler shutdown stopFirst n p).1 := by
  induction n generalizing rounds l p with
  | zero => exact (List.append_nil rounds).symm ▸ h
  | succ n ih =>
    obtain ⟨d, report⟩ := p
    unfold Dispatcher.runRounds Dispatcher.runFrom
    split
    · rename_i hempty
      split
      · exact (List.append_nil rounds).symm ▸ h
      · obtain ⟨hmarks, hnow⟩ := Dispatcher.await_rest shutdown d.arrivals d
        obtain ⟨tasks, hqueues, -⟩ := Dispatcher.await_spec shutdown d.arrivals d
        exact ih (h.queued hqueues hmarks hnow) (haccounts.await hempty shutdown)
    · split
      · exact (List.append_nil rounds).symm ▸ h
      · rw [List.append_cons]
        exact ih (h.batch haccounts handler) (haccounts.batch handler)

theorem perform {p : Dispatcher σ × Ledger} (h : Chronicle s rounds p.1)
    (haccounts : p.2.Accounts s p.1 {}) (call : DispatcherCall σ) :
    Chronicle s (rounds ++ call.rounds p.1) (call.perform p).1 := by
  cases call with
  | enqueue t =>
    have hqueues : p.1.Queues [t] (p.1.enqueue t) := ⟨rfl, rfl, rfl⟩
    exact (List.append_nil rounds).symm ▸ h.queued hqueues rfl (Nat.le_refl _)
  | drain handler n => exact h.drainFrom (p := (p.1, {})) handler n haccounts
  | run handler shutdown stopFirst n =>
    exact h.runFrom (p := (p.1, {})) handler shutdown stopFirst n haccounts

theorem foldl (calls : List (DispatcherCall σ)) {p : Dispatcher σ × Ledger}
    (h : Chronicle s rounds p.1) (haccounts : p.2.Accounts s p.1 {}) :
    Chronicle s (rounds ++ DispatcherCall.allRounds calls p)
      (calls.foldl DispatcherCall.perform p).1 := by
  induction calls generalizing rounds p with
  | nil => exact (List.append_nil rounds).symm ▸ h
  | cons call calls ih =>
    have hrest := ih (h.perform haccounts call) (DispatcherCall.accounts_perform haccounts call)
    rw [List.append_assoc] at hrest
    exact hrest

end Chronicle

/-! ## The discipline -/

/-- If the values of a list differ, then each is the value of one element. -/
theorem eq_of_nodup_filterMap {α β : Type} {f : α → Option β} {l : List α}
    (h : (l.filterMap f).Nodup) {a b : α} (ha : a ∈ l) (hb : b ∈ l) {c : β} (hfa : f a = some c)
    (hfb : f b = some c) : a = b := by
  induction l with
  | nil => cases ha
  | cons x l ih =>
    have hother : ∀ y ∈ l, f y = some c → f x ≠ some c := by
      intro y hy hfy hfx
      rw [List.filterMap_cons_some hfx, List.nodup_cons] at h
      exact h.1 (List.mem_filterMap.2 ⟨y, hy, hfy⟩)
    have hrest : (l.filterMap f).Nodup := h.sublist ((List.sublist_cons_self x l).filterMap f)
    rcases List.mem_cons.1 ha with hax | hal <;> rcases List.mem_cons.1 hb with hbx | hbl
    · exact hax.trans hbx.symm
    · exact absurd (hax ▸ hfa) (hother b hbl hfb)
    · exact absurd (hbx ▸ hfb) (hother a hal hfa)
    · exact ih hrest hal hbl

/-- **Drains and runs keep their discipline**, whatever the handlers do and whatever arrives, and
whenever a run is shut down. After any beginning of the history no more deliveries are taken and not
finished than the settings allow. The history is that of the rounds: each takes the deliveries of the
queue in their order, starts each and ends each, and no delivery twice. What is queued during a round
starts after all that the round carries out has ended. A first attempt starts when it is taken; a
further attempt starts no earlier than its retry delay after the end of the attempt before it. -/
theorem deliveries_are_disciplined (settings : DispatcherSettings) (now : Nat)
    (arrivals : List (Arrival σ)) (state : σ) (calls : List (DispatcherCall σ)) :
    let start := (({ settings, now, arrivals, state } : Dispatcher σ), ({} : Ledger))
    let marks := (calls.foldl DispatcherCall.perform start).1.marks
    let rounds := DispatcherCall.allRounds calls start
    (∀ history later, marks = history ++ later →
      (unfinished history).length ≤ max 1 settings.concurrency.toNat) ∧
    (marks = rounds.flatMap Round.marks ∧ marks.Pairwise fun m m' => m.time ≤ m'.time) ∧
    (∀ r ∈ rounds, r.marks.filterMap Mark.taken? = r.carried ∧
      (r.marks.filterMap Mark.started?).Perm r.carried ∧
      (r.marks.filterMap Mark.ended?).Perm r.carried) ∧
    ((marks.filterMap Mark.taken?).Nodup ∧ (marks.filterMap Mark.started?).Nodup ∧
      (marks.filterMap Mark.ended?).Nodup) ∧
    (∀ r ∈ rounds, ∀ x ∈ r.queued, ∀ history b later, marks = history ++ .started b x :: later →
      ∀ y ∈ r.carried, ∃ a ≤ b, .ended a y ∈ history) ∧
    (∀ a x, .taken a x ∈ marks → x.attempt = 1 → .started a x ∈ marks) ∧
    ∀ history b x later, marks = history ++ .started b x :: later → x.attempt ≠ 1 →
      ∃ a y, y.next = x ∧ .ended a y ∈ history ∧ a + (settings.delayBefore x.attempt).toNat ≤ b := by
  intro start marks rounds
  have hfresh : start.2.Accounts settings start.1 {} := .fresh settings now arrivals state
  have haccounts := DispatcherCall.accounts_foldl hfresh calls
  have hchronicle : Chronicle settings rounds (calls.foldl DispatcherCall.perform start).1 :=
    (Chronicle.fresh settings now arrivals state).foldl calls hfresh
  have htimely : Timely settings marks := hchronicle.timely
  obtain ⟨htaken, hstarted, hended⟩ := hchronicle.carried
  have hnodup : (marks.filterMap Mark.started?).Nodup := haccounts.nodup_started
  have hnodupTaken : (marks.filterMap Mark.taken?).Nodup := by
    rw [htaken]
    exact hstarted.nodup_iff.1 hnodup
  refine ⟨fun history later heq => ?_, ⟨hchronicle.marks, htimely.pairwise_time⟩, fun r hr => ?_,
    ⟨hnodupTaken, hnodup, hended.nodup_iff.2 (hstarted.nodup_iff.1 hnodup)⟩,
    fun r hr x hx history b later heq y hy => ?_, fun a x ha hfirst => ?_,
    fun history b x later heq hattempt => ?_⟩
  · have hwidth : settings.width = max 1 settings.concurrency.toNat := Nat.max_comm _ _
    rw [heq] at htimely
    rw [← hwidth]
    exact htimely.of_append.length_unfinished_le
  · obtain ⟨hround, hround', hround''⟩ := hchronicle.complete r hr
    exact ⟨hround, hround', hround''⟩
  · obtain ⟨a, ha⟩ := hchronicle.bars r hr x hx history b later heq y hy
    rw [heq] at htimely
    exact ⟨a, htimely.at_mark.1 _ ha, ha⟩
  · have hmem : x ∈ marks.filterMap Mark.started? := by
      rw [hstarted.mem_iff, ← htaken]
      exact Mark.mem_filterMap_taken?.2 ⟨a, ha⟩
    obtain ⟨b, hb⟩ := Mark.mem_filterMap_started?.1 hmem
    obtain ⟨history, later, heq⟩ := List.append_of_mem hb
    have hfollows : (Mark.started b x).Follows settings history := (heq ▸ htimely).at_mark.2
    obtain ⟨a', ha', -, hprompt⟩ := hfollows
    have hnone : (settings.delayBefore x.attempt).toNat = 0 := by
      rw [hfirst]
      rfl
    have hsame : Mark.taken a x = .taken a' x :=
      eq_of_nodup_filterMap hnodupTaken ha (heq ▸ List.mem_append_left _ ha') rfl rfl
    rw [← hprompt hnone, ← (Mark.taken.inj hsame).1] at hb
    exact hb
  · rw [heq] at htimely
    obtain ⟨a, ha, hpassed, -⟩ := htimely.at_mark.2
    obtain ⟨earlier, between, rfl⟩ := List.append_of_mem ha
    obtain ⟨hbefore, -, hpast⟩ := htimely.of_append.at_mark
    obtain ⟨c, y, hy, hc⟩ := hpast hattempt
    have hle : c ≤ a := hbefore _ hc
    refine ⟨c, y, hy, List.mem_append_left _ hc, ?_⟩
    omega

/-- A task whose first run fails is taken again when its batch has ended, and waits the retry
delay. -/
example :
    let key : ManagerKey := ⟨⟨⟨⟨"base", by decide⟩⟩, ⟨"r1", by decide⟩⟩, ⟨"zone", by decide⟩⟩
    let failsOnce : Handler Nat Unit :=
      { start := fun _ n => ((100, ()), n)
        finish := fun _ n => ({ failure := if n = 0 then some (.of .malformed) else none }, n + 1)
        note := fun _ n => n }
    let d : Dispatcher Nat := { settings := { retryDelay := 1000 }, state := 0 }
    ((d.enqueue (.fetchInstances key)).drain failsOnce 2).1.marks.map Mark.time =
      [0, 0, 100, 100, 1100, 1200] := by
  decide

end FleetReconciler
