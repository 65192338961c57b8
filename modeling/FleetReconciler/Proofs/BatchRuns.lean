import FleetReconciler.Dispatcher.Queue
import Mathlib.Data.List.Perm.Basic

/-!
# What becomes of the deliveries of a batch

A batch is finished when it makes no further step, and by then each of its deliveries has been
started once and has one result. What is queued meanwhile gets tickets of its own.

* `Dispatcher.Queues` — a dispatcher has queued tasks and nothing else;
* `Batch.step_cases` — what one step of a batch does;
* `Batch.weight_step` — a step brings the end nearer;
* `Batch.Moves`, `Batch.Kept.execute` — the moves of which steps are made, and what all of them keep;
* `Batch.Carries` — what a batch keeps of its deliveries while it is carried out;
* `Batch.execute_spec` — **each delivery is started once and has one result.**
-/

namespace FleetReconciler

@[simp] theorem total_nil {α : Type} (measure : α → Nat) : total measure [] = 0 := rfl

@[simp] theorem total_cons {α : Type} (measure : α → Nat) (a : α) (l : List α) :
    total measure (a :: l) = measure a + total measure l := rfl

@[simp] theorem total_append {α : Type} (measure : α → Nat) (l m : List α) :
    total measure (l ++ m) = total measure l + total measure m := by
  induction l with
  | nil => simp
  | cons a l ih => simp [ih, Nat.add_assoc]

/-- A total does not depend on the order. -/
theorem total_perm {α : Type} (measure : α → Nat) {l m : List α} (h : l.Perm m) :
    total measure l = total measure m := by
  induction h with
  | nil => rfl
  | cons a _ ih => rw [total_cons, total_cons, ih]
  | swap a b l => simp only [total_cons, Nat.add_left_comm]
  | trans _ _ ih ih' => exact ih.trans ih'

/-! ## Queueing -/

/-- The first deliveries of tasks that get consecutive tickets. -/
def firstDeliveries (ticket : Nat) : List Task → List Delivery
  | [] => []
  | t :: tasks => ⟨ticket, t, 1⟩ :: firstDeliveries (ticket + 1) tasks

@[simp] theorem firstDeliveries_append (ticket : Nat) (tasks more : List Task) :
    firstDeliveries ticket (tasks ++ more) =
      firstDeliveries ticket tasks ++ firstDeliveries (ticket + tasks.length) more := by
  induction tasks generalizing ticket with
  | nil => rfl
  | cons t tasks ih => simp [firstDeliveries, ih, Nat.add_right_comm, Nat.add_assoc]

@[simp] theorem map_task_firstDeliveries (ticket : Nat) (tasks : List Task) :
    (firstDeliveries ticket tasks).map Delivery.task = tasks := by
  induction tasks generalizing ticket with
  | nil => rfl
  | cons t tasks ih => simp [firstDeliveries, ih]

@[simp] theorem length_firstDeliveries (ticket : Nat) (tasks : List Task) :
    (firstDeliveries ticket tasks).length = tasks.length := by
  rw [← List.length_map Delivery.task, map_task_firstDeliveries]

theorem ticket_of_mem_firstDeliveries {ticket : Nat} {tasks : List Task} {x : Delivery}
    (h : x ∈ firstDeliveries ticket tasks) : x.ticket < ticket + tasks.length := by
  induction tasks generalizing ticket with
  | nil => cases h
  | cons t tasks ih =>
    rw [List.length_cons]
    rcases List.mem_cons.1 h with rfl | h
    · exact Nat.lt_add_of_pos_right (Nat.succ_pos _)
    · have hlt := ih h
      omega

theorem attempt_of_mem_firstDeliveries {ticket : Nat} {tasks : List Task} {x : Delivery}
    (h : x ∈ firstDeliveries ticket tasks) : x.attempt = 1 := by
  induction tasks generalizing ticket with
  | nil => cases h
  | cons t tasks ih =>
    rcases List.mem_cons.1 h with rfl | h
    · rfl
    · exact ih h

/-- The delivery whose handler has been started. -/
def Mark.started? : Mark → Option Delivery
  | .started _ x => some x
  | _ => none

namespace Dispatcher

variable {σ : Type}

/-- The deliveries whose handlers have been started so far, in order. -/
def started (d : Dispatcher σ) : List Delivery := d.marks.filterMap Mark.started?

@[simp] theorem queue_mark (d : Dispatcher σ) (m : Mark) : (d.mark m).queue = d.queue := rfl
@[simp] theorem ticket_mark (d : Dispatcher σ) (m : Mark) : (d.mark m).ticket = d.ticket := rfl
@[simp] theorem settings_mark (d : Dispatcher σ) (m : Mark) :
    (d.mark m).settings = d.settings := rfl
@[simp] theorem arrivals_mark (d : Dispatcher σ) (m : Mark) :
    (d.mark m).arrivals = d.arrivals := rfl

@[simp] theorem started_mark (d : Dispatcher σ) (m : Mark) :
    (d.mark m).started = d.started ++ (m.started?).toList := by
  cases h : m.started? <;> simp [started, mark, h]

theorem enqueueAll_eq (d : Dispatcher σ) (tasks : List Task) :
    d.enqueueAll tasks = { d with
      queue := d.queue ++ firstDeliveries d.ticket tasks
      ticket := d.ticket + tasks.length } := by
  induction tasks generalizing d with
  | nil => simp [enqueueAll, firstDeliveries]
  | cons t tasks ih =>
    have hrest := ih (d.enqueue t)
    unfold enqueueAll at hrest ⊢
    rw [List.foldl_cons, hrest]
    simp [enqueue, firstDeliveries, Nat.add_assoc, Nat.add_comm 1]

/-- From `d` to `d'` tasks were queued, and neither the settings nor the rest of the queue have
changed. -/
structure Queues (d : Dispatcher σ) (tasks : List Task) (d' : Dispatcher σ) : Prop where
  queue : d'.queue = d.queue ++ firstDeliveries d.ticket tasks
  ticket : d'.ticket = d.ticket + tasks.length
  settings : d'.settings = d.settings

theorem Queues.refl (d : Dispatcher σ) : d.Queues [] d := ⟨by simp [firstDeliveries], rfl, rfl⟩

theorem Queues.trans {d d' d'' : Dispatcher σ} {tasks more : List Task} (h : d.Queues tasks d')
    (h' : d'.Queues more d'') : d.Queues (tasks ++ more) d'' where
  queue := by simp [h'.queue, h.queue, h.ticket]
  ticket := by simp [h'.ticket, h.ticket, Nat.add_assoc]
  settings := h'.settings.trans h.settings

theorem receive_eq (d : Dispatcher σ) (a : Arrival σ) (rest : List (Arrival σ)) :
    d.receive a rest = { d with
      now := max d.now a.time
      queue := d.queue ++ firstDeliveries d.ticket (a.act d.state).1
      ticket := d.ticket + (a.act d.state).1.length
      arrivals := rest
      state := (a.act d.state).2 } :=
  enqueueAll_eq _ _

theorem queues_receive (d : Dispatcher σ) (a : Arrival σ) (rest : List (Arrival σ)) :
    d.Queues (a.act d.state).1 (d.receive a rest) := by
  rw [receive_eq]
  exact ⟨rfl, rfl, rfl⟩

@[simp] theorem started_receive (d : Dispatcher σ) (a : Arrival σ) (rest : List (Arrival σ)) :
    (d.receive a rest).started = d.started := by
  rw [receive_eq]
  rfl

end Dispatcher

namespace Batch

variable {σ τ : Type}

/-! ## One delivery -/

section Flight

variable (h : Handler σ τ) (d : Dispatcher σ) (b : Batch τ) (x : Delivery)

/-- The end of a run queues what the handler asks for and has a result. -/
theorem finish_spec (memory : τ) :
    ∃ (tasks : List Task) (failure : Option Failure) (d' : Dispatcher σ),
      finish h d b x memory = (d', { b with finished := b.finished ++ [(x, failure)] }) ∧
        d.Queues tasks d' ∧ d'.started = d.started ∧ d'.arrivals = d.arrivals := by
  refine ⟨(h.finish memory d.state).1.queued, (h.finish memory d.state).1.failure, _, rfl, ?_⟩
  rw [Dispatcher.enqueueAll_eq]
  refine ⟨⟨rfl, rfl, rfl⟩, ?_, rfl⟩
  rw [Dispatcher.started_mark]
  exact List.append_nil _

/-- A run that is started sleeps or ends at once. -/
theorem start_cases :
    ∃ (memory : τ) (d' : Dispatcher σ), d.Queues [] d' ∧ d'.started = d.started ++ [x] ∧
      d'.arrivals = d.arrivals ∧
      ((∃ ms, start h d b x = (d', sleep d' b ms ⟨x, .running memory⟩)) ∨
        start h d b x = finish h d' b x memory) := by
  refine ⟨(h.start x.task d.state).1.2,
    ({ d with state := (h.start x.task d.state).2 }).mark (.started d.now x),
    ⟨(List.append_nil _).symm, rfl, rfl⟩, Dispatcher.started_mark _ _, rfl, ?_⟩
  unfold start
  by_cases hms : (h.start x.task d.state).1.1 = 0
  · exact .inr (if_pos hms)
  · exact .inl ⟨_, if_neg hms⟩

end Flight

/-! ## One step -/

/-- What one step of a batch does: it takes a delivery if there is room, lets one go on, or, when
none is ready, lets something arrive or wakes those that are due first. -/
theorem step_cases {h : Handler σ τ} {d d' : Dispatcher σ} {b b' : Batch τ}
    (hstep : step h d b = some (d', b')) :
    (∃ x rest, b.waiting = x :: rest ∧ b.inFlight < d.settings.width ∧
      d' = d.mark (.taken d.now x) ∧
      b' = { b with waiting := rest, ready := b.ready ++ [⟨x, .taken⟩] }) ∨
    (∃ f ready, b.ready = f :: ready ∧ (d', b') = resume h d { b with ready } f) ∨
    (∃ a rest, b.ready = [] ∧ d.arrivals = a :: rest ∧ d' = d.receive a rest ∧ b' = b) ∨
    ∃ time, b.ready = [] ∧ b.firstWake? = some time ∧ (d', b') = wake d b time := by
  have hidle (hready : b.ready = []) (hidle : step.idle d b = some (d', b')) :
      (∃ a rest, b.ready = [] ∧ d.arrivals = a :: rest ∧ d' = d.receive a rest ∧ b' = b) ∨
        ∃ time, b.ready = [] ∧ b.firstWake? = some time ∧ (d', b') = wake d b time := by
    unfold step.idle at hidle
    cases htime : b.firstWake? with
    | none => simp [htime] at hidle
    | some time =>
      simp only [htime] at hidle
      cases harrival : arrival? d time with
      | none =>
        simp only [harrival, Option.some.injEq] at hidle
        exact .inr ⟨time, hready, rfl, hidle.symm⟩
      | some p =>
        obtain ⟨a, rest⟩ := p
        simp only [harrival, Option.some.injEq, Prod.mk.injEq] at hidle
        unfold arrival? at harrival
        split at harrival
        · rename_i a' rest' harrivals
          split at harrival
          · cases harrival
            exact .inl ⟨a, rest, hready, harrivals, hidle.1.symm, hidle.2.symm⟩
          · cases harrival
        · cases harrival
  obtain ⟨waiting, ready, asleep, finished⟩ := b
  unfold step at hstep
  cases waiting with
  | nil =>
    cases ready with
    | nil => exact .inr (.inr (hidle rfl hstep))
    | cons f ready => exact .inr (.inl ⟨f, ready, rfl, (Option.some.inj hstep).symm⟩)
  | cons x rest =>
    simp only at hstep
    split at hstep
    · rename_i hroom
      cases hstep
      exact .inl ⟨x, rest, rfl, hroom, rfl, rfl⟩
    · cases ready with
      | nil => exact .inr (.inr (hidle rfl hstep))
      | cons f ready => exact .inr (.inl ⟨f, ready, rfl, (Option.some.inj hstep).symm⟩)

/-! ## The end of a batch -/

theorem weight_finish (h : Handler σ τ) (d : Dispatcher σ) (b : Batch τ) (x : Delivery)
    (memory : τ) : weight (finish h d b x memory).1 (finish h d b x memory).2 = weight d b := by
  obtain ⟨_, _, d', heq, -, -, harrivals⟩ := finish_spec h d b x memory
  rw [heq]
  simp [weight, harrivals]

theorem weight_start (h : Handler σ τ) (d : Dispatcher σ) (b : Batch τ) (x : Delivery) :
    weight (start h d b x).1 (start h d b x).2 ≤ weight d b + 2 := by
  obtain ⟨memory, d', -, -, harrivals, ⟨ms, heq⟩ | heq⟩ := start_cases h d b x
  · rw [heq]
    simp only [weight, sleep, total_append, total_cons, total_nil, Phase.weight, harrivals]
    omega
  · rw [heq, weight_finish]
    simp only [weight, harrivals]
    omega

/-- A delivery that goes on is nearer to its end. -/
theorem weight_resume (h : Handler σ τ) (d : Dispatcher σ) (b : Batch τ) (f : Flight τ) :
    weight (resume h d b f).1 (resume h d b f).2 < weight d b + Phase.weight f.phase := by
  obtain ⟨x, phase⟩ := f
  cases phase with
  | taken =>
    simp only [resume]
    split
    · exact Nat.lt_of_le_of_lt (weight_start h d b x) (by simp [Phase.weight])
    · simp only [weight, sleep, total_append, total_cons, total_nil, Phase.weight]
      omega
  | due => exact Nat.lt_of_le_of_lt (weight_start h d b x) (by simp [Phase.weight])
  | running memory => exact Nat.lt_succ_of_le (Nat.le_of_eq (weight_finish h d b x memory))

/-- Of those that sleep, some wake at the first moment at which one does. -/
theorem weight_wake {d : Dispatcher σ} {b : Batch τ} {time : Nat}
    (htime : b.firstWake? = some time) :
    weight (wake d b time).1 (wake d b time).2 < weight d b := by
  have hsplit (l : List (Sleeper τ)) :
      total (fun f => Phase.weight f.phase)
          ((l.filter fun s => s.wakes ≤ time).map Sleeper.flight) +
        (l.filter fun s => s.wakes ≤ time).length +
        total (fun s => Phase.weight s.flight.phase + 1) (l.filter fun s => ¬ s.wakes ≤ time) =
      total (fun s => Phase.weight s.flight.phase + 1) l := by
    induction l with
    | nil => rfl
    | cons s l ih =>
      by_cases hs : s.wakes ≤ time <;>
        simp only [List.filter_cons, hs, decide_true, decide_false, not_true, not_false_eq_true,
          if_true, if_false, Bool.false_eq_true, List.map_cons, List.length_cons, total_cons] at ih ⊢ <;>
        omega
  have hsome : 0 < (b.asleep.filter fun s => s.wakes ≤ time).length := by
    obtain ⟨s, hs, hwakes⟩ := List.mem_map.1 (List.min?_mem htime)
    exact List.length_pos_of_mem (List.mem_filter.2 ⟨hs, by simp [hwakes]⟩)
  have htotal := hsplit b.asleep
  simp only [weight, wake, List.partition_eq_filter_filter, total_append, Function.comp_def,
    decide_not] at htotal ⊢
  omega

/-- **Every step brings the end of a batch nearer.** -/
theorem weight_step {h : Handler σ τ} {d d' : Dispatcher σ} {b b' : Batch τ}
    (hstep : step h d b = some (d', b')) : weight d' b' < weight d b := by
  rcases step_cases hstep with ⟨x, rest, hwaiting, -, rfl, rfl⟩ | ⟨f, ready, hready, heq⟩ |
    ⟨a, rest, -, harrivals, rfl, rfl⟩ | ⟨time, -, htime, heq⟩
  · simp only [weight, hwaiting, List.length_cons, total_append, total_cons, total_nil,
      Phase.weight, Dispatcher.arrivals_mark]
    omega
  · have hlt := weight_resume h d { b with ready } f
    rw [← heq] at hlt
    simp only [weight, hready, total_cons] at hlt ⊢
    omega
  · rw [Dispatcher.receive_eq]
    simp only [weight, harrivals, List.length_cons]
    omega
  · have hlt := weight_wake (d := d) htime
    rwa [← heq] at hlt

/-- A batch that makes no step has no delivery left. -/
theorem finished_of_step_eq_none {h : Handler σ τ} {d : Dispatcher σ} {b : Batch τ}
    (hstep : step h d b = none) : b.waiting = [] ∧ b.ready = [] ∧ b.asleep = [] := by
  have hidle (hidle : step.idle d b = none) : b.asleep = [] := by
    unfold step.idle at hidle
    cases htime : b.firstWake? with
    | none => simpa [firstWake?, List.min?_eq_none_iff] using htime
    | some time =>
      simp only [htime] at hidle
      split at hidle <;> cases hidle
  obtain ⟨waiting, ready, asleep, finished⟩ := b
  unfold step at hstep
  cases waiting with
  | nil =>
    cases ready with
    | nil => exact ⟨rfl, rfl, hidle hstep⟩
    | cons f ready => cases hstep
  | cons x rest =>
    simp only at hstep
    split at hstep
    · cases hstep
    · rename_i hfull
      cases ready with
      | nil =>
        -- nothing is in flight, so there was room
        have hempty : asleep = [] := hidle hstep
        refine (hfull ?_).elim
        rw [inFlight, hempty]
        exact Nat.lt_of_lt_of_le Nat.zero_lt_one (Nat.le_max_right _ _)
      | cons f ready => cases hstep

/-- What every step keeps holds at the end, when no delivery is left. -/
theorem run_invariant {h : Handler σ τ} {P : Dispatcher σ → Batch τ → Prop}
    (hP : ∀ {d d' b b'}, P d b → step h d b = some (d', b') → P d' b') :
    ∀ {fuel : Nat} {d : Dispatcher σ} {b : Batch τ}, P d b → weight d b ≤ fuel →
      P (run h fuel d b).1 (run h fuel d b).2 ∧ step h (run h fuel d b).1 (run h fuel d b).2 = none
  | 0, d, b, hd, hfuel => by
    refine ⟨hd, ?_⟩
    cases hstep : step h d b with
    | none => rw [run, hstep]
    | some p =>
      have hlt : weight p.1 p.2 < weight d b := weight_step hstep
      omega
  | fuel + 1, d, b, hd, hfuel => by
    unfold run
    cases hstep : step h d b with
    | none => exact ⟨hd, hstep⟩
    | some p =>
      have hlt : weight p.1 p.2 < weight d b := weight_step hstep
      exact run_invariant hP (hP hd hstep) (by omega)

/-! ## The moves of a batch -/

/-- The deliveries that are in flight. -/
def flights (b : Batch τ) : List (Flight τ) := b.ready ++ b.asleep.map Sleeper.flight

/-- Whether the handler of a delivery in flight has started. -/
def begun (f : Flight τ) : Bool := match f.phase with
  | .running _ => true
  | _ => false

/-- The moves of which the steps of a batch are made: a step makes one move, or two when it starts a
handler, which then sleeps or ends. The delivery that goes on is the first that is ready. -/
inductive Moves (h : Handler σ τ) : Dispatcher σ → Batch τ → Dispatcher σ → Batch τ → Prop where
  /-- A delivery is taken. -/
  | take {d : Dispatcher σ} {b : Batch τ} {x : Delivery} {rest : List Delivery}
      (waiting : b.waiting = x :: rest) (room : b.inFlight < d.settings.width) :
      Moves h d b (d.mark (.taken d.now x))
        { b with waiting := rest, ready := b.ready ++ [⟨x, .taken⟩] }
  /-- A delivery waits its retry delay. -/
  | delay {d : Dispatcher σ} {b : Batch τ} {x : Delivery}
      (late : (d.settings.delayBefore x.attempt).toNat ≠ 0) :
      Moves h d { b with ready := ⟨x, .taken⟩ :: b.ready } d
        (sleep d b (d.settings.delayBefore x.attempt).toNat ⟨x, .due⟩)
  /-- A handler starts. -/
  | start {d : Dispatcher σ} {b : Batch τ} {x : Delivery} {phase : Phase τ}
      (fresh : begun ⟨x, phase⟩ = false)
      (prompt : phase = .taken → (d.settings.delayBefore x.attempt).toNat = 0) :
      Moves h d { b with ready := ⟨x, phase⟩ :: b.ready }
        (({ d with state := (h.start x.task d.state).2 }).mark (.started d.now x))
        { b with ready := ⟨x, .running (h.start x.task d.state).1.2⟩ :: b.ready }
  /-- A handler sleeps. -/
  | pause {d : Dispatcher σ} {b : Batch τ} {x : Delivery} {memory : τ} (ms : Nat) :
      Moves h d { b with ready := ⟨x, .running memory⟩ :: b.ready } d
        (sleep d b ms ⟨x, .running memory⟩)
  /-- A handler ends. -/
  | finish {d : Dispatcher σ} {b : Batch τ} {x : Delivery} {memory : τ} :
      Moves h d { b with ready := ⟨x, .running memory⟩ :: b.ready }
        (finish h d b x memory).1 (finish h d b x memory).2
  /-- Something arrives while all that are in flight sleep. -/
  | receive {d : Dispatcher σ} {b : Batch τ} {a : Arrival σ} {rest : List (Arrival σ)}
      (idle : b.ready = []) (arrivals : d.arrivals = a :: rest) : Moves h d b (d.receive a rest) b
  /-- Those that are due first wake while all that are in flight sleep. -/
  | wake {d : Dispatcher σ} {b : Batch τ} {time : Nat} (idle : b.ready = [])
      (first : b.firstWake? = some time) : Moves h d b (wake d b time).1 (wake d b time).2

/-- Every move keeps what is so of a dispatcher and its batch. -/
def Kept (h : Handler σ τ) (P : Dispatcher σ → Batch τ → Prop) : Prop :=
  ∀ ⦃d b d' b'⦄, Moves h d b d' b' → P d b → P d' b'

namespace Kept

variable {h : Handler σ τ} {P : Dispatcher σ → Batch τ → Prop} {d d' : Dispatcher σ} {b b' : Batch τ}

theorem start (hP : Kept h P) {x : Delivery} {phase : Phase τ} (fresh : begun ⟨x, phase⟩ = false)
    (prompt : phase = .taken → (d.settings.delayBefore x.attempt).toNat = 0)
    (hb : P d { b with ready := ⟨x, phase⟩ :: b.ready }) :
    P (Batch.start h d b x).1 (Batch.start h d b x).2 := by
  have hstarted := hP (.start fresh prompt) hb
  by_cases hms : (h.start x.task d.state).1.1 = 0
  · have heq : Batch.start h d b x = Batch.finish h
        (({ d with state := (h.start x.task d.state).2 }).mark (.started d.now x)) b x
        (h.start x.task d.state).1.2 := if_pos hms
    rw [heq]
    exact hP .finish hstarted
  · have heq : Batch.start h d b x = (({ d with state := (h.start x.task d.state).2 }).mark
        (.started d.now x), sleep (({ d with state := (h.start x.task d.state).2 }).mark
        (.started d.now x)) b (h.start x.task d.state).1.1
        ⟨x, .running (h.start x.task d.state).1.2⟩) := if_neg hms
    rw [heq]
    exact hP (.pause _) hstarted

theorem resume (hP : Kept h P) {f : Flight τ} (hb : P d { b with ready := f :: b.ready }) :
    P (Batch.resume h d b f).1 (Batch.resume h d b f).2 := by
  obtain ⟨x, phase⟩ := f
  cases phase with
  | taken =>
    simp only [Batch.resume]
    split
    · rename_i hnone
      exact hP.start rfl (fun _ => hnone) hb
    · rename_i hlate
      exact hP (.delay hlate) hb
  | due =>
    have hfresh : begun (⟨x, .due⟩ : Flight τ) = false := rfl
    exact hP.start hfresh nofun hb
  | running memory => exact hP .finish hb

theorem step (hP : Kept h P) (hb : P d b) (hstep : Batch.step h d b = some (d', b')) : P d' b' := by
  rcases step_cases hstep with ⟨x, rest, hwaiting, hroom, rfl, rfl⟩ | ⟨f, ready, hready, heq⟩ |
    ⟨a, rest, hidle, harrivals, rfl, rfl⟩ | ⟨time, hidle, htime, heq⟩
  · exact hP (.take hwaiting hroom) hb
  · have hnext := hP.resume (b := { b with ready }) (f := f) (by rw [← hready]; exact hb)
    rwa [← heq] at hnext
  · exact hP (.receive hidle harrivals) hb
  · have hnext := hP (.wake hidle htime) hb
    rwa [← heq] at hnext

/-- **What every move keeps is so when a batch has been carried out**, and nothing of it is left. -/
theorem execute (hP : Kept h P) {deliveries : List Delivery}
    (hb : P d ({ waiting := deliveries } : Batch τ)) :
    ∃ b : Batch τ, P (Batch.execute h d deliveries).1 b ∧
      (Batch.execute h d deliveries).2 = b.finished ∧ b.waiting = [] ∧ b.flights = [] := by
  obtain ⟨hend, hnone⟩ := run_invariant (P := P) hP.step hb (Nat.le_refl _)
  obtain ⟨hwaiting, hready, hasleep⟩ := finished_of_step_eq_none hnone
  refine ⟨_, hend, rfl, hwaiting, ?_⟩
  rw [flights, hready, hasleep]
  rfl

end Kept

/-! ## The deliveries in flight -/

section Flights

variable (d : Dispatcher σ) (b : Batch τ)

theorem flights_sleep (ms : Nat) (f : Flight τ) :
    (sleep d b ms f).flights.Perm (f :: b.flights) := by
  simp only [flights, sleep, List.map_append, List.map_cons, List.map_nil, ← List.append_assoc]
  exact List.perm_append_singleton _ _

theorem flights_wake (time : Nat) : (wake d b time).2.flights.Perm b.flights := by
  simp only [flights, wake, List.partition_eq_filter_filter, List.append_assoc]
  rw [← List.map_append]
  exact ((List.filter_append_perm _ _).map _).append_left _

end Flights

/-! ## The deliveries of a batch -/

/-- What is so of a batch of deliveries that is being carried out: none is lost, those that run or
are finished were started once each, and tasks may have been queued since. -/
structure Carries (d₀ : Dispatcher σ) (deliveries : List Delivery) (d : Dispatcher σ)
    (b : Batch τ) : Prop where
  deliveries : (b.waiting ++ (b.flights.map Flight.delivery ++ b.finished.map Prod.fst)).Perm
    deliveries
  started : ∃ s, d.started = d₀.started ++ s ∧
    s.Perm ((b.flights.filter begun).map Flight.delivery ++ b.finished.map Prod.fst)
  queued : ∃ tasks, d₀.Queues tasks d

namespace Carries

variable {d₀ d d' : Dispatcher σ} {deliveries : List Delivery} {b : Batch τ} {x : Delivery}

theorem of_waiting (d : Dispatcher σ) (deliveries : List Delivery) :
    Carries d deliveries d ({ waiting := deliveries } : Batch τ) where
  deliveries := by simp [flights]
  started := ⟨[], by simp, by simp [flights]⟩
  queued := ⟨[], .refl d⟩

/-- The order of the deliveries in flight does not matter. -/
theorem reorder {b' : Batch τ} (h : Carries d₀ deliveries d b) (hflights : b'.flights.Perm b.flights)
    (hwaiting : b'.waiting = b.waiting) (hfinished : b'.finished = b.finished) :
    Carries d₀ deliveries d b' where
  deliveries := by
    rw [hwaiting, hfinished]
    exact .trans (((hflights.map _).append_right _).append_left _) h.deliveries
  started := by
    obtain ⟨s, hs, hperm⟩ := h.started
    rw [hfinished]
    exact ⟨s, hs, hperm.trans (((hflights.filter _).map _).append_right _).symm⟩
  queued := h.queued

/-- A delivery in hand is put to sleep. -/
theorem sleep {f : Flight τ} (h : Carries d₀ deliveries d { b with ready := f :: b.ready })
    (ms : Nat) : Carries d₀ deliveries d (Batch.sleep d b ms f) :=
  h.reorder (flights_sleep d b ms f) rfl rfl

/-- A delivery in hand waits for something else before its handler starts. -/
theorem rephase {phase : Phase τ}
    (h : Carries d₀ deliveries d { b with ready := ⟨x, phase⟩ :: b.ready }) (phase' : Phase τ)
    (hphase : begun ⟨x, phase'⟩ = begun ⟨x, phase⟩) :
    Carries d₀ deliveries d { b with ready := ⟨x, phase'⟩ :: b.ready } where
  deliveries := h.deliveries
  started := by
    obtain ⟨s, hs, hperm⟩ := h.started
    refine ⟨s, hs, hperm.trans (.of_eq ?_)⟩
    simp only [flights, List.cons_append, List.filter_cons, hphase]
    cases begun ⟨x, phase⟩ <;> rfl
  queued := h.queued

/-- The handler of a delivery in hand starts. -/
theorem begin {phase : Phase τ}
    (h : Carries d₀ deliveries d { b with ready := ⟨x, phase⟩ :: b.ready }) (memory : τ)
    (hphase : begun ⟨x, phase⟩ = false) (hqueued : d.Queues [] d')
    (hstarted : d'.started = d.started ++ [x]) :
    Carries d₀ deliveries d' { b with ready := ⟨x, .running memory⟩ :: b.ready } where
  deliveries := h.deliveries
  started := by
    obtain ⟨s, hs, hperm⟩ := h.started
    refine ⟨s ++ [x], by rw [hstarted, hs, List.append_assoc], ?_⟩
    have hbegun : begun (⟨x, .running memory⟩ : Flight τ) = true := rfl
    simp only [flights, List.cons_append, List.filter_cons, hphase, hbegun, if_true,
      Bool.false_eq_true, if_false, List.map_cons] at hperm ⊢
    exact (List.perm_append_comm).trans (hperm.cons x)
  queued := by
    obtain ⟨tasks, htasks⟩ := h.queued
    exact ⟨_, htasks.trans hqueued⟩

/-- The run of a delivery in hand ends. -/
theorem finish {memory : τ}
    (h : Carries d₀ deliveries d { b with ready := ⟨x, .running memory⟩ :: b.ready })
    (handler : Handler σ τ) (memory' : τ) :
    Carries d₀ deliveries (Batch.finish handler d b x memory').1
      (Batch.finish handler d b x memory').2 := by
  obtain ⟨tasks, failure, d', heq, hqueues, hstarted, -⟩ := finish_spec handler d b x memory'
  rw [heq]
  exact {
    deliveries := by
      refine .trans ?_ h.deliveries
      simp only [flights, List.map_append, List.map_cons, List.map_nil, List.cons_append,
        List.perm_iff_count, List.count_append, List.count_cons, List.count_nil]
      omega
    started := by
      obtain ⟨s, hs, hperm⟩ := h.started
      refine ⟨s, hstarted.trans hs, hperm.trans ?_⟩
      have hbegun : begun (⟨x, .running memory⟩ : Flight τ) = true := rfl
      simp only [flights, List.map_append, List.map_cons, List.map_nil, hbegun, List.filter_append,
        List.filter_cons, if_true, List.cons_append, List.perm_iff_count, List.count_append,
        List.count_cons, List.count_nil]
      omega
    queued := by
      obtain ⟨tasks', htasks'⟩ := h.queued
      exact ⟨_, htasks'.trans hqueues⟩ }

/-- Those that are due are woken. -/
theorem wake (h : Carries d₀ deliveries d b) (time : Nat) :
    Carries d₀ deliveries (Batch.wake d b time).1 (Batch.wake d b time).2 := by
  have hsame := h.reorder (flights_wake d b time) rfl rfl
  obtain ⟨tasks, htasks⟩ := h.queued
  exact { hsame with queued := ⟨tasks, htasks.queue, htasks.ticket, htasks.settings⟩ }

/-- **Every move keeps the deliveries of a batch.** -/
theorem kept (handler : Handler σ τ) (d₀ : Dispatcher σ) (deliveries : List Delivery) :
    Kept handler (Carries d₀ deliveries) := by
  intro d b d' b' hmove h
  cases hmove with
  | @take b x rest hwaiting hroom =>
    have htaken : begun (⟨x, .taken⟩ : Flight τ) = false := rfl
    refine ⟨.trans ?_ h.deliveries, ?_, ?_⟩
    · simp only [flights, hwaiting, List.map_append, List.map_cons, List.map_nil, List.cons_append,
        List.perm_iff_count, List.count_append, List.count_cons, List.count_nil]
      omega
    · simp only [flights, List.filter_append, List.filter_cons, htaken, Bool.false_eq_true, if_false,
        List.filter_nil, List.append_nil, Dispatcher.started_mark, Mark.started?, Option.toList]
      simpa only [flights, List.filter_append] using h.started
    · obtain ⟨tasks, htasks⟩ := h.queued
      exact ⟨tasks, htasks.queue, htasks.ticket, htasks.settings⟩
  | delay late => exact (h.rephase .due rfl).sleep _
  | start fresh prompt =>
    exact h.begin _ fresh ⟨(List.append_nil _).symm, rfl, rfl⟩ (Dispatcher.started_mark _ _)
  | pause ms => exact h.sleep ms
  | finish => exact h.finish handler _
  | receive idle arrivals =>
    obtain ⟨tasks, htasks⟩ := h.queued
    exact { h with
      started := by rw [Dispatcher.started_receive]; exact h.started
      queued := ⟨_, htasks.trans (d.queues_receive _ _)⟩ }
  | wake idle first => exact h.wake _

end Carries

/-- **A batch ends when each of its deliveries has been started once and has one result.** Meanwhile
tasks may have been queued. -/
theorem execute_spec (h : Handler σ τ) (d : Dispatcher σ) (deliveries : List Delivery) :
    ∃ started tasks, (execute h d deliveries).1.started = d.started ++ started ∧
      started.Perm deliveries ∧ ((execute h d deliveries).2.map Prod.fst).Perm deliveries ∧
      d.Queues tasks (execute h d deliveries).1 := by
  obtain ⟨b, hcarries, hfinished, hwaiting, hflights⟩ :=
    (Carries.kept h d deliveries).execute (Carries.of_waiting d deliveries)
  obtain ⟨hdeliveries, ⟨started, hstarted, hbegun⟩, tasks, htasks⟩ := hcarries
  simp only [hwaiting, hflights, List.map_nil, List.filter_nil, List.nil_append] at hdeliveries hbegun
  rw [hfinished]
  exact ⟨started, tasks, hstarted, hbegun.trans hdeliveries, hdeliveries, htasks⟩

end Batch

end FleetReconciler
