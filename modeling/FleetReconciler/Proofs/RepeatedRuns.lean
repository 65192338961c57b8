import FleetReconciler.Proofs.DrainBound
import FleetReconciler.Proofs.KeyText

/-!
# Handlers that repeat themselves

A handler repeats itself if the task and the number of a run say whether the run succeeds, however
the runs of all tasks are interleaved. Deliveries count attempts and not runs. While deliveries of
different tasks are carried out, though, the two have the same numbers, and so a result is what its
delivery says.

* `Handler.Reaches`, `Handler.Repeats` — the interleavings, and a handler that repeats itself;
* `Batch.Numbered.kept` — **every move keeps the attempts in step with the runs**;
* `Batch.execute_numbered` — what this says of the results of a batch;
* `Script.repeats` — **a script whose steps queue nothing repeats itself**, also a slower one.
-/

namespace FleetReconciler

variable {σ τ : Type} {succeeds : Task → Nat → Bool} {tasks : List Task} {s₀ : σ}

/-! ## Handlers that repeat themselves -/

/-- A run that goes on: what it remembers, and that it is the n-th run of a task. -/
structure GoingRun (τ : Type) where
  memory : τ
  task : Task
  number : Nat

/-- The states that a handler can reach from a state while it carries out tasks in any order, any
number of them at a time, with the tasks whose runs were started so far and the runs that go on. -/
inductive Handler.Reaches (h : Handler σ τ) (tasks : List Task) (s₀ : σ) :
    List Task → List (GoingRun τ) → σ → Prop
  | fresh : Reaches h tasks s₀ [] [] s₀
  | start {ran : List Task} {going : List (GoingRun τ)} {s : σ} {t : Task}
      (reaches : Reaches h tasks s₀ ran going s) (mem : t ∈ tasks) :
      Reaches h tasks s₀ (ran ++ [t]) (⟨(h.start t s).1.2, t, ran.count t + 1⟩ :: going)
        (h.start t s).2
  | finish {ran : List Task} {going : List (GoingRun τ)} {s : σ} {run : GoingRun τ}
      (reaches : Reaches h tasks s₀ ran (run :: going) s) :
      Reaches h tasks s₀ ran going (h.finish run.memory s).2
  | note {ran : List Task} {going : List (GoingRun τ)} {s : σ} (notice : Notice)
      (reaches : Reaches h tasks s₀ ran going s) :
      Reaches h tasks s₀ ran going (h.note notice s)
  | reorder {ran : List Task} {going going' : List (GoingRun τ)} {s : σ}
      (reaches : Reaches h tasks s₀ ran going s) (perm : going.Perm going') :
      Reaches h tasks s₀ ran going' s

/-- However the runs of the tasks are interleaved, whether a run succeeds depends on its task and its
number only, and it queues nothing. Nothing is said about sleeps, texts of failures and notices. -/
structure Handler.Repeats (h : Handler σ τ) (succeeds : Task → Nat → Bool) (tasks : List Task)
    (s₀ : σ) : Prop where
  failure : ∀ {ran run going s}, h.Reaches tasks s₀ ran (run :: going) s →
    ((h.finish run.memory s).1.failure = none ↔ succeeds run.task run.number = true)
  silent : ∀ {ran run going s}, h.Reaches tasks s₀ ran (run :: going) s →
    (h.finish run.memory s).1.queued = []

/-! ## One batch -/

/-- How often a task has been run. -/
def Dispatcher.runsOf (d : Dispatcher σ) (t : Task) : Nat := (d.started.map Delivery.task).count t

/-- The run of a delivery in flight, if it goes on. -/
def Flight.run? (f : Flight τ) : Option (GoingRun τ) :=
  match f.phase with
  | .running m => some ⟨m, f.delivery.task, f.delivery.attempt.toNat⟩
  | _ => none

/-- The attempt of a delivery in flight is the number of the run that it waits for or that goes
on. -/
def Flight.Numbered (d : Dispatcher σ) (f : Flight τ) : Prop :=
  if Batch.begun f then d.runsOf f.delivery.task = f.delivery.attempt.toNat
  else d.runsOf f.delivery.task + 1 = f.delivery.attempt.toNat

/-- It matters only how often the task of the delivery has been run. -/
theorem Flight.Numbered.of_runsOf_eq {d d' : Dispatcher σ} {f : Flight τ} (h : f.Numbered d)
    (hruns : d'.runsOf f.delivery.task = d.runsOf f.delivery.task) : f.Numbered d' := by
  unfold Flight.Numbered
  rw [hruns]
  exact h

namespace Batch

variable {h : Handler σ τ} {d₀ d : Dispatcher σ} {b : Batch τ} {deliveries : List Delivery}

/-- The runs that go on. -/
def going (b : Batch τ) : List (GoingRun τ) := b.flights.filterMap Flight.run?

theorem going_fresh {f : Flight τ} (hfresh : begun f = false) (b : Batch τ) :
    Batch.going { b with ready := f :: b.ready } = b.going := by
  obtain ⟨x, phase⟩ := f
  cases phase with
  | running m => cases hfresh
  | _ => rfl

theorem going_sleep (d : Dispatcher σ) (b : Batch τ) (ms : Nat) (f : Flight τ) :
    (sleep d b ms f).going.Perm (Batch.going { b with ready := f :: b.ready }) :=
  (flights_sleep d b ms f).filterMap _

/-- While deliveries of different tasks are carried out, none of the others is of the task of the one
in hand. -/
theorem Carries.task_ne {x y : Delivery} {phase : Phase τ}
    (h : Carries d₀ deliveries d { b with ready := ⟨x, phase⟩ :: b.ready })
    (hdistinct : (deliveries.map Delivery.task).Nodup)
    (hy : y ∈ b.waiting ++ (b.flights.map Flight.delivery ++ b.finished.map Prod.fst)) :
    y.task ≠ x.task := by
  have hperm : (x :: (b.waiting ++ (b.flights.map Flight.delivery ++ b.finished.map Prod.fst))).Perm
      deliveries := List.perm_middle.symm.trans h.deliveries
  have hnodup := (hperm.map Delivery.task).nodup_iff.2 hdistinct
  rw [List.map_cons, List.nodup_cons] at hnodup
  intro heq
  exact hnodup.1 (heq ▸ List.mem_map_of_mem hy)

/-- What is so of a batch of deliveries while their handler repeats itself: nothing is queued, the
attempts are the numbers of the runs, and a result is a success if the run with its number is one. -/
structure Numbered (h : Handler σ τ) (succeeds : Task → Nat → Bool) (tasks : List Task) (s₀ : σ)
    (d₀ : Dispatcher σ) (deliveries : List Delivery) (d : Dispatcher σ) (b : Batch τ) : Prop where
  carries : Carries d₀ deliveries d b
  arrivals : d.arrivals = []
  queue : d.queue = d₀.queue
  reaches : h.Reaches tasks s₀ (d.started.map Delivery.task) b.going d.state
  waiting : ∀ x ∈ b.waiting, d.runsOf x.task + 1 = x.attempt.toNat
  flights : ∀ f ∈ b.flights, f.Numbered d
  finished : ∀ x ∈ b.finished, d.runsOf x.1.task = x.1.attempt.toNat ∧
    (x.2 = none ↔ succeeds x.1.task x.1.attempt.toNat = true)

namespace Numbered

variable {x : Delivery}

/-- A delivery that has not started waits its retry delay. -/
theorem delay (hnumbered : Numbered h succeeds tasks s₀ d₀ deliveries d
      { b with ready := ⟨x, .taken⟩ :: b.ready })
    (ms : Nat) (hcarries : Carries d₀ deliveries d (sleep d b ms ⟨x, .due⟩)) :
    Numbered h succeeds tasks s₀ d₀ deliveries d (sleep d b ms ⟨x, .due⟩) := by
  obtain ⟨hx, hrest⟩ := List.forall_mem_cons.1 hnumbered.flights
  refine { hnumbered with carries := hcarries, reaches := ?_, flights := fun f hf => ?_ }
  · have hgoing : Batch.going { b with ready := ⟨x, .taken⟩ :: b.ready } =
        Batch.going { b with ready := ⟨x, .due⟩ :: b.ready } :=
      (going_fresh rfl b).trans (going_fresh rfl b).symm
    exact (hgoing ▸ hnumbered.reaches).reorder (going_sleep d b ms ⟨x, .due⟩).symm
  · rcases List.mem_cons.1 ((flights_sleep d b ms _).subset hf) with rfl | hf
    · exact hx
    · exact hrest f hf

/-- A run goes to sleep. -/
theorem pause {memory : τ} (hnumbered : Numbered h succeeds tasks s₀ d₀ deliveries d
      { b with ready := ⟨x, .running memory⟩ :: b.ready })
    (ms : Nat) (hcarries : Carries d₀ deliveries d (sleep d b ms ⟨x, .running memory⟩)) :
    Numbered h succeeds tasks s₀ d₀ deliveries d (sleep d b ms ⟨x, .running memory⟩) := by
  refine { hnumbered with carries := hcarries, reaches := ?_, flights := fun f hf => ?_ }
  · exact hnumbered.reaches.reorder (going_sleep d b ms ⟨x, .running memory⟩).symm
  · exact hnumbered.flights f ((flights_sleep d b ms _).subset hf)

/-- A run starts: it is the run with the number of the attempt, and the numbers of the other tasks
stay. -/
theorem start {phase : Phase τ} (hnumbered : Numbered h succeeds tasks s₀ d₀ deliveries d
      { b with ready := ⟨x, phase⟩ :: b.ready }) (hfresh : begun ⟨x, phase⟩ = false)
    (hdistinct : (deliveries.map Delivery.task).Nodup) (hx : x.task ∈ tasks)
    (hcarries : Carries d₀ deliveries
      (({ d with state := (h.start x.task d.state).2 }).mark (.started d.now x))
      { b with ready := ⟨x, .running (h.start x.task d.state).1.2⟩ :: b.ready }) :
    Numbered h succeeds tasks s₀ d₀ deliveries
      (({ d with state := (h.start x.task d.state).2 }).mark (.started d.now x))
      { b with ready := ⟨x, .running (h.start x.task d.state).1.2⟩ :: b.ready } := by
  obtain ⟨hself, hrest⟩ := List.forall_mem_cons.1 hnumbered.flights
  replace hself : d.runsOf x.task + 1 = x.attempt.toNat := by
    simpa only [Flight.Numbered, hfresh, Bool.false_eq_true, if_false] using hself
  have hstarted : (({ d with state := (h.start x.task d.state).2 }).mark (.started d.now x)).started =
      d.started ++ [x] := Dispatcher.started_mark _ _
  generalize hd' : ({ d with state := (h.start x.task d.state).2 }).mark (.started d.now x) = d' at *
  have hruns (t : Task) : d'.runsOf t = d.runsOf t + if x.task = t then 1 else 0 := by
    simp only [Dispatcher.runsOf, hstarted, List.map_append, List.map_cons, List.map_nil,
      List.count_append, List.count_singleton, beq_iff_eq]
  have hother : ∀ y ∈ b.waiting ++ (b.flights.map Flight.delivery ++ b.finished.map Prod.fst),
      d'.runsOf y.task = d.runsOf y.task := by
    intro y hy
    rw [hruns, if_neg (Ne.symm (hnumbered.carries.task_ne hdistinct hy))]
    rfl
  have hrun : d'.runsOf x.task = x.attempt.toNat := by
    rw [hruns, if_pos rfl]
    exact hself
  have hreaches := hnumbered.reaches
  rw [going_fresh hfresh] at hreaches
  subst hd'
  refine ⟨hcarries, hnumbered.arrivals, hnumbered.queue, ?_, fun y hy => ?_,
    List.forall_mem_cons.2 ⟨hrun, fun f hf => ?_⟩, fun y hy => ?_⟩
  · have hnext := hreaches.start hx
    have hnumber : (d.started.map Delivery.task).count x.task + 1 = x.attempt.toNat := hself
    rw [hnumber] at hnext
    rw [hstarted, List.map_append]
    exact hnext
  · rw [hother y (List.mem_append_left _ hy)]
    exact hnumbered.waiting y hy
  · exact (hrest f hf).of_runsOf_eq (hother _ (List.mem_append_right _
      (List.mem_append_left _ (List.mem_map_of_mem hf))))
  · rw [hother _ (List.mem_append_right _ (List.mem_append_right _ (List.mem_map_of_mem hy)))]
    exact hnumbered.finished y hy

/-- A run ends: it queues nothing, and its result is what the task and the number say. -/
theorem finish {memory : τ} (hnumbered : Numbered h succeeds tasks s₀ d₀ deliveries d
      { b with ready := ⟨x, .running memory⟩ :: b.ready })
    (hrep : h.Repeats succeeds tasks s₀)
    (hcarries : Carries d₀ deliveries (Batch.finish h d b x memory).1 (Batch.finish h d b x memory).2) :
    Numbered h succeeds tasks s₀ d₀ deliveries (Batch.finish h d b x memory).1
      (Batch.finish h d b x memory).2 := by
  obtain ⟨hself, hrest⟩ := List.forall_mem_cons.1 hnumbered.flights
  replace hself : d.runsOf x.task = x.attempt.toNat := hself
  have hreaches : h.Reaches tasks s₀ (d.started.map Delivery.task)
      (⟨memory, x.task, x.attempt.toNat⟩ :: b.going) d.state := hnumbered.reaches
  have hfinish : Batch.finish h d b x memory =
      (({ d with state := (h.finish memory d.state).2 }).mark (.ended d.now x),
        { b with finished := b.finished ++ [(x, (h.finish memory d.state).1.failure)] }) := by
    unfold Batch.finish
    simp only [hrep.silent hreaches]
    rfl
  have hstarted : (({ d with state := (h.finish memory d.state).2 }).mark (.ended d.now x)).started =
      d.started := (Dispatcher.started_mark _ _).trans (List.append_nil _)
  have hruns (t : Task) : (({ d with state := (h.finish memory d.state).2 }).mark
      (.ended d.now x)).runsOf t = d.runsOf t := by
    rw [Dispatcher.runsOf, hstarted]
    rfl
  rw [hfinish] at hcarries ⊢
  refine ⟨hcarries, hnumbered.arrivals, hnumbered.queue, ?_, fun y hy => ?_, fun f hf => ?_,
    List.forall_mem_append.2 ⟨fun y hy => ?_, List.forall_mem_singleton.2 ?_⟩⟩
  · rw [hstarted]
    exact hreaches.finish
  · rw [hruns]
    exact hnumbered.waiting y hy
  · exact (hrest f hf).of_runsOf_eq (hruns _)
  · rw [hruns]
    exact hnumbered.finished y hy
  · rw [hruns]
    exact ⟨hself, hrep.failure hreaches⟩

/-- **Every move keeps the attempts in step with the runs.** -/
theorem kept (hrep : h.Repeats succeeds tasks s₀)
    (hdistinct : (deliveries.map Delivery.task).Nodup) (htasks : ∀ x ∈ deliveries, x.task ∈ tasks) :
    Kept h (Numbered h succeeds tasks s₀ d₀ deliveries) := by
  intro d b d' b' hmove hnumbered
  have hcarries := Carries.kept h d₀ deliveries hmove hnumbered.carries
  cases hmove with
  | @take b x rest waiting room =>
    have hstarted : (d.mark (.taken d.now x)).started = d.started :=
      (Dispatcher.started_mark _ _).trans (List.append_nil _)
    have hruns (t : Task) : (d.mark (.taken d.now x)).runsOf t = d.runsOf t := by
      rw [Dispatcher.runsOf, hstarted]
      rfl
    have hx := hnumbered.waiting x (waiting ▸ List.mem_cons_self)
    have htaken : Flight.run? (⟨x, .taken⟩ : Flight τ) = none := rfl
    refine ⟨hcarries, hnumbered.arrivals, hnumbered.queue, ?_, fun y hy => ?_, fun f hf => ?_,
      fun y hy => ?_⟩
    · have hgoing : Batch.going { b with waiting := rest, ready := b.ready ++ [⟨x, .taken⟩] } =
          b.going := by
        simp only [going, Batch.flights, List.filterMap_append, List.filterMap_cons_none htaken,
          List.filterMap_nil, List.append_nil]
      rw [hstarted, hgoing]
      exact hnumbered.reaches
    · rw [hruns]
      exact hnumbered.waiting y (waiting ▸ List.mem_cons_of_mem _ hy)
    · simp only [Batch.flights, List.append_assoc, List.mem_append, List.mem_singleton] at hf
      rcases hf with hf | rfl | hf
      · exact (hnumbered.flights f (List.mem_append_left _ hf)).of_runsOf_eq (hruns _)
      · exact (congrArg (· + 1) (hruns _)).trans hx
      · exact (hnumbered.flights f (List.mem_append_right _ hf)).of_runsOf_eq (hruns _)
    · rw [hruns]
      exact hnumbered.finished y hy
  | delay late => exact hnumbered.delay _ hcarries
  | @start b x phase fresh prompt =>
    have hx : x ∈ deliveries := hnumbered.carries.deliveries.subset (by simp [Batch.flights])
    exact hnumbered.start fresh hdistinct (htasks x hx) hcarries
  | pause ms => exact hnumbered.pause ms hcarries
  | finish => exact hnumbered.finish hrep hcarries
  | receive idle arrivals =>
    rw [hnumbered.arrivals] at arrivals
    cases arrivals
  | @wake b time idle first =>
    have hperm := flights_wake d b time
    exact ⟨hcarries, hnumbered.arrivals, hnumbered.queue,
      hnumbered.reaches.reorder (hperm.filterMap _).symm, hnumbered.waiting,
      fun f hf => hnumbered.flights f (hperm.subset hf), hnumbered.finished⟩

end Numbered

/-- A batch of deliveries of different tasks queues nothing, and its results are those of the runs
with their numbers. -/
theorem execute_numbered (hrep : h.Repeats succeeds tasks s₀) (harrivals : d.arrivals = [])
    (hreaches : h.Reaches tasks s₀ (d.started.map Delivery.task) [] d.state)
    (hdistinct : (deliveries.map Delivery.task).Nodup)
    (hdeliveries : ∀ x ∈ deliveries, x.task ∈ tasks ∧ d.runsOf x.task + 1 = x.attempt.toNat) :
    let p := execute h d deliveries
    p.1.queue = d.queue ∧ p.1.arrivals = [] ∧
      h.Reaches tasks s₀ (p.1.started.map Delivery.task) [] p.1.state ∧
      ∀ x ∈ p.2, p.1.runsOf x.1.task = x.1.attempt.toNat ∧
        (x.2 = none ↔ succeeds x.1.task x.1.attempt.toNat = true) := by
  have hstart : Numbered h succeeds tasks s₀ d deliveries d ({ waiting := deliveries } : Batch τ) :=
    { carries := .of_waiting d deliveries
      arrivals := harrivals
      queue := rfl
      reaches := hreaches
      waiting := fun x hx => (hdeliveries x hx).2
      flights := fun f hf => by cases hf
      finished := fun x hx => by cases hx }
  obtain ⟨b, hnumbered, hfinished, -, hflights⟩ :=
    (Numbered.kept hrep hdistinct fun x hx => (hdeliveries x hx).1).execute hstart
  have hend := hnumbered.reaches
  rw [going, hflights] at hend
  intro p
  exact ⟨hnumbered.queue, hnumbered.arrivals, hend,
    fun x hx => hnumbered.finished x (hfinished ▸ hx)⟩

end Batch

/-! ## Scripts -/

namespace Task

/-- Different tasks have different texts. -/
theorem text_injective {t u : Task} (h : t.text = u.text) : t = u := by
  have hlist := congrArg String.toList h
  simp only [text, String.toList_append] at hlist
  cases t <;> cases u <;>
    simp [handler, keyText] at hlist
  all_goals
    exact congrArg _ (EntityKey.text_injective (String.toList_injective hlist))

end Task

namespace Script

/-- What is so of all steps of a script, and of a run past their end, is so of every run. -/
theorem forall_stepOf {P : ScriptStep → Prop} {s : Script} (hend : P {})
    (hs : ∀ p ∈ s, ∀ step ∈ p.2, P step) (t : Task) (n : Nat) : P (s.stepOf t n) := by
  unfold stepOf
  cases hget : Table.get? t.text s with
  | none => exact hend
  | some steps =>
    rw [Option.getD_some]
    cases hn : steps[n]? with
    | none => exact hend
    | some step => exact hs _ (Table.mem_of_get?_eq_some hget) step (List.mem_of_getElem? hn)

/-- A script is followed as often as runs were started, and a run that goes on remembers its step. -/
theorem followed {s : Script} {tasks ran : List Task} {going : List (GoingRun ScriptStep)}
    {state : ScriptState} (h : s.handler.Reaches tasks {} ran going state) :
    (∀ t : Task, (Table.get? t.text state.runs).getD 0 = ran.count t) ∧
      ∀ run ∈ going, ∃ n, run.number = n + 1 ∧ run.memory = s.stepOf run.task n := by
  induction h with
  | fresh => exact ⟨fun _ => rfl, fun run hrun => absurd hrun List.not_mem_nil⟩
  | @start ran going state t reaches mem ih =>
    obtain ⟨hcount, hgoing⟩ := ih
    refine ⟨fun u => ?_, List.forall_mem_cons.2 ⟨⟨ran.count t, rfl, ?_⟩, hgoing⟩⟩
    · show (Table.get? u.text (Table.insert t.text ((Table.get? t.text state.runs).getD 0 + 1)
        state.runs)).getD 0 = (ran ++ [t]).count u
      rw [List.count_append, List.count_singleton]
      by_cases htu : t = u
      · subst htu
        rw [Table.get?_insert_self, Option.getD_some, hcount, beq_self_eq_true, if_pos rfl]
      · have htext : u.text ≠ t.text := fun h => htu (Task.text_injective h).symm
        have hne : ¬ (t == u) = true := fun h => htu (beq_iff_eq.1 h)
        rw [Table.get?_insert_of_ne htext, hcount, if_neg hne, Nat.add_zero]
    · show s.stepOf t ((Table.get? t.text state.runs).getD 0) = s.stepOf t (ran.count t)
      rw [hcount]
  | finish reaches ih => exact ⟨ih.1, (List.forall_mem_cons.1 ih.2).2⟩
  | note notice reaches ih => exact ih
  | reorder reaches perm ih => exact ⟨ih.1, fun run hrun => ih.2 run (perm.mem_iff.2 hrun)⟩

/-- **A script whose steps queue nothing repeats itself.** -/
theorem repeats {s : Script} (hsilent : ∀ t n, (s.stepOf t n).queued = [])
    (hsucceeds : ∀ t n, (s.stepOf t n).failure = none ↔ succeeds t (n + 1) = true)
    (tasks : List Task) : s.handler.Repeats succeeds tasks {} where
  failure {ran run going state} hreaches := by
    obtain ⟨n, hnumber, hmemory⟩ := (followed hreaches).2 run List.mem_cons_self
    show run.memory.failure = none ↔ succeeds run.task run.number = true
    rw [hmemory, hnumber]
    exact hsucceeds run.task n
  silent {ran run going state} hreaches := by
    obtain ⟨n, -, hmemory⟩ := (followed hreaches).2 run List.mem_cons_self
    show run.memory.queued = []
    rw [hmemory]
    exact hsilent run.task n

/-- The script whose steps sleep longer. -/
def slowed (ms : Nat) (s : Script) : Script :=
  s.map fun (name, steps) => (name, steps.map fun step => { step with sleep := step.sleep + ms })

theorem stepOf_slowed (ms : Nat) (s : Script) (t : Task) (n : Nat) :
    ((s.slowed ms).stepOf t n).failure = (s.stepOf t n).failure ∧
      ((s.slowed ms).stepOf t n).queued = (s.stepOf t n).queued := by
  have hget : Table.get? t.text (s.slowed ms) =
      (Table.get? t.text s).map (·.map fun step => { step with sleep := step.sleep + ms }) :=
    Table.get?_map _ t.text s
  unfold stepOf
  rw [hget]
  cases Table.get? t.text s with
  | none => exact ⟨rfl, rfl⟩
  | some steps =>
    rw [Option.map_some, Option.getD_some, Option.getD_some, List.getElem?_map]
    cases steps[n]? <;> exact ⟨rfl, rfl⟩

end Script

end FleetReconciler
