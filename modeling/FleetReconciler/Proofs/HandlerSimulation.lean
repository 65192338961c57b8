import FleetReconciler.Dispatcher.Queue

/-!
# Handlers that act alike

The dispatcher sees of a handler only how long a run sleeps and what its end leaves behind. Two
handlers on different states that agree on this lead two dispatchers through the same drain, and
whatever relates their states at the start relates them at the end.

* `Handler.Simulation` — two handlers that agree on related states;
* `Dispatcher.Alike` — two dispatchers that differ in their states only;
* `step_alike`, `execute_alike`, `settle_alike` — one step, one batch, its settling;
* `drain_alike` — **the drains agree and their states stay related**.
-/

namespace FleetReconciler

variable {σ σ' τ : Type}

/-- Two handlers agree on related states, for tasks and memories of some sort. -/
structure Handler.Simulation (h : Handler σ τ) (h' : Handler σ' τ) (R : σ → σ' → Prop)
    (Q : Task → Prop) (M : τ → Prop) : Prop where
  start : ∀ {t s s'}, Q t → R s s' → (h.start t s).1 = (h'.start t s').1 ∧
    R (h.start t s).2 (h'.start t s').2 ∧ M (h.start t s).1.2
  finish : ∀ {m s s'}, M m → R s s' → (h.finish m s).1 = (h'.finish m s').1 ∧
    R (h.finish m s).2 (h'.finish m s').2 ∧ ∀ t ∈ (h.finish m s).1.queued, Q t
  note : ∀ {n s s'}, R s s' → R (h.note n s) (h'.note n s')

/-! ## Dispatchers -/

namespace Dispatcher

/-- Two dispatchers that differ in their states only, with tasks of one sort and no arrivals. -/
structure Alike (R : σ → σ' → Prop) (Q : Task → Prop) (d : Dispatcher σ) (d' : Dispatcher σ') :
    Prop where
  settings : d'.settings = d.settings
  now : d'.now = d.now
  queue : d'.queue = d.queue
  ticket : d'.ticket = d.ticket
  arrivals : d.arrivals = []
  arrivals' : d'.arrivals = []
  marks : d'.marks = d.marks
  tasks : ∀ x ∈ d.queue, Q x.task
  state : R d.state d'.state

namespace Alike

variable {R : σ → σ' → Prop} {Q : Task → Prop} {d : Dispatcher σ} {d' : Dispatcher σ'}

theorem mark (h : d.Alike R Q d') {m m' : Mark} (hm : m' = m) :
    (d.mark m).Alike R Q (d'.mark m') :=
  { h with marks := by simp [Dispatcher.mark, h.marks, hm] }

theorem onto (h : d.Alike R Q d') {s : σ} {s' : σ'} (hs : R s s') :
    ({ d with state := s }).Alike R Q { d' with state := s' } :=
  { h with state := hs }

theorem enqueueAll (h : d.Alike R Q d') {ts : List Task} (hts : ∀ t ∈ ts, Q t) :
    (d.enqueueAll ts).Alike R Q (d'.enqueueAll ts) := by
  induction ts generalizing d d' with
  | nil => exact h
  | cons t ts ih =>
    have henqueue : (d.enqueue t).Alike R Q (d'.enqueue t) :=
      { h with
        queue := by simp [Dispatcher.enqueue, h.queue, h.ticket]
        ticket := by simp [Dispatcher.enqueue, h.ticket]
        tasks := by
          intro x hx
          rcases List.mem_append.1 hx with hx | hx
          · exact h.tasks x hx
          · rw [List.mem_singleton.1 hx]
            exact hts t List.mem_cons_self }
    exact ih henqueue fun u hu => hts u (List.mem_cons_of_mem _ hu)

end Alike

end Dispatcher

/-! ## Batches -/

namespace Batch

/-- The deliveries of a batch have tasks of one sort, and their runs memories of one sort. -/
structure Sorted (Q : Task → Prop) (M : τ → Prop) (b : Batch τ) : Prop where
  waiting : ∀ x ∈ b.waiting, Q x.task
  ready : ∀ f ∈ b.ready, Q f.delivery.task ∧ ∀ m, f.phase = .running m → M m
  asleep : ∀ s ∈ b.asleep, Q s.flight.delivery.task ∧ ∀ m, s.flight.phase = .running m → M m
  finished : ∀ p ∈ b.finished, Q p.1.task

variable {h : Handler σ τ} {h' : Handler σ' τ} {R : σ → σ' → Prop} {Q : Task → Prop}
  {M : τ → Prop} {d : Dispatcher σ} {d' : Dispatcher σ'} {b : Batch τ}

/-- Two outcomes of a step that go on alike. -/
def AlikeStep (R : σ → σ' → Prop) (Q : Task → Prop) (M : τ → Prop) (p : Dispatcher σ × Batch τ)
    (p' : Dispatcher σ' × Batch τ) : Prop :=
  p.1.Alike R Q p'.1 ∧ p.2 = p'.2 ∧ p.2.Sorted Q M

theorem finish_alike (sim : h.Simulation h' R Q M) (hd : d.Alike R Q d') (hb : b.Sorted Q M)
    {x : Delivery} {m : τ} (hx : Q x.task) (hm : M m) :
    AlikeStep R Q M (finish h d b x m) (finish h' d' b x m) := by
  have hfinish := sim.finish hm hd.state
  unfold finish
  generalize h.finish m d.state = p at hfinish ⊢
  generalize h'.finish m d'.state = p' at hfinish ⊢
  obtain ⟨outcome, s⟩ := p
  obtain ⟨outcome', s'⟩ := p'
  obtain ⟨heq, hrest, hqueued⟩ := hfinish
  obtain rfl : outcome = outcome' := heq
  refine ⟨((hd.onto hrest).enqueueAll hqueued).mark (by rw [hd.now]), rfl, ?_⟩
  refine { hb with finished := fun p hp => ?_ }
  rcases List.mem_append.1 hp with hp | hp
  · exact hb.finished p hp
  · rw [List.mem_singleton.1 hp]
    exact hx

theorem sleep_sorted (hb : b.Sorted Q M) (d : Dispatcher σ) (ms : Nat) {f : Flight τ}
    (hf : Q f.delivery.task ∧ ∀ m, f.phase = .running m → M m) : (sleep d b ms f).Sorted Q M := by
  refine { hb with asleep := fun s hs => ?_ }
  rcases List.mem_append.1 hs with hs | hs
  · exact hb.asleep s hs
  · rw [List.mem_singleton.1 hs]
    exact hf

theorem sleep_eq (hd : d.Alike R Q d') (b : Batch τ) (ms : Nat) (f : Flight τ) :
    sleep d' b ms f = sleep d b ms f := by
  simp [sleep, hd.now]

theorem start_alike (sim : h.Simulation h' R Q M) (hd : d.Alike R Q d') (hb : b.Sorted Q M)
    {x : Delivery} (hx : Q x.task) : AlikeStep R Q M (start h d b x) (start h' d' b x) := by
  have hstart := sim.start hx hd.state
  unfold start
  generalize h.start x.task d.state = p at hstart ⊢
  generalize h'.start x.task d'.state = p' at hstart ⊢
  obtain ⟨⟨ms, memory⟩, s⟩ := p
  obtain ⟨⟨ms', memory'⟩, s'⟩ := p'
  obtain ⟨heq, hrest, hm⟩ := hstart
  obtain ⟨rfl, rfl⟩ : ms = ms' ∧ memory = memory' := Prod.mk.inj heq
  have hmarks : Mark.started d'.now x = .started d.now x := by rw [hd.now]
  have hstarted := (hd.onto hrest).mark hmarks
  simp only
  split
  · exact finish_alike sim hstarted hb hx hm
  · refine ⟨hstarted, (sleep_eq hstarted b _ _).symm, sleep_sorted hb _ _ ⟨hx, fun m h => ?_⟩⟩
    cases h
    exact hm

theorem resume_alike (sim : h.Simulation h' R Q M) (hd : d.Alike R Q d') (hb : b.Sorted Q M)
    {f : Flight τ} (hf : Q f.delivery.task ∧ ∀ m, f.phase = .running m → M m) :
    AlikeStep R Q M (resume h d b f) (resume h' d' b f) := by
  unfold resume
  cases hphase : f.phase with
  | taken =>
    simp only [hd.settings]
    split
    · exact start_alike sim hd hb hf.1
    · exact ⟨hd, (sleep_eq hd b _ _).symm, sleep_sorted hb _ _ ⟨hf.1, fun m h => by cases h⟩⟩
  | due => exact start_alike sim hd hb hf.1
  | running m => exact finish_alike sim hd hb hf.1 (hf.2 m hphase)

/-- When everything waits, only the clock moves, as nothing arrives. -/
theorem idle_alike (hd : d.Alike R Q d') (hb : b.Sorted Q M) :
    (step.idle d b = none ∧ step.idle d' b = none) ∨
      ∃ p p', step.idle d b = some p ∧ step.idle d' b = some p' ∧ AlikeStep R Q M p p' := by
  unfold step.idle
  cases b.firstWake? with
  | none => exact .inl ⟨rfl, rfl⟩
  | some time =>
    simp only [arrival?, hd.arrivals, hd.arrivals']
    refine .inr ⟨_, _, rfl, rfl, ?_⟩
    unfold wake
    refine ⟨{ hd with now := by simp [hd.now] }, rfl, ?_⟩
    have hasleep : ∀ s ∈ b.asleep, Q s.flight.delivery.task ∧
        ∀ m, s.flight.phase = .running m → M m := hb.asleep
    refine { hb with ready := fun f hf => ?_, asleep := fun s hs => ?_ }
    · rcases List.mem_append.1 hf with hf | hf
      · exact hb.ready f hf
      · obtain ⟨s, hs, rfl⟩ := List.mem_map.1 hf
        simp only [List.partition_eq_filter_filter] at hs
        exact hasleep s (List.mem_filter.1 hs).1
    · simp only [List.partition_eq_filter_filter] at hs
      exact hasleep s (List.mem_filter.1 hs).1

theorem resume_first (sim : h.Simulation h' R Q M) (hd : d.Alike R Q d') {waiting : List Delivery}
    {f : Flight τ} {ready : List (Flight τ)} {asleep : List (Sleeper τ)}
    {finished : List (Delivery × Option Failure)}
    (hb : Sorted Q M ⟨waiting, f :: ready, asleep, finished⟩) :
    AlikeStep R Q M (resume h d ⟨waiting, ready, asleep, finished⟩ f)
      (resume h' d' ⟨waiting, ready, asleep, finished⟩ f) := by
  have hrest : Sorted Q M ⟨waiting, ready, asleep, finished⟩ :=
    { hb with ready := fun g hg => hb.ready g (List.mem_cons_of_mem _ hg) }
  exact resume_alike sim hd hrest (hb.ready f List.mem_cons_self)

/-- Both dispatchers make a step, or neither does. -/
theorem step_alike (sim : h.Simulation h' R Q M) (hd : d.Alike R Q d') (hb : b.Sorted Q M) :
    (step h d b = none ∧ step h' d' b = none) ∨
      ∃ p p', step h d b = some p ∧ step h' d' b = some p' ∧ AlikeStep R Q M p p' := by
  obtain ⟨waiting, ready, asleep, finished⟩ := b
  unfold step
  cases waiting with
  | nil =>
    cases ready with
    | nil => exact idle_alike hd hb
    | cons f ready => exact .inr ⟨_, _, rfl, rfl, resume_first sim hd hb⟩
  | cons x rest =>
    simp only [hd.settings]
    by_cases hroom : inFlight ⟨x :: rest, ready, asleep, finished⟩ < d.settings.width
    · rw [if_pos hroom, if_pos hroom]
      refine .inr ⟨_, _, rfl, rfl, hd.mark (by rw [hd.now]), rfl, ?_⟩
      refine { hb with waiting := fun y hy => ?_, ready := fun f hf => ?_ }
      · exact hb.waiting y (List.mem_cons_of_mem _ hy)
      · rcases List.mem_append.1 hf with hf | hf
        · exact hb.ready f hf
        · rw [List.mem_singleton.1 hf]
          exact ⟨hb.waiting x List.mem_cons_self, fun m h => by cases h⟩
    · rw [if_neg hroom, if_neg hroom]
      cases ready with
      | nil => exact idle_alike hd hb
      | cons f ready => exact .inr ⟨_, _, rfl, rfl, resume_first sim hd hb⟩

theorem run_alike (sim : h.Simulation h' R Q M) (fuel : Nat) (hd : d.Alike R Q d')
    (hb : b.Sorted Q M) : AlikeStep R Q M (run h fuel d b) (run h' fuel d' b) := by
  induction fuel generalizing d d' b with
  | zero => exact ⟨hd, rfl, hb⟩
  | succ fuel ih =>
    unfold run
    rcases step_alike sim hd hb with ⟨hnone, hnone'⟩ | ⟨⟨d₁, b₁⟩, ⟨d₁', b₁'⟩, hp, hp', hd₁, heq, hb₁⟩
    · rw [hnone, hnone']
      exact ⟨hd, rfl, hb⟩
    · obtain rfl : b₁ = b₁' := heq
      rw [hp, hp']
      exact ih hd₁ hb₁

theorem execute_alike (sim : h.Simulation h' R Q M) (hd : d.Alike R Q d')
    {deliveries : List Delivery} (hdeliveries : ∀ x ∈ deliveries, Q x.task) :
    (execute h d deliveries).1.Alike R Q (execute h' d' deliveries).1 ∧
      (execute h' d' deliveries).2 = (execute h d deliveries).2 ∧
      ∀ p ∈ (execute h d deliveries).2, Q p.1.task := by
  have hb : ({ waiting := deliveries } : Batch τ).Sorted Q M :=
    ⟨hdeliveries, by simp, by simp, by simp⟩
  have hweight : weight d' ({ waiting := deliveries } : Batch τ) =
      weight d ({ waiting := deliveries } : Batch τ) := by
    simp [weight, hd.arrivals, hd.arrivals']
  obtain ⟨hd₁, heq, hb₁⟩ := run_alike sim (weight d ({ waiting := deliveries } : Batch τ)) hd hb
  unfold execute
  simp only [hweight]
  exact ⟨hd₁, congrArg finished heq.symm, hb₁.finished⟩

end Batch

/-! ## Drains -/

namespace Dispatcher

variable {h : Handler σ τ} {h' : Handler σ' τ} {R : σ → σ' → Prop} {Q : Task → Prop}
  {M : τ → Prop}

/-- Two dispatchers that are alike, with the same report. -/
def AlikeReport (R : σ → σ' → Prop) (Q : Task → Prop) (p : Dispatcher σ × Report)
    (p' : Dispatcher σ' × Report) : Prop :=
  p.1.Alike R Q p'.1 ∧ p'.2 = p.2

theorem settleOne_alike (sim : h.Simulation h' R Q M) {p : Dispatcher σ × Report}
    {p' : Dispatcher σ' × Report} (hp : AlikeReport R Q p p') {x : Delivery × Option Failure}
    (hx : Q x.1.task) : AlikeReport R Q (settleOne h p x) (settleOne h' p' x) := by
  obtain ⟨d, report⟩ := p
  obtain ⟨d', report'⟩ := p'
  obtain ⟨hd, rfl⟩ : d.Alike R Q d' ∧ report' = report := hp
  have hverdict : x.1.verdict d'.settings x.2 = x.1.verdict d.settings x.2 := by rw [hd.settings]
  have hnoted : ∀ n, ({ d with state := h.note n d.state }).Alike R Q
      { d' with state := h'.note n d'.state } := fun n => hd.onto (sim.note hd.state)
  have hrequeued : ∀ {e : Dispatcher σ} {e' : Dispatcher σ'}, e.Alike R Q e' →
      ({ e with queue := e.queue ++ [x.1.next] }).Alike R Q
        { e' with queue := e'.queue ++ [x.1.next] } := by
    intro e e' he
    refine { he with queue := by simp [he.queue], tasks := fun y hy => ?_ }
    rcases List.mem_append.1 hy with hy | hy
    · exact he.tasks y hy
    · rw [List.mem_singleton.1 hy]
      exact hx
  unfold settleOne
  simp only [hverdict]
  cases x.1.verdict d.settings x.2 with
  | success => exact ⟨hd, rfl⟩
  | redelivery f =>
    exact ⟨hrequeued (hnoted (.redelivering x.1.task x.1.attempt.toNat f)), rfl⟩
  | drop f => exact ⟨hnoted (.dropped x.1.task x.1.attempt.toNat f), rfl⟩

theorem settle_alike (sim : h.Simulation h' R Q M) {p : Dispatcher σ × Report}
    {p' : Dispatcher σ' × Report} (hp : AlikeReport R Q p p')
    {results : List (Delivery × Option Failure)} (hresults : ∀ x ∈ results, Q x.1.task) :
    AlikeReport R Q (settle h p results) (settle h' p' results) := by
  induction results generalizing p p' with
  | nil => exact hp
  | cons x results ih =>
    exact ih (settleOne_alike sim hp (hresults x List.mem_cons_self))
      fun y hy => hresults y (List.mem_cons_of_mem _ hy)

theorem batch_alike (sim : h.Simulation h' R Q M) {p : Dispatcher σ × Report}
    {p' : Dispatcher σ' × Report} (hp : AlikeReport R Q p p') :
    AlikeReport R Q (batch h p) (batch h' p') := by
  obtain ⟨d, report⟩ := p
  obtain ⟨d', report'⟩ := p'
  obtain ⟨hd, rfl⟩ : d.Alike R Q d' ∧ report' = report := hp
  have hempty : ({ d with queue := [] }).Alike R Q { d' with queue := [] } :=
    { hd with queue := rfl, tasks := by simp }
  obtain ⟨hexecuted, hresults, htasks⟩ := Batch.execute_alike sim hempty hd.tasks
  unfold batch
  simp only [hd.queue, hresults]
  exact settle_alike sim ⟨hexecuted, rfl⟩ htasks

/-- **The drains of two dispatchers that are alike agree, and their states stay related.** -/
theorem drain_alike (sim : h.Simulation h' R Q M) (rounds : Nat) {d : Dispatcher σ}
    {d' : Dispatcher σ'} (hd : d.Alike R Q d') :
    AlikeReport R Q (drain h rounds d) (drain h' rounds d') := by
  have hgo : ∀ (rounds : Nat) {p : Dispatcher σ × Report} {p' : Dispatcher σ' × Report},
      AlikeReport R Q p p' → AlikeReport R Q (drainFrom h rounds p) (drainFrom h' rounds p') := by
    intro rounds
    induction rounds with
    | zero => exact fun hp => hp
    | succ rounds ih =>
      intro p p' hp
      unfold drainFrom
      rw [hp.1.queue]
      split
      · exact hp
      · exact ih (batch_alike sim hp)
  exact hgo rounds ⟨hd, rfl⟩

end Dispatcher

end FleetReconciler
