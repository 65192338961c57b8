import FleetReconciler.Proofs.BatchRuns
import Mathlib.Data.List.Induction

/-!
# When deliveries are taken, start and end

The marks of a dispatcher are a history in which each event follows from those before it: a delivery
is taken when there is room, and a redelivery only after the delivery before it has ended; it starts
when its retry delay has passed since, at once if there is none; it ends after it has started. The
clock moves only when nothing can go on, so what is ready was taken at this very moment, or has
waited long enough.

* `Mark.Follows`, `Timely` — what a history is like;
* `Timely.length_unfinished_le` — **no more deliveries are under way than there is room for**;
* `Flight.Timed`, `Batch.Clocked` — what the history says of the deliveries in flight;
* `Batch.Clocked.kept` — **every move of a batch adds an event that follows**;
* `Batch.execute_clocked` — what a batch adds to the history.
-/

namespace FleetReconciler

/-! ## Histories -/

namespace Mark

/-- When something happened. -/
def time : Mark → Nat
  | taken t _ | started t _ | ended t _ => t

/-- The delivery that was taken. -/
def taken? : Mark → Option Delivery
  | taken _ x => some x
  | _ => none

/-- The delivery that has ended. -/
def ended? : Mark → Option Delivery
  | ended _ x => some x
  | _ => none

section Mem

variable {marks : List Mark} {x : Delivery}

theorem mem_filterMap_iff {f : Mark → Option Delivery} {mark : Nat → Delivery → Mark}
    (hf : ∀ m, f m = some x ↔ ∃ a, m = mark a x) :
    x ∈ marks.filterMap f ↔ ∃ a, mark a x ∈ marks := by
  rw [List.mem_filterMap]
  constructor
  · rintro ⟨m, hm, hx⟩
    obtain ⟨a, rfl⟩ := (hf m).1 hx
    exact ⟨a, hm⟩
  · rintro ⟨a, ha⟩
    exact ⟨_, ha, (hf _).2 ⟨a, rfl⟩⟩

theorem mem_filterMap_taken? : x ∈ marks.filterMap taken? ↔ ∃ a, taken a x ∈ marks :=
  mem_filterMap_iff fun m => by cases m <;> simp [taken?]

theorem mem_filterMap_started? : x ∈ marks.filterMap started? ↔ ∃ a, started a x ∈ marks :=
  mem_filterMap_iff fun m => by cases m <;> simp [started?]

theorem mem_filterMap_ended? : x ∈ marks.filterMap ended? ↔ ∃ a, ended a x ∈ marks :=
  mem_filterMap_iff fun m => by cases m <;> simp [ended?]

end Mem

end Mark

/-- The deliveries that are taken and not finished. -/
def unfinished (marks : List Mark) : List Delivery :=
  (marks.filterMap Mark.taken?).filter fun x => x ∉ marks.filterMap Mark.ended?

/-- An event makes no more than one delivery unfinished. -/
theorem unfinished_append_singleton (history : List Mark) (m : Mark) :
    (unfinished (history ++ [m])).length ≤ (unfinished history).length + (m.taken?).toList.length := by
  have hended : ∀ x, x ∉ (history ++ [m]).filterMap Mark.ended? →
      x ∉ history.filterMap Mark.ended? := by
    intro x hx hmem
    rw [List.filterMap_append] at hx
    exact hx (List.mem_append_left _ hmem)
  have hold : ((history.filterMap Mark.taken?).filter
      fun x => x ∉ (history ++ [m]).filterMap Mark.ended?).length ≤ (unfinished history).length := by
    refine (List.monotone_filter_right _ fun x hx => ?_).length_le
    rw [decide_eq_true_eq] at hx ⊢
    exact hended x hx
  have hnew : [m].filterMap Mark.taken? = (m.taken?).toList := by
    cases m <;> rfl
  unfold unfinished at hold ⊢
  rw [List.filterMap_append (f := Mark.taken?), List.filter_append, List.length_append, hnew]
  exact Nat.add_le_add hold (List.length_filter_le _ _)

/-- A delivery that is not the first of its task comes after the end of the one before it. -/
def Delivery.Follows (history : List Mark) (x : Delivery) : Prop :=
  x.attempt ≠ 1 → ∃ a y, y.next = x ∧ .ended a y ∈ history

/-- What has happened before an event: a delivery is taken when there is room for it, is started
after its retry delay, and ends when it has been started. -/
def Mark.Follows (s : DispatcherSettings) (history : List Mark) : Mark → Prop
  | .taken _ x => (unfinished history).length < s.width ∧ x.Follows history
  | .started b x => ∃ a, .taken a x ∈ history ∧ a + (s.delayBefore x.attempt).toNat ≤ b ∧
      ((s.delayBefore x.attempt).toNat = 0 → a = b)
  | .ended _ x => ∃ a, .started a x ∈ history

/-- A history of events in the order of their times, each of which follows from those before it. -/
inductive Timely (s : DispatcherSettings) : List Mark → Prop
  | nil : Timely s []
  | snoc {history : List Mark} {m : Mark} (timely : Timely s history)
      (late : ∀ e ∈ history, e.time ≤ m.time) (follows : m.Follows s history) :
      Timely s (history ++ [m])

namespace Timely

variable {s : DispatcherSettings} {history later : List Mark} {m : Mark}

/-- An event of a history is no earlier than those before it, and follows from them. -/
theorem of_append_singleton (h : Timely s (history ++ [m])) :
    Timely s history ∧ (∀ e ∈ history, e.time ≤ m.time) ∧ m.Follows s history := by
  generalize hmarks : history ++ [m] = marks at h
  cases h with
  | nil => exact absurd hmarks (List.append_ne_nil_of_right_ne_nil _ (List.cons_ne_nil _ _))
  | snoc timely late follows =>
    obtain ⟨rfl, heq⟩ := List.append_inj' hmarks rfl
    cases heq
    exact ⟨timely, late, follows⟩

/-- The beginning of a history is one. -/
theorem of_append (h : Timely s (history ++ later)) : Timely s history := by
  induction later using List.reverseRecOn with
  | nil => exact List.append_nil history ▸ h
  | append_singleton later m ih =>
    rw [← List.append_assoc] at h
    exact ih h.of_append_singleton.1

theorem at_mark (h : Timely s (history ++ m :: later)) :
    (∀ e ∈ history, e.time ≤ m.time) ∧ m.Follows s history := by
  rw [List.append_cons] at h
  exact h.of_append.of_append_singleton.2

/-- The times ascend. -/
theorem pairwise_time (h : Timely s history) : history.Pairwise fun e m => e.time ≤ m.time := by
  induction h with
  | nil => exact List.Pairwise.nil
  | snoc timely late follows ih =>
    exact List.pairwise_append.2 ⟨ih, List.pairwise_singleton _ _, fun e he m hm => by
      rw [List.mem_singleton.1 hm]
      exact late e he⟩

/-- **No more deliveries are taken and not finished than there is room for.** -/
theorem length_unfinished_le (h : Timely s history) : (unfinished history).length ≤ s.width := by
  induction h with
  | nil => exact Nat.zero_le _
  | @snoc history m timely late follows ih =>
    refine Nat.le_trans (unfinished_append_singleton history m) ?_
    cases m with
    | taken a x => exact follows.1
    | started a x => exact ih
    | ended a x => exact ih

end Timely

/-! ## Deliveries in flight -/

variable {σ τ : Type}

/-- What the history says of a delivery that can go on at some moment: it is taken at this moment, or
its retry delay has passed, or it has started. -/
def Flight.Timed (s : DispatcherSettings) (marks : List Mark) (now : Nat) (f : Flight τ) : Prop :=
  match f.phase with
  | .taken => .taken now f.delivery ∈ marks
  | .due => (s.delayBefore f.delivery.attempt).toNat ≠ 0 ∧ ∃ a, .taken a f.delivery ∈ marks ∧
      a + (s.delayBefore f.delivery.attempt).toNat ≤ now
  | .running _ => ∃ a, .started a f.delivery ∈ marks

namespace Flight.Timed

variable {s : DispatcherSettings} {marks : List Mark} {now : Nat} {f : Flight τ}

theorem append (h : f.Timed s marks now) (more : List Mark) : f.Timed s (marks ++ more) now := by
  obtain ⟨x, phase⟩ := f
  cases phase with
  | taken => exact List.mem_append_left _ h
  | due =>
    obtain ⟨hlate, a, ha, hpassed⟩ := h
    exact ⟨hlate, a, List.mem_append_left _ ha, hpassed⟩
  | running m =>
    obtain ⟨a, ha⟩ := h
    exact ⟨a, List.mem_append_left _ ha⟩

/-- What sleeps was not just taken, and so may go on at any later moment. -/
theorem mono (h : f.Timed s marks now) (hphase : f.phase ≠ .taken) {now' : Nat} (hle : now ≤ now') :
    f.Timed s marks now' := by
  obtain ⟨x, phase⟩ := f
  cases phase with
  | taken => exact absurd rfl hphase
  | due =>
    obtain ⟨hlate, a, ha, hpassed⟩ := h
    exact ⟨hlate, a, ha, Nat.le_trans hpassed hle⟩
  | running m => exact h

/-- A handler that starts follows from the history. -/
theorem follows {x : Delivery} {phase : Phase τ} (h : Flight.Timed s marks now ⟨x, phase⟩)
    (fresh : Batch.begun ⟨x, phase⟩ = false)
    (prompt : phase = .taken → (s.delayBefore x.attempt).toNat = 0) :
    (Mark.started now x).Follows s marks := by
  cases phase with
  | taken =>
    have hnone := prompt rfl
    exact ⟨now, h, Nat.le_of_eq (congrArg (now + ·) hnone), fun _ => rfl⟩
  | due =>
    obtain ⟨hlate, a, ha, hpassed⟩ := h
    exact ⟨a, ha, hpassed, fun hnone => absurd hnone hlate⟩
  | running m => cases fresh

end Flight.Timed

namespace Batch

variable {h : Handler σ τ} {d₀ d : Dispatcher σ} {b : Batch τ} {deliveries : List Delivery}

/-- What is so of the history while a batch of deliveries is carried out: they are taken in their
order, what is finished has ended, and what is ready can go on now. -/
structure Clocked (d₀ : Dispatcher σ) (deliveries : List Delivery) (d : Dispatcher σ) (b : Batch τ) :
    Prop where
  carries : Carries d₀ deliveries d b
  marks : ∃ ms, d.marks = d₀.marks ++ ms ∧ ms.filterMap Mark.taken? ++ b.waiting = deliveries ∧
    ms.filterMap Mark.ended? = b.finished.map Prod.fst
  clock : ∀ m ∈ d.marks, m.time ≤ d.now
  timely : Timely d₀.settings d.marks
  ready : ∀ f ∈ b.ready, f.Timed d₀.settings d.marks d.now
  asleep : ∀ s ∈ b.asleep, s.flight.phase ≠ .taken ∧
    s.flight.Timed d₀.settings d.marks s.wakes

namespace Clocked

theorem settings (hclocked : Clocked d₀ deliveries d b) : d.settings = d₀.settings := by
  obtain ⟨tasks, htasks⟩ := hclocked.carries.queued
  exact htasks.settings

/-- What is taken and not finished is in flight, if all that was taken before has ended. -/
theorem length_unfinished_le (hclocked : Clocked d₀ deliveries d b)
    (hdone : ∀ x ∈ d₀.marks.filterMap Mark.taken?, x ∈ d₀.marks.filterMap Mark.ended?) :
    (unfinished d.marks).length ≤ b.inFlight := by
  obtain ⟨ms, hmarks, htaken, hended⟩ := hclocked.marks
  have hperm : (ms.filterMap Mark.taken?).Perm
      (b.flights.map Flight.delivery ++ b.finished.map Prod.fst) := by
    have hall := hclocked.carries.deliveries
    rw [← htaken] at hall
    exact ((List.perm_append_left_iff b.waiting).1 (hall.trans List.perm_append_comm)).symm
  have hnow : d.marks.filterMap Mark.ended? =
      d₀.marks.filterMap Mark.ended? ++ b.finished.map Prod.fst := by
    rw [hmarks, List.filterMap_append, hended]
  have hold : (d₀.marks.filterMap Mark.taken?).filter
      (fun x => x ∉ d.marks.filterMap Mark.ended?) = [] := by
    refine List.filter_eq_nil_iff.2 fun x hx => ?_
    rw [decide_eq_true_eq, not_not, hnow]
    exact List.mem_append_left _ (hdone x hx)
  have hfinished : (b.finished.map Prod.fst).filter
      (fun x => x ∉ d.marks.filterMap Mark.ended?) = [] := by
    refine List.filter_eq_nil_iff.2 fun x hx => ?_
    rw [decide_eq_true_eq, not_not, hnow]
    exact List.mem_append_right _ hx
  calc (unfinished d.marks).length
      = ((ms.filterMap Mark.taken?).filter fun x => x ∉ d.marks.filterMap Mark.ended?).length := by
        have htakens : d.marks.filterMap Mark.taken? =
            d₀.marks.filterMap Mark.taken? ++ ms.filterMap Mark.taken? := by
          rw [hmarks, List.filterMap_append]
        rw [unfinished, htakens, List.filter_append, hold, List.nil_append]
    _ = ((b.flights.map Flight.delivery).filter
          fun x => x ∉ d.marks.filterMap Mark.ended?).length := by
        rw [(hperm.filter _).length_eq, List.filter_append, hfinished, List.append_nil]
    _ ≤ (b.flights.map Flight.delivery).length := List.length_filter_le _ _
    _ = b.inFlight := by
        rw [List.length_map, flights, List.length_append, List.length_map]
        rfl

/-- An event that follows is added, while the clock stands. -/
theorem mark {d' : Dispatcher σ} {b' : Batch τ} {m : Mark} (hclocked : Clocked d₀ deliveries d b)
    (hcarries : Carries d₀ deliveries d' b') (hnow : d'.now = d.now)
    (hmark : d'.marks = d.marks ++ [m]) (htime : m.time = d.now)
    (hfollows : m.Follows d₀.settings d.marks)
    (htaken : ∀ ms, ms.filterMap Mark.taken? ++ b.waiting = deliveries →
      (ms ++ [m]).filterMap Mark.taken? ++ b'.waiting = deliveries)
    (hended : ∀ ms, ms.filterMap Mark.ended? = b.finished.map Prod.fst →
      (ms ++ [m]).filterMap Mark.ended? = b'.finished.map Prod.fst)
    (hready : ∀ f ∈ b'.ready, f ∈ b.ready ∨ f.Timed d₀.settings (d.marks ++ [m]) d.now)
    (hasleep : b'.asleep = b.asleep) : Clocked d₀ deliveries d' b' := by
  obtain ⟨ms, hmarks, htakens, hendeds⟩ := hclocked.marks
  refine ⟨hcarries, ⟨ms ++ [m], ?_, htaken ms htakens, hended ms hendeds⟩, ?_, ?_, fun f hf => ?_,
    fun s hs => ?_⟩
  · rw [hmark, hmarks, List.append_assoc]
  · rw [hmark, hnow]
    exact List.forall_mem_append.2 ⟨hclocked.clock,
      List.forall_mem_singleton.2 (Nat.le_of_eq htime)⟩
  · rw [hmark]
    refine hclocked.timely.snoc (fun e he => ?_) hfollows
    rw [htime]
    exact hclocked.clock e he
  · rw [hmark, hnow]
    rcases hready f hf with hold | hnew
    · exact (hclocked.ready f hold).append [m]
    · exact hnew
  · rw [hasleep] at hs
    obtain ⟨hphase, htimed⟩ := hclocked.asleep s hs
    rw [hmark]
    exact ⟨hphase, htimed.append [m]⟩

/-- A delivery in hand goes to sleep. -/
theorem sleep {f g : Flight τ} {ms : Nat}
    (hclocked : Clocked d₀ deliveries d { b with ready := f :: b.ready })
    (hcarries : Carries d₀ deliveries d (Batch.sleep d b ms g)) (hphase : g.phase ≠ .taken)
    (htimed : g.Timed d₀.settings d.marks (d.now + ms)) :
    Clocked d₀ deliveries d (Batch.sleep d b ms g) :=
  { hclocked with
    carries := hcarries
    ready := (List.forall_mem_cons.1 hclocked.ready).2
    asleep := List.forall_mem_append.2
      ⟨hclocked.asleep, List.forall_mem_singleton.2 ⟨hphase, htimed⟩⟩ }

/-- Something happens outside while all that are in flight sleep. -/
theorem later {d' : Dispatcher σ} (hclocked : Clocked d₀ deliveries d b)
    (hcarries : Carries d₀ deliveries d' b) (hidle : b.ready = []) (hmarks : d'.marks = d.marks)
    (hnow : d.now ≤ d'.now) : Clocked d₀ deliveries d' b := by
  refine ⟨hcarries, ?_, ?_, ?_, ?_, ?_⟩
  · rw [hmarks]
    exact hclocked.marks
  · rw [hmarks]
    exact fun m hm => Nat.le_trans (hclocked.clock m hm) hnow
  · rw [hmarks]
    exact hclocked.timely
  · rw [hidle]
    exact fun f hf => absurd hf List.not_mem_nil
  · rw [hmarks]
    exact hclocked.asleep

/-- The first that are due wake while all that are in flight sleep. -/
theorem wake {time : Nat} (hclocked : Clocked d₀ deliveries d b)
    (hcarries : Carries d₀ deliveries (Batch.wake d b time).1 (Batch.wake d b time).2)
    (hidle : b.ready = []) :
    Clocked d₀ deliveries (Batch.wake d b time).1 (Batch.wake d b time).2 := by
  have hready : (Batch.wake d b time).2.ready =
      (b.asleep.filter fun s => s.wakes ≤ time).map Sleeper.flight := by
    simp only [Batch.wake, List.partition_eq_filter_filter, hidle, List.nil_append]
  have hasleep : ∀ s ∈ (Batch.wake d b time).2.asleep, s ∈ b.asleep := by
    simp only [Batch.wake, List.partition_eq_filter_filter]
    exact fun s hs => List.mem_of_mem_filter hs
  have hnow : (Batch.wake d b time).1.now = max d.now time := rfl
  refine ⟨hcarries, hclocked.marks, fun m hm => ?_, hclocked.timely, fun f hf => ?_,
    fun s hs => hclocked.asleep s (hasleep s hs)⟩
  · rw [hnow]
    exact Nat.le_trans (hclocked.clock m hm) (Nat.le_max_left _ _)
  · rw [hready] at hf
    obtain ⟨s, hs, rfl⟩ := List.mem_map.1 hf
    obtain ⟨hmem, hdue⟩ := List.mem_filter.1 hs
    obtain ⟨hphase, htimed⟩ := hclocked.asleep s hmem
    have hle : s.wakes ≤ max d.now time :=
      Nat.le_trans (of_decide_eq_true hdue) (Nat.le_max_right _ _)
    exact htimed.mono hphase hle

/-- **Every move of a batch adds an event that follows from the history**, if all that was taken
before the batch has ended and the redeliveries of the batch come after what they repeat. -/
theorem kept (hdone : ∀ x ∈ d₀.marks.filterMap Mark.taken?, x ∈ d₀.marks.filterMap Mark.ended?)
    (hpast : ∀ x ∈ deliveries, x.Follows d₀.marks) : Kept h (Clocked d₀ deliveries) := by
  intro d b d' b' hmove hclocked
  have hcarries := Carries.kept h d₀ deliveries hmove hclocked.carries
  cases hmove with
  | @take b x rest waiting room =>
    have hroom : (unfinished d.marks).length < d₀.settings.width := by
      rw [← hclocked.settings]
      exact Nat.lt_of_le_of_lt (hclocked.length_unfinished_le hdone) room
    have hfollows : x.Follows d.marks := by
      obtain ⟨ms, hmarks, htaken, -⟩ := hclocked.marks
      have hx : x ∈ deliveries := by
        rw [← htaken, waiting]
        exact List.mem_append_right _ List.mem_cons_self
      intro hattempt
      obtain ⟨a, y, hy, hended⟩ := hpast x hx hattempt
      exact ⟨a, y, hy, hmarks ▸ List.mem_append_left _ hended⟩
    refine hclocked.mark hcarries rfl rfl rfl ⟨hroom, hfollows⟩ (fun ms hms => ?_) (fun ms hms => ?_)
      (fun f hf => ?_) rfl
    · rw [← hms, waiting, List.filterMap_append, List.append_assoc]
      rfl
    · rw [List.filterMap_append, hms]
      exact List.append_nil _
    · refine (List.mem_append.1 hf).imp_right fun hnew => ?_
      rw [List.mem_singleton.1 hnew]
      exact List.mem_append_right _ (List.mem_singleton_self _)
  | @delay b x late =>
    have htaken : .taken d.now x ∈ d.marks := (List.forall_mem_cons.1 hclocked.ready).1
    rw [hclocked.settings] at late hcarries ⊢
    exact hclocked.sleep hcarries nofun ⟨late, d.now, htaken, Nat.le_refl _⟩
  | @start b x phase fresh prompt =>
    obtain ⟨hx, -⟩ := List.forall_mem_cons.1 hclocked.ready
    rw [hclocked.settings] at prompt
    refine hclocked.mark hcarries rfl rfl rfl (hx.follows fresh prompt) (fun ms hms => ?_)
      (fun ms hms => ?_) (fun f hf => ?_) rfl
    · rw [List.filterMap_append, ← hms]
      exact congrArg (· ++ b.waiting) (List.append_nil _)
    · rw [List.filterMap_append, hms]
      exact List.append_nil _
    · rcases List.mem_cons.1 hf with rfl | hf
      · exact .inr ⟨d.now, List.mem_append_right _ (List.mem_singleton_self _)⟩
      · exact .inl (List.mem_cons_of_mem _ hf)
  | @pause b x memory ms =>
    obtain ⟨hx, -⟩ := List.forall_mem_cons.1 hclocked.ready
    exact hclocked.sleep hcarries nofun hx
  | @finish b x memory =>
    obtain ⟨hx, -⟩ := List.forall_mem_cons.1 hclocked.ready
    have hmarks : (finish h d b x memory).1.marks = d.marks ++ [.ended d.now x] := by
      simp only [finish, Dispatcher.enqueueAll_eq]
      rfl
    have hnow : (finish h d b x memory).1.now = d.now := by
      simp only [finish, Dispatcher.enqueueAll_eq]
      rfl
    refine hclocked.mark hcarries hnow hmarks rfl hx (fun ms hms => ?_) (fun ms hms => ?_)
      (fun f hf => .inl (List.mem_cons_of_mem _ hf)) rfl
    · rw [List.filterMap_append, ← hms]
      exact congrArg (· ++ b.waiting) (List.append_nil _)
    · rw [List.filterMap_append, hms]
      simp only [finish, List.map_append]
      rfl
  | @receive b a rest idle arrivals =>
    have hmarks : (d.receive a rest).marks = d.marks := by
      rw [Dispatcher.receive_eq]
    have hnow : d.now ≤ (d.receive a rest).now := by
      rw [Dispatcher.receive_eq]
      exact Nat.le_max_left _ _
    exact hclocked.later hcarries idle hmarks hnow
  | wake idle first => exact hclocked.wake hcarries idle

end Clocked

/-- **What a batch adds to a timely history**: each of its deliveries is taken, in their order, is
started and ends. -/
theorem execute_clocked (h : Handler σ τ) (hclock : ∀ m ∈ d.marks, m.time ≤ d.now)
    (htimely : Timely d.settings d.marks)
    (hdone : ∀ x ∈ d.marks.filterMap Mark.taken?, x ∈ d.marks.filterMap Mark.ended?)
    (hpast : ∀ x ∈ deliveries, x.Follows d.marks) :
    let d' := (execute h d deliveries).1
    (∀ m ∈ d'.marks, m.time ≤ d'.now) ∧ Timely d.settings d'.marks ∧
      ∃ ms, d'.marks = d.marks ++ ms ∧ ms.filterMap Mark.taken? = deliveries ∧
        (ms.filterMap Mark.started?).Perm deliveries ∧
        (ms.filterMap Mark.ended?).Perm deliveries := by
  have hstart : Clocked d deliveries d ({ waiting := deliveries } : Batch τ) :=
    { carries := .of_waiting d deliveries
      marks := ⟨[], (List.append_nil _).symm, rfl, rfl⟩
      clock := hclock
      timely := htimely
      ready := fun f hf => absurd hf List.not_mem_nil
      asleep := fun s hs => absurd hs List.not_mem_nil }
  obtain ⟨b, hclocked, hfinished, hwaiting, -⟩ := (Clocked.kept (h := h) hdone hpast).execute hstart
  obtain ⟨started, -, hstarted, hperm, hresults, -⟩ := execute_spec h d deliveries
  obtain ⟨ms, hmarks, htaken, hended⟩ := hclocked.marks
  rw [hwaiting, List.append_nil] at htaken
  intro d'
  refine ⟨hclocked.clock, hclocked.timely, ms, hmarks, htaken, ?_, ?_⟩
  · have hsame : d.started ++ ms.filterMap Mark.started? = d.started ++ started := by
      rw [← hstarted, Dispatcher.started, Dispatcher.started, hmarks, List.filterMap_append]
    rw [List.append_cancel_left hsame]
    exact hperm
  · rw [hended, ← hfinished]
    exact hresults

end Batch

end FleetReconciler
