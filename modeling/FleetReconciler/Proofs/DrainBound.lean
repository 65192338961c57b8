import FleetReconciler.Dispatcher.Script
import FleetReconciler.Proofs.DeliveryLedger

/-!
# How long a drain takes

The queue of a drain is emptied and filled again: failed deliveries go back to it, and handlers
queue more tasks, of which each may fail in turn. It comes to an end all the same if the handlers
have a budget of tasks that they can queue. The measure that falls is

  most runs of a task × budget that is left + runs that the queued deliveries have left,

and it falls by one with every run: a redelivery has one run less than the failed delivery, and a
task that a handler queues has all of its runs, which the budget pays for. So the measure at the
start bounds the runs of the whole drain.

* `Handler.Budgeted` — a handler that queues no more than its budget;
* `DispatcherSettings.left`, `Dispatcher.potential` — the runs that are left, and the measure;
* `Batch.spends_kept` — what the moves of a batch take from the budget;
* `Dispatcher.drainFrom_ends` — **a drain ends if its batches use up a measure**;
* `Draining.batch` — every run of a batch is paid for;
* `Script.budgeted` — the budget of a script is what its steps still queue;
* `scripted_drain_ends` — **a drain by a script ends, and how many runs it has at most**.
-/

namespace FleetReconciler

variable {σ τ : Type}

/-! ## Handlers with a budget -/

/-- A handler that queues no more tasks than it has a budget for. A run that starts sets apart what
it may queue when it ends. -/
structure Handler.Budgeted (h : Handler σ τ) (budget : σ → Nat) (cost : τ → Nat) : Prop where
  start : ∀ t s, budget (h.start t s).2 + cost (h.start t s).1.2 ≤ budget s
  finish : ∀ m s, budget (h.finish m s).2 + (h.finish m s).1.queued.length ≤ budget s + cost m
  note : ∀ n s, budget (h.note n s) ≤ budget s

/-- What a delivery in flight has set apart. -/
def Phase.pledged (cost : τ → Nat) : Phase τ → Nat
  | .running m => cost m
  | _ => 0

theorem Phase.pledged_of_fresh {cost : τ → Nat} {x : Delivery} {phase : Phase τ}
    (h : Batch.begun ⟨x, phase⟩ = false) : phase.pledged cost = 0 := by
  cases phase with
  | running m => cases h
  | _ => rfl

namespace Batch

variable {h : Handler σ τ} {budget : σ → Nat} {cost : τ → Nat}

/-- What the deliveries in flight have set apart. -/
def pledged (cost : τ → Nat) (b : Batch τ) : Nat := total (fun f => f.phase.pledged cost) b.flights

@[simp] theorem pledged_ready_cons (cost : τ → Nat) (b : Batch τ) (f : Flight τ) :
    Batch.pledged cost { b with ready := f :: b.ready } = f.phase.pledged cost + b.pledged cost := rfl

@[simp] theorem pledged_sleep (cost : τ → Nat) (d : Dispatcher σ) (b : Batch τ) (ms : Nat)
    (f : Flight τ) : Batch.pledged cost (sleep d b ms f) = f.phase.pledged cost + b.pledged cost :=
  total_perm _ (flights_sleep d b ms f)

/-- While a batch is carried out and nothing arrives, the tickets given, the budget that is left and
what is set apart come to no more than a limit. -/
structure Spends (budget : σ → Nat) (cost : τ → Nat) (limit : Nat) (d : Dispatcher σ) (b : Batch τ) :
    Prop where
  arrivals : d.arrivals = []
  spent : d.ticket + budget d.state + b.pledged cost ≤ limit

/-- **No move of a batch overdraws the budget.** -/
theorem spends_kept (hb : h.Budgeted budget cost) (limit : Nat) :
    Kept h (Spends budget cost limit) := by
  intro d b d' b' hmove hspends
  obtain ⟨harrivals, hspent⟩ := hspends
  cases hmove with
  | @take b x rest waiting room =>
    have hpledged : Batch.pledged cost ({ b with waiting := rest, ready := b.ready ++ [⟨x, .taken⟩] }) =
        b.pledged cost := by
      simp [Batch.pledged, flights, Phase.pledged]
    refine ⟨harrivals, ?_⟩
    rw [hpledged]
    exact hspent
  | delay late =>
    refine ⟨harrivals, ?_⟩
    simp only [pledged_ready_cons, pledged_sleep, Phase.pledged] at hspent ⊢
    omega
  | @start b x phase fresh prompt =>
    refine ⟨harrivals, ?_⟩
    have hstart := hb.start x.task d.state
    simp only [pledged_ready_cons, Phase.pledged_of_fresh fresh] at hspent
    show d.ticket + budget (h.start x.task d.state).2 +
      (cost (h.start x.task d.state).1.2 + b.pledged cost) ≤ limit
    omega
  | pause ms =>
    refine ⟨harrivals, ?_⟩
    simp only [pledged_ready_cons, pledged_sleep] at hspent ⊢
    omega
  | @finish b x memory =>
    have hfinish := hb.finish memory d.state
    simp only [pledged_ready_cons, Phase.pledged] at hspent
    simp only [finish, Dispatcher.enqueueAll_eq]
    refine ⟨harrivals, ?_⟩
    show d.ticket + (h.finish memory d.state).1.queued.length +
      budget (h.finish memory d.state).2 + b.pledged cost ≤ limit
    omega
  | receive idle arrivals =>
    rw [harrivals] at arrivals
    cases arrivals
  | @wake b time idle first =>
    have hpledged : Batch.pledged cost (wake d b time).2 = b.pledged cost :=
      total_perm _ (flights_wake d b time)
    refine ⟨harrivals, ?_⟩
    rw [hpledged]
    exact hspent

end Batch

/-! ## The runs that are left -/

/-- How often a delivery and its redeliveries are run at most. -/
def DispatcherSettings.left (s : DispatcherSettings) (x : Delivery) : Nat :=
  s.mostRuns + 1 - x.attempt.toNat

/-- Whether a delivery may be made: its attempt is one of those that the settings allow. -/
def DispatcherSettings.Allows (s : DispatcherSettings) (x : Delivery) : Prop :=
  1 ≤ x.attempt.toNat ∧ x.attempt.toNat ≤ s.mostRuns

namespace DispatcherSettings

variable {s : DispatcherSettings}

theorem one_le_mostRuns (s : DispatcherSettings) : 1 ≤ s.mostRuns := Nat.le_max_left _ _

theorem Allows.one_le_left {x : Delivery} (h : s.Allows x) : 1 ≤ s.left x := by
  obtain ⟨-, hmost⟩ := h
  unfold left
  omega

theorem allows_of_mem_firstDeliveries {ticket : Nat} {tasks : List Task} {x : Delivery}
    (h : x ∈ firstDeliveries ticket tasks) : s.Allows x := by
  have hone : x.attempt.toNat = 1 := by
    rw [attempt_of_mem_firstDeliveries h]
    rfl
  refine ⟨by omega, ?_⟩
  rw [hone]
  exact s.one_le_mostRuns

/-- A task that is queued has all its runs left. -/
theorem total_left_firstDeliveries (s : DispatcherSettings) (ticket : Nat) (tasks : List Task) :
    total s.left (firstDeliveries ticket tasks) = s.mostRuns * tasks.length := by
  induction tasks generalizing ticket with
  | nil => rfl
  | cons t tasks ih =>
    have hfirst : s.left ⟨ticket, t, 1⟩ = s.mostRuns := Nat.add_sub_cancel _ 1
    rw [firstDeliveries, total_cons, ih, hfirst, List.length_cons, Nat.mul_succ, Nat.add_comm]

/-- An attempt below the last one has a successor: the sum does not wrap around. -/
theorem toNat_attempt_next {x : Delivery} (h : x.attempt < s.maxAttempts) :
    x.next.attempt.toNat = x.attempt.toNat + 1 := by
  have hbelow : x.attempt.toNat < s.maxAttempts.toNat := UInt32.lt_iff_toNat_lt.1 h
  have hsmall := s.maxAttempts.toNat_lt
  show (x.attempt + 1).toNat = x.attempt.toNat + 1
  rw [UInt32.toNat_add]
  exact Nat.mod_eq_of_lt (show x.attempt.toNat + 1 < 2 ^ 32 by omega)

/-- A redelivery may be made, and has one run less left. -/
theorem left_redelivery {x : Delivery × Option Failure} {y : Delivery} (hx : s.Allows x.1)
    (h : redelivery? s x = some y) : s.Allows y ∧ s.left y + 1 = s.left x.1 := by
  obtain ⟨x, failure⟩ := x
  cases failure with
  | none => cases h
  | some f =>
    rcases failed_cases s x f with ⟨-, -, hnone⟩ | ⟨hlt, -, hnext⟩
    · rw [hnone] at h
      cases h
    · rw [hnext] at h
      cases h
      have hmost : s.mostRuns = max 1 s.maxAttempts.toNat := rfl
      have hone : 1 ≤ x.attempt.toNat := hx.1
      have hbelow : x.attempt.toNat < s.maxAttempts.toNat := UInt32.lt_iff_toNat_lt.1 hlt
      have hsucc : (x.attempt + 1).toNat = x.attempt.toNat + 1 := toNat_attempt_next hlt
      show (1 ≤ (x.attempt + 1).toNat ∧ (x.attempt + 1).toNat ≤ s.mostRuns) ∧
        s.mostRuns + 1 - (x.attempt + 1).toNat + 1 = s.mostRuns + 1 - x.attempt.toNat
      omega

/-- The redeliveries have at least as many runs less left as there were deliveries. -/
theorem total_left_redeliveries {results : List (Delivery × Option Failure)}
    (h : ∀ x ∈ results, s.Allows x.1) :
    total s.left (results.filterMap (redelivery? s)) + results.length ≤
      total s.left (results.map Prod.fst) := by
  induction results with
  | nil => exact Nat.le_refl _
  | cons x results ih =>
    obtain ⟨hx, hrest⟩ := List.forall_mem_cons.1 h
    have hone := hx.one_le_left
    have hle := ih hrest
    rw [List.filterMap_cons, List.map_cons, total_cons, List.length_cons]
    cases hy : redelivery? s x with
    | none =>
      simp only
      omega
    | some y =>
      obtain ⟨-, hless⟩ := left_redelivery hx hy
      simp only [total_cons]
      omega

end DispatcherSettings

/-! ## Drains -/

namespace Dispatcher

variable {h : Handler σ τ} {budget : σ → Nat} {cost : τ → Nat}

/-- **A drain ends if its batches use up a measure**, as much of it as there are deliveries. It then
has no more runs than the measure says. -/
theorem drainFrom_ends {P : Dispatcher σ → Prop} {f : Dispatcher σ → Nat}
    (hbatch : ∀ d report, P d →
      P (batch h (d, report)).1 ∧ f (batch h (d, report)).1 + d.queue.length ≤ f d)
    {rounds : Nat} {p : Dispatcher σ × Report} (hp : P p.1) (hrounds : f p.1 ≤ rounds) :
    P (drainFrom h rounds p).1 ∧ (drainFrom h rounds p).1.queue = [] ∧
      (drainFrom h rounds p).1.started.length ≤ p.1.started.length + f p.1 := by
  induction rounds generalizing p with
  | zero =>
    obtain ⟨-, hless⟩ := hbatch p.1 p.2 hp
    have hempty : p.1.queue.length = 0 := by omega
    exact ⟨hp, List.length_eq_zero_iff.1 hempty, Nat.le_add_right _ _⟩
  | succ rounds ih =>
    unfold drainFrom
    split
    · rename_i hempty
      exact ⟨hp, hempty, Nat.le_add_right _ _⟩
    · rename_i hqueue
      obtain ⟨d, report⟩ := p
      obtain ⟨hnext, hless⟩ := hbatch d report hp
      obtain ⟨started, -, hstarted, hperm, -⟩ := batch_spec h d report
      have hlength : (batch h (d, report)).1.started.length = d.started.length + d.queue.length := by
        rw [hstarted, List.length_append, hperm.length_eq]
      have hpos : 0 < d.queue.length := List.length_pos_iff.2 hqueue
      simp only at hrounds
      obtain ⟨hend, hempty, hruns⟩ := ih (p := batch h (d, report)) hnext (by omega)
      refine ⟨hend, hempty, Nat.le_trans hruns ?_⟩
      simp only
      omega

/-- The measure of a drain: the runs that are left to the queue and to what may still be queued. -/
def potential (budget : σ → Nat) (d : Dispatcher σ) : Nat :=
  d.settings.mostRuns * budget d.state + total d.settings.left d.queue

/-- What is so of a dispatcher between the batches of a drain while nothing arrives. -/
structure Draining (d : Dispatcher σ) : Prop where
  arrivals : d.arrivals = []
  allowed : ∀ x ∈ d.queue, d.settings.Allows x

/-- **Every run of a batch is paid for**: what is queued comes from the budget, and the measure falls
by the number of the deliveries. -/
theorem Draining.batch {d : Dispatcher σ} (hd : d.Draining) (hb : h.Budgeted budget cost)
    (report : Report) :
    let d' := (Dispatcher.batch h (d, report)).1
    d'.Draining ∧ d'.potential budget + d.queue.length ≤ d.potential budget := by
  obtain ⟨-, tasks, -, -, hresults, -, hqueue, hticket, hsettings, -⟩ := batch_spec h d report
  have hspends : Batch.Spends budget cost (d.ticket + budget d.state) { d with queue := [] }
      ({ waiting := d.queue } : Batch τ) := ⟨hd.arrivals, Nat.le_refl _⟩
  obtain ⟨b, ⟨harrivals, hspent⟩, -⟩ := (Batch.spends_kept hb _).execute hspends
  intro d'
  have hpaid : d'.ticket + budget d'.state ≤ d.ticket + budget d.state := by
    have hticket' : d'.ticket = (Batch.execute h { d with queue := [] } d.queue).1.ticket :=
      (settle_spec h _ report _).2.1
    have hnoted : budget d'.state ≤
        budget (Batch.execute h { d with queue := [] } d.queue).1.state :=
      settle_state (P := fun s => budget s ≤ _) (fun n s hs => Nat.le_trans (hb.note n s) hs)
        (Nat.le_refl _) _
    omega
  have hrest : d'.arrivals = (Batch.execute h { d with queue := [] } d.queue).1.arrivals :=
    (settle_rest h _ _).2.2
  generalize Batch.execute h { d with queue := [] } d.queue = executed at *
  have hall : ∀ x ∈ executed.2, d.settings.Allows x.1 := fun x hx =>
    hd.allowed _ (hresults.subset (List.mem_map_of_mem hx))
  refine ⟨⟨hrest.trans harrivals, fun x hx => ?_⟩, ?_⟩
  · rw [hsettings]
    rw [hqueue, List.mem_append] at hx
    rcases hx with hx | hx
    · exact DispatcherSettings.allows_of_mem_firstDeliveries hx
    · obtain ⟨y, hy, hxy⟩ := List.mem_filterMap.1 hx
      exact (DispatcherSettings.left_redelivery (hall y hy) hxy).1
  · have hlength : executed.2.length = d.queue.length := by
      rw [← hresults.length_eq, List.length_map]
    have hleft := DispatcherSettings.total_left_redeliveries hall
    rw [total_perm _ hresults, hlength] at hleft
    replace hticket : d'.ticket = d.ticket + tasks.length := hticket
    have hstate : budget d'.state + tasks.length ≤ budget d.state := by omega
    have hmost := Nat.mul_le_mul_left d.settings.mostRuns hstate
    rw [Nat.mul_add] at hmost
    unfold potential
    rw [hsettings, hqueue, total_append, DispatcherSettings.total_left_firstDeliveries]
    omega

end Dispatcher

/-! ## Scripts -/

namespace Script

/-- What the steps of an entry that have not been run yet queue. -/
def unspentOf (runs : Table Nat) (p : String × List ScriptStep) : Nat :=
  total (fun step => step.queued.length) (p.2.drop ((Table.get? p.1 runs).getD 0))

/-- What the steps of a script that have not been run yet queue. -/
def unspent (s : Script) (state : ScriptState) : Nat := total (unspentOf state.runs) s

/-- The steps from the n-th on queue what the n-th does and those after it. -/
theorem total_drop (steps : List ScriptStep) (n : Nat) :
    total (fun step => step.queued.length) (steps.drop n) =
      ((steps[n]?).getD {}).queued.length +
        total (fun step => step.queued.length) (steps.drop (n + 1)) := by
  by_cases hn : n < steps.length
  · rw [List.drop_eq_getElem_cons hn, total_cons, List.getElem?_eq_getElem hn, Option.getD_some]
  · have hle : steps.length ≤ n := Nat.le_of_not_lt hn
    rw [List.drop_eq_nil_of_le hle, List.drop_eq_nil_of_le (Nat.le_succ_of_le hle),
      List.getElem?_eq_none hle]
    rfl

section Start

variable {name : String} {runs : Table Nat} {n : Nat}

/-- A run of the task of an entry takes what its step queues from what is left of the entry. -/
theorem unspentOf_insert_self (hn : (Table.get? name runs).getD 0 = n) (steps : List ScriptStep) :
    unspentOf runs (name, steps) =
      ((steps[n]?).getD {}).queued.length +
        unspentOf (Table.insert name (n + 1) runs) (name, steps) := by
  unfold unspentOf
  rw [Table.get?_insert_self, hn, Option.getD_some]
  exact total_drop steps n

theorem unspentOf_insert_of_ne {p : String × List ScriptStep} (hname : p.1 ≠ name) :
    unspentOf (Table.insert name (n + 1) runs) p = unspentOf runs p := by
  unfold unspentOf
  rw [Table.get?_insert_of_ne hname]

theorem unspentOf_insert_le (hn : (Table.get? name runs).getD 0 = n)
    (p : String × List ScriptStep) :
    unspentOf (Table.insert name (n + 1) runs) p ≤ unspentOf runs p := by
  by_cases hname : p.1 = name
  · obtain ⟨_, steps⟩ := p
    subst hname
    rw [unspentOf_insert_self hn]
    exact Nat.le_add_left _ _
  · exact Nat.le_of_eq (unspentOf_insert_of_ne hname)

/-- A run of a task takes what its step queues from what is left of the script. -/
theorem unspent_insert (hn : (Table.get? name runs).getD 0 = n) (s : Script) :
    total (unspentOf (Table.insert name (n + 1) runs)) s +
      ((((Table.get? name s).getD [])[n]?).getD {}).queued.length ≤ total (unspentOf runs) s := by
  induction s with
  | nil => exact Nat.le_refl _
  | cons p entries ih =>
    obtain ⟨entry, steps⟩ := p
    rw [total_cons, total_cons, Table.get?]
    by_cases hname : name = entry
    · -- the first entry counts; of others with this name the steps are only skipped
      subst hname
      have hself := unspentOf_insert_self hn steps
      have hskipped : ∀ l : Script, total (unspentOf (Table.insert name (n + 1) runs)) l ≤
          total (unspentOf runs) l := by
        intro l
        induction l with
        | nil => exact Nat.le_refl _
        | cons q l ih => exact Nat.add_le_add (unspentOf_insert_le hn q) ih
      have hrest := hskipped entries
      rw [if_pos rfl, Option.getD_some]
      omega
    · have hother : unspentOf (Table.insert name (n + 1) runs) (entry, steps) =
          unspentOf runs (entry, steps) := unspentOf_insert_of_ne (Ne.symm hname)
      rw [if_neg hname, hother]
      omega

end Start

/-- **The budget of a script is what the steps that are left queue.** -/
theorem budgeted (s : Script) : s.handler.Budgeted s.unspent fun step => step.queued.length where
  start _ _ := unspent_insert rfl s
  finish _ _ := Nat.le_refl _
  note _ _ := Nat.le_refl _

theorem unspent_le (s : Script) (state : ScriptState) : s.unspent state ≤ s.queuedCount := by
  have hdrop : ∀ (steps : List ScriptStep) (n : Nat),
      total (fun step => step.queued.length) (steps.drop n) ≤
        total (fun step => step.queued.length) steps := by
    intro steps n
    induction n with
    | zero => exact Nat.le_refl _
    | succ n ih =>
      have hsucc := total_drop steps n
      omega
  unfold unspent queuedCount
  induction s with
  | nil => exact Nat.le_refl _
  | cons p entries ih => exact Nat.add_le_add (hdrop _ _) ih

end Script

/-- **A drain by a script ends with an empty queue**, whatever its steps queue, and more rounds change
nothing. Its handlers are run at most as often as the initial tasks and all tasks that the steps queue
may be run, the most runs of a task each. -/
theorem scripted_drain_ends (s : Script) (settings : DispatcherSettings) (now : Nat)
    (state : ScriptState) (tasks : List Task) :
    let d := ({ settings, now, state } : Dispatcher ScriptState).enqueueAll tasks
    let bound := max 1 settings.maxAttempts.toNat * (tasks.length + s.queuedCount)
    (s.drain d).1.queue = [] ∧ (s.drain d).1.started.length ≤ bound ∧
      ∀ more, d.drain s.handler (bound + more) = s.drain d := by
  intro d bound
  have hd : d = { settings, now, state, queue := firstDeliveries 0 tasks, ticket := tasks.length } := by
    simp [d, Dispatcher.enqueueAll_eq]
  have hdraining : d.Draining := by
    rw [hd]
    exact ⟨rfl, fun x hx => DispatcherSettings.allows_of_mem_firstDeliveries hx⟩
  have hpotential : d.potential s.unspent ≤ bound := by
    have hbudget := Nat.mul_le_mul_left settings.mostRuns (s.unspent_le state)
    rw [hd]
    show settings.mostRuns * s.unspent state + total settings.left (firstDeliveries 0 tasks) ≤
      settings.mostRuns * (tasks.length + s.queuedCount)
    rw [DispatcherSettings.total_left_firstDeliveries, Nat.mul_add]
    omega
  have hdrain : s.drain d = d.drain s.handler bound := by
    have hlength : d.queue.length = tasks.length := by
      rw [hd]
      exact length_firstDeliveries 0 tasks
    have hsettings : d.settings = settings := by rw [hd]
    unfold Script.drain Script.runBound
    rw [hlength, hsettings]
  obtain ⟨-, hempty, hruns⟩ := Dispatcher.drainFrom_ends (p := (d, {}))
    (fun _ report hd => hd.batch s.budgeted report) hdraining hpotential
  have hstarted : d.started = [] := by
    rw [hd]
    rfl
  rw [hdrain]
  refine ⟨hempty, ?_, (Dispatcher.drain_returned_iff d).2 hempty⟩
  rw [hstarted, List.length_nil, Nat.zero_add] at hruns
  exact Nat.le_trans hruns hpotential

end FleetReconciler
