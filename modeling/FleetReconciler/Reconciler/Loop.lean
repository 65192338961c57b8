import FleetReconciler.Reconciler.Basic

/-!
# Reconciling until an interrupt

The scan passes run at the start and then whenever their period has elapsed, and the queued tasks
are carried out as they come. At an interrupt the passes end, the batch at work is finished, and
what is still queued is left.

* `passesAt` — the passes of a second;
* `ticks` — the passes up to the interrupt;
* `Reconciler.runUntil` — the whole run.
-/

namespace FleetReconciler

/-- The passes that are due in a second. -/
def passesAt (s : ScheduleSettings) (second : Nat) : List Pass :=
  (if second % s.fetchIntervalSeconds.toNat = 0 then [.fetch] else []) ++
    (if second % s.deletionIntervalSeconds.toNat = 0 then [.pendingDeletion, .drainedDeletion]
      else [])

namespace Reconciler

variable {τ : Type}

/-- Runs a pass. A failure is logged. -/
def scan (cloud : Cloud τ) (s : Session τ) (p : Pass) : Session τ :=
  match s.serve cloud p.schedule with
  | (.ok _, s) => s
  | (.error f, s) => s.note (.passFailed p f)

/-- Runs passes and gives the tasks that they queue. -/
def scanAll (cloud : Cloud τ) (ps : List Pass) (s : Session τ) : List Task × Session τ :=
  let s := ps.foldl (scan cloud) s
  (s.queued, { s with queued := [] })

/-- The passes of every second before the interrupt, which is given in milliseconds. -/
def ticks (cloud : Cloud τ) (s : ScheduleSettings) (interrupt : Nat) : List (Arrival (Session τ)) :=
  (List.range ((interrupt + 999) / 1000)).filterMap fun second =>
    match passesAt s second with
    | [] => none
    | ps => some ⟨1000 * second, scanAll cloud ps⟩

/-- One second without an interrupt: the passes that are due, and then the tasks that they queue. A
task that fails is tried again on a clock of the reconciler's own. -/
def live (second : Nat) (r : Reconciler τ) : Reconciler τ :=
  let (tasks, session) := scanAll r.cloud (passesAt r.settings.schedule second) r.session
  ({ r with work := { r.work with state := session }.enqueueAll tasks }).drain.2

/-- The interrupt, which is logged. -/
def interruption (interrupt : Nat) : Arrival (Session τ) :=
  ⟨interrupt, fun s => ([], s.note .shuttingDown)⟩

/-- A bound on the rounds of a run: tasks only come with arrivals, and behind each there are at most
so many batches as a task has attempts. -/
def roundBound (s : DispatcherSettings) (arrivals : Nat) : Nat :=
  (arrivals + 1) * (max 1 s.maxAttempts.toNat + 1) + 2

/-- Writes to the log. -/
def note (n : Notice) (r : Reconciler τ) : Reconciler τ :=
  { r with work := { r.work with state := r.work.state.note n } }

/-- Notes that the reconciler has started. -/
def started (r : Reconciler τ) : Reconciler τ :=
  let schedule := r.settings.schedule
  r.note (.reconcilerStarted schedule.fetchIntervalSeconds.toNat
    schedule.deletionIntervalSeconds.toNat)

/-- Reconciles until an interrupt, so many milliseconds after the start. -/
def runUntil (interrupt : Nat) (r : Reconciler τ) : Reconciler τ :=
  let r := r.started
  let arrivals := ticks r.cloud r.settings.schedule interrupt ++ [interruption interrupt]
  let handler := taskHandler (Session.perform r.cloud) r.settings.discovery
  let (work, report) := { r.work with arrivals }.run handler interrupt (fun _ => true)
    (roundBound r.settings.dispatcher arrivals.length)
  let r := { r with work := Dispatcher.receiveRest work.arrivals work }
  r.note (.reconcilerStopped report.succeeded report.redelivered report.dropped)

end Reconciler

end FleetReconciler
