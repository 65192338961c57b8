import FleetReconciler.Proofs.JobUpkeep
import FleetReconciler.Proofs.SoundStore

/-!
# Consistent stores at work

On a consistent store the services find what they expect: every record decodes under its own key,
and what they write in its place has that key too.

* `Job.faultless` — **no service meets a fault of a consistent store**;
* `Crowd.consistent_and_faultless` — **in every run a consistent store stays consistent, after every
  single write, and no service fails with a fault**.
-/

namespace FleetReconciler

open Service

/-! ## Meeting no fault -/

namespace Service

theorem faultless_compositional : Compositional fun _ service => service.Faultless where
  done := .done
  fail := .fail
  bind := .bind
  within context h := h.within context
  foreign _ h := .ask fun reply _ => h reply
  enqueue := .enqueue
  lookup := lookup_faultless
  records _ := records_faultless
  change context key _ hrule := change_faultless context key fun i j h => (hrule i j h).key_eq

/-- The order of turns inside a service is one of the things that may be answered. -/
theorem Faultless.inTurns {service : Service α} (h : service.Faultless) (order : List Nat) :
    (service.inTurns order).Faultless := by
  induction service with
  | done a => exact h
  | fail f => exact h
  | ask r next ih =>
    cases r with
    | turns =>
      intro s
      let t : Replies := ⟨inOrder order s.answer, fun r => by
        cases r with
        | turns => trivial
        | _ => exact s.sane _⟩
      exact ih order (h.next t) s
    | _ => exact fun s t _ => ⟨trivial, ih _ (h.next t) t⟩

end Service

theorem setInstances_faultless (key : ManagerKey) (instances : List InstanceKey) :
    (setInstances key instances).Faultless := by
  have hrule (m m' : Manager) (h : m.list? instances = some m') : m'.key = m.key := by
    simp only [Manager.list?] at h
    split at h <;> cases h
    rfl
  have hP := faultless_compositional
  refine (change_faultless _ key hrule).bind fun result => ?_
  obtain ⟨change, found⟩ := result
  cases change with
  | missing => exact hP.bind (hP.note _) fun _ => .pure _
  | updated => exact hP.bind (hP.note _) fun _ => .pure _
  | unchanged => exact .pure _

theorem ensureInstance_faultless (key : InstanceKey) (url : String) (manager : ManagerKey) :
    (ensureInstance key url manager).Faultless := by
  have hP := faultless_compositional
  have hkeeps : KeepsKey key (Instance.discovered key url manager).createIfMissing := by
    intro current hkey
    cases current with
    | none => exact ⟨fun _ => rfl, fun r hr => Option.some.inj hr ▸ rfl⟩
    | some i => exact ⟨nofun, fun r hr => Option.some.inj hr ▸ hkey i rfl⟩
  unfold ensureInstance
  refine (lookup_faultless key).bind fun found => ?_
  split
  · exact .pure _
  · refine ((transact_faultless hkeeps).within _).bind fun result => ?_
    split
    · exact hP.bind (hP.note _) fun _ => hP.send _ _
    · exact .pure _

theorem firstFailure?_mem {α : Type} {results : List (Except Failure α)} {f : Failure}
    (h : firstFailure? results = some f) : .error f ∈ results := by
  obtain ⟨r, hr, hf⟩ := List.exists_of_findSome?_eq_some h
  cases r with
  | ok v => cases hf
  | error g => exact Option.some.inj hf ▸ hr

theorem instanceAt_ne_fault {manager : ManagerKey} {url : String} {f : Failure}
    (h : manager.instanceAt url = .error f) : ¬ f.IsFault := by
  unfold ManagerKey.instanceAt at h
  cases hname : instanceName? url with
  | none =>
    rw [hname] at h
    cases h
    exact id
  | some name =>
    simp only [hname, ManagerKey.instanceNamed, Component.ofString] at h
    split at h <;> cases h
    exact id

theorem mapM_eq_error {α β ε : Type} {f : α → Except ε β} {items : List α} {e : ε}
    (h : items.mapM f = .error e) : ∃ a ∈ items, f a = .error e := by
  induction items with
  | nil => cases h
  | cons a items ih =>
    rw [List.mapM_cons] at h
    cases ha : f a with
    | error e' =>
      rw [ha] at h
      cases h
      exact ⟨a, List.mem_cons_self, ha⟩
    | ok r =>
      rw [ha] at h
      cases hrest : items.mapM f with
      | error e' =>
        rw [hrest] at h
        cases h
        obtain ⟨b, hb, hfb⟩ := ih hrest
        exact ⟨b, List.mem_cons_of_mem _ hb, hfb⟩
      | ok rest =>
        rw [hrest] at h
        cases h

theorem discover_faultless (key : ManagerKey) (settings : DiscoverySettings) :
    (discover key settings).Faultless := by
  have hP := faultless_compositional
  unfold discover
  refine (hP.listInstances key _).bind fun found => ?_
  simp only
  split
  · exact (setInstances_faultless key []).bind fun _ => .pure _
  refine Faultless.bind (.lift fun f hf => ?_) fun keys => ?_
  · obtain ⟨url, -, hurl⟩ := mapM_eq_error hf
    exact instanceAt_ne_fault hurl
  · intro s
    let aim (p : InstanceKey × String) : Aim Replies.terms Unit :=
      ⟨ensureInstance p.1 p.2 key, fun r _ => ∀ f, r = .error f → ¬ f.IsFault, fun _ h => h⟩
    have hgather := gather_meets (fun _ => trivial) (max settings.maxConcurrent.toNat 1)
      (fun _ _ => trivial) (fun a (ha : a ∈ (keys.zip found.eraseDups).map aim) => by
        obtain ⟨p, -, rfl⟩ := List.mem_map.1 ha
        exact ensureInstance_faultless p.1 p.2 key s)
    rw [List.map_map] at hgather
    refine hgather.bind ?_ ?_
    · rintro results t ⟨results', hresults, -, hfrom⟩
      obtain rfl : results = results' := Except.ok.inj hresults
      cases hfirst : firstFailure? results with
      | some f =>
        obtain ⟨a, ha, hpost⟩ := hfrom _ (firstFailure?_mem hfirst)
        obtain ⟨p, -, rfl⟩ := List.mem_map.1 ha
        have hfault : ¬ f.IsFault := hpost f rfl
        exact Faultless.fail (f := f.within _) hfault t
      | none => exact (setInstances_faultless key keys).bind (fun _ => .pure _) t
    · rintro f t ⟨results, hresults, -⟩
      cases hresults

/-- **No service of the reconciler meets a fault of a consistent store.** -/
theorem Job.faultless (job : Job) : job.service.Faultless :=
  faultless_compositional.job (fun key settings order =>
    (discover_faultless key settings).inTurns order) job

/-! ## Runs -/

namespace Crowd

variable {σ : Type}

/-- Services at work on a consistent store, none of which meets a fault. -/
structure Healthy (s : Crowd σ Unit) : Prop extends s.AtWork where
  consistent : s.world.records.Consistent
  faultless : ∀ service ∈ s.services, service.Faultless

theorem healthy_start (session : Session σ) {store : MemoryStore} (h : store.Consistent)
    (jobs : List Job) : (start session store (jobs.map Job.service)).Healthy where
  toAtWork := atWork_start session store jobs
  consistent := h
  faultless := by
    intro service hservice
    obtain ⟨job, -, rfl⟩ := List.mem_map.1 hservice
    exact job.faultless

/-- What happens next leaves the store consistent and the services without a fault. -/
theorem Healthy.turn {s : Crowd σ Unit} (h : s.Healthy) (c : Cloud σ) (a : Advance) :
    (s.turn c a.turn).Healthy where
  toAtWork := (h.toAtWork.turn c a).2
  consistent := (h.toAtWork.turn c a).1.consistent h.consistent
  faultless := by
    cases a with
    | clock t => exact h.faultless
    | serve place =>
      simp only [Advance.turn, Crowd.turn]
      split
      · rename_i r next hplace
        intro service hservice
        rcases List.mem_or_eq_of_mem_set hservice with hother | rfl
        · exact h.faultless service hother
        · let replies := Replies.ofSession c h.inMemory h.consistent
          exact (h.faultless _ (List.mem_of_getElem? hplace)).next replies
      · exact h.faultless

theorem Healthy.work {s : Crowd σ Unit} (h : s.Healthy) (c : Cloud σ) (advances : List Advance) :
    (s.work c advances).Healthy := by
  induction advances generalizing s with
  | nil => exact h
  | cons a advances ih => exact ih (h.turn c a)

/-- **In every run a consistent store stays consistent, and no service fails with a fault of the
store.** -/
theorem consistent_and_faultless (c : Cloud σ) (session : Session σ) {store : MemoryStore}
    (h : store.Consistent) (jobs : List Job) (advances : List Advance) :
    let s := (start session store (jobs.map Job.service)).work c advances
    s.world.records.Consistent ∧ ∀ f, .fail f ∈ s.services → ¬ f.IsFault := by
  intro s
  have hhealthy : s.Healthy := (healthy_start session h jobs).work c advances
  refine ⟨hhealthy.consistent, fun f hf => ?_⟩
  let replies := Replies.ofSession c hhealthy.inMemory hhealthy.consistent
  exact hhealthy.faultless _ hf replies replies trivial f rfl

end Crowd

/-! ### A run on a small store -/

theorem Sample.consistent : Sample.store.Consistent := by
  have hmachine : machine.FitsKey := by
    refine ⟨rfl, rfl, fun url hurl => ?_⟩
    obtain rfl : "https://x/vm" = url := Option.some.inj (hurl : some "https://x/vm" = some url)
    decide
  have hall : ∀ r ∈ records, ∀ s : MemoryStore, s.Fits r := by
    intro r hr s
    simp only [records, List.mem_cons, List.not_mem_nil, or_false] at hr
    rcases hr with rfl | rfl | rfl | rfl
    · trivial
    · trivial
    · exact nofun
    · exact hmachine
  exact MemoryStore.consistent_fill MemoryStore.consistent_empty hall

/-- A drained instance is deleted while it is marked, discovered again and given a lease. -/
theorem Sample.consistent_after_run :
    Sample.store.Consistent ∧
    let jobs : List Job := [.deleteDrained machine.key, .discover managerKey {} [0],
      .setLease machine.key (some midnight), .mark machine.key]
    let turns : List Advance := [0, 1, 2, 3, 2, 2, 0, 0, 0, 0, 0, 0, 1, 1, 1, 3, 3].map .serve
    let s := (Crowd.start session store (jobs.map Job.service)).work CloudScript.cloud turns
    s.world.records.Consistent ∧ ∀ f, .fail f ∈ s.services → ¬ f.IsFault :=
  ⟨Sample.consistent, Crowd.consistent_and_faultless CloudScript.cloud session Sample.consistent _ _⟩

end FleetReconciler
