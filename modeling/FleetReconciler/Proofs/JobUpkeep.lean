import FleetReconciler.Proofs.Gather
import FleetReconciler.Proofs.Job

/-!
# Services at work

The services of the reconciler run side by side on one store: any number of each, with any keys and
values, any answers of the cloud, and any order of their requests. Whatever they do, the store goes
from one moment to the next by one write of upkeep at most.

* `ensureInstance_meets`, `discover_tends` — the list of a manager is written when all instances on
  it have records;
* `Job.tends` — **every service of the reconciler tends the store**;
* `Advance`, `Crowd.work` — what happens next, and a run;
* `Crowd.AtWork.relates` — **what every write of upkeep keeps, every run keeps**.
-/

namespace FleetReconciler

open Service

/-! ## Tending -/

namespace Service

variable {α β : Type}

/-- A look-up sees the record of one moment. -/
theorem lookup_meets {ρ κ : Type} [Entity ρ κ] {key : κ} {k : Option ρ → Service α}
    {post : Except Failure α → Scene → Prop} {s : Scene}
    (h : ∀ t : Scene, s.records.Grows t.records →
      (lift (t.records.read ρ key) >>= k).Meets Scene.upkeep post t) :
    (lookup ρ key >>= k).Meets Scene.upkeep post s := by
  rw [lookup_eq, bind_assoc, request_bind]
  exact fun t hst => ⟨.inl rfl, h t hst⟩

/-- What has been reached stays so while a service goes on that does not write. -/
theorem WritesNothing.keeps {service : Service α} (h : service.WritesNothing) {goal : Scene → Prop}
    (stable : ∀ {s t : Scene}, s.records.Grows t.records → goal s → goal t) {s : Scene}
    (hs : goal s) : service.Meets Scene.upkeep (fun _ t => goal t) s :=
  ((h.meets s).since Scene.shared (Scene.upkeep.refl s)).mono fun _ _ ht => stable ht.1 hs

/-- The order of turns inside a service is one of the things that may be answered. -/
theorem Meets.inTurns {service : Service α} {post : Except Failure α → Scene → Prop} {s : Scene}
    (h : service.Meets Scene.upkeep post s) (order : List Nat) :
    (service.inTurns order).Meets Scene.upkeep post s := by
  induction service generalizing s with
  | done a => exact h
  | fail f => exact h
  | ask r next ih =>
    cases r with
    | turns =>
      let t : Scene := ⟨s.records, inOrder order s.answers⟩
      have hnext : (next order).Meets Scene.upkeep post t := (h t (.refl _)).2
      exact Meets.later (ih order hnext) (MemoryStore.Grows.refl s.records)
    | _ => exact fun t hst => ⟨(h t hst).1, ih _ (h t hst).2⟩

/-- Which answers were to come does not matter. -/
theorem Tends.of_meets {service : Service α} {s : Scene}
    (h : service.Meets Scene.upkeep (fun _ _ => True) s) : service.Tends s.records :=
  fun _ => Meets.later h (MemoryStore.Grows.refl s.records)

theorem Tends.inTurns {service : Service α} {s : MemoryStore} (h : service.Tends s)
    (order : List Nat) : (service.inTurns order).Tends s :=
  fun answers => (h answers).inTurns order

theorem tends_compositional : Compositional fun _ service => ∀ s, service.Tends s where
  done a s := (WritesNothing.pure a).tends s
  fail _ _ _ _ _ := trivial
  bind h hk s := (h s).bind fun a t _ => hk a t
  within context h s := (h s).within context
  foreign hr h s := .ask (by rintro _ _ _ _ rfl; exact hr) fun reply => h reply s
  enqueue t := (WritesNothing.enqueue t).tends
  lookup key := (WritesNothing.lookup key).tends
  records ρ := (WritesNothing.records ρ).tends
  change context key rule hrule s := by
    refine change_tends context key fun t _ i j hread hij hkey => ?_
    have hstep : i.Step j := hrule i j hij
    obtain rfl : i.key = key := hstep.key_eq.symm.trans hkey
    exact .change hread hstep

end Service

/-- The list of a manager tends the store if it holds instances of the manager with records. -/
theorem setInstances_tends {key : ManagerKey} {instances : List InstanceKey} {s : MemoryStore}
    (h : ∀ k ∈ instances, k.parent = key ∧ s.HasInstance k) :
    (setInstances key instances).Tends s := by
  have hchange : (Service.change (.updatingInstances key) key (Manager.list? instances)).Tends s := by
    refine change_tends _ key fun t hst m m' hread hlist hkey => ?_
    simp only [Manager.list?] at hlist
    split at hlist
    · cases hlist
    · obtain rfl := Option.some.inj hlist
      obtain rfl : m.key = key := hkey
      exact .list hread fun k hk => ⟨(h k hk).1, hst.isSome (h k hk).2⟩
  refine hchange.bind fun r t _ => ?_
  obtain ⟨change, found⟩ := r
  refine WritesNothing.tends ?_ t
  cases change with
  | missing => exact (WritesNothing.note _).bind fun _ => .pure _
  | updated => exact (WritesNothing.note _).bind fun _ => .pure _
  | unchanged => exact .pure _

/-- Where a record is made if it is missing, it is missing and then made, or there already. -/
theorem attempt_createIfMissing {key : InstanceKey} {created : Instance} {s : MemoryStore} :
    (∀ version record value,
      attempt key created.createIfMissing (s.find? .machine (EntityKey.text key)) =
        .write version record value →
      s.find? .machine (EntityKey.text key) = none ∧ record = created) ∧
    ∀ result, attempt key created.createIfMissing (s.find? .machine (EntityKey.text key)) =
      .stop (.ok result) → s.HasInstance key := by
  constructor
  · intro version record value h
    obtain ⟨current, hdecode, hmutate, hchanged, -⟩ := attempt_eq_write.1 h
    have hsome := MemoryStore.isSome_read (read_eq_ok.2 ⟨version, hdecode⟩)
    cases current with
    | some i => exact (hchanged (congrArg Prod.fst hmutate).symm).elim
    | none =>
      exact ⟨Option.not_isSome_iff_eq_none.1 fun h => Bool.noConfusion (hsome.trans h),
        (Option.some.inj (congrArg Prod.fst hmutate)).symm⟩
  · intro result h
    obtain ⟨version, current, hdecode, hsame, -⟩ := attempt_eq_stop_ok.1 h
    have hsome := MemoryStore.isSome_read (read_eq_ok.2 ⟨version, hdecode⟩)
    cases current with
    | some i => exact hsome.symm
    | none => cases hsame

/-- An instance that is ensured has a record. -/
theorem ensureInstance_meets {key : InstanceKey} {url : String}
    (hname : instanceName? url = some key.name.text) (s : Scene) :
    (ensureInstance key url key.parent).Meets Scene.upkeep
      (fun r t => ∀ v, r = .ok v → t.records.HasInstance key) s := by
  have hstable {t u : Scene} (htu : t.records.Grows u.records) (h : t.records.HasInstance key) :
      u.records.HasInstance key := htu.isSome h
  unfold ensureInstance
  refine lookup_meets fun t _ => ?_
  cases hread : t.records.read Instance key with
  | error f => exact fun _ _ _ h => by cases h
  | ok found =>
    rw [lift_ok_bind]
    cases found with
    | some i => exact fun u htu _ _ => hstable htu (MemoryStore.isSome_read hread).symm
    | none =>
      let created := Instance.discovered key url key.parent
      have htransact : (transact key created.createIfMissing).Meets Scene.upkeep
          (fun r u => Finished key created.createIfMissing r u.records) t :=
        transact_tends (fun u _ version record value h => by
          obtain ⟨hmissing, rfl⟩ := attempt_createIfMissing.1 version record value h
          exact .create hmissing hname) t.answers
      have hmade : ((transact key created.createIfMissing).within (.creating key)).Meets Scene.upkeep
          (fun r u => ∀ v, r = .ok v → u.records.HasInstance key) t := by
        refine htransact.within ?_ ?_
        · rintro v u hfinished w hw
          rcases hfinished v rfl with hsome | ⟨before, grows, hstop⟩
          · exact hsome
          · exact grows.isSome (attempt_createIfMissing.2 v hstop)
        · rintro f u - v hv
          cases hv
      refine hmade.bind ?_ ?_
      · intro result u hhas
        have hrest : (if result.value = true then do
            note (.instanceCreated key)
            send .created ((instanceName? url).getD key.name.text)
          else pure () : Service Unit).WritesNothing := by
          split
          · exact (WritesNothing.note _).bind fun _ => WritesNothing.send ..
          · exact .pure _
        exact (hrest.keeps hstable (hhas result rfl)).mono fun _ _ h _ _ => h
      · rintro f u - v hv
        cases hv

/-- The key of a URL is that of the instance of the manager with the name in the URL. -/
theorem ManagerKey.of_instanceAt {manager : ManagerKey} {url : String} {k : InstanceKey}
    (h : manager.instanceAt url = .ok k) :
    k.parent = manager ∧ instanceName? url = some k.name.text := by
  unfold instanceAt at h
  cases hname : instanceName? url with
  | none =>
    rw [hname] at h
    cases h
  | some name =>
    simp only [hname, instanceNamed, Component.ofString] at h
    split at h
    · cases h
      exact ⟨rfl, rfl⟩
    · cases h

theorem firstFailure?_eq_none {α : Type} {results : List (Except Failure α)}
    (h : firstFailure? results = none) {r : Except Failure α} (hr : r ∈ results) :
    ∃ v, r = .ok v := by
  cases r with
  | ok v => exact ⟨v, rfl⟩
  | error f => cases List.findSome?_eq_none_iff.1 h _ hr

theorem discover_tends (key : ManagerKey) (settings : DiscoverySettings) (s : MemoryStore) :
    (discover key settings).Tends s := by
  unfold discover
  refine (tends_compositional.listInstances key _ s).bind fun found t _ => ?_
  simp only
  split
  · exact (setInstances_tends (by simp)).bind fun _ u _ => (WritesNothing.pure _).tends u
  cases hkeys : found.eraseDups.mapM key.instanceAt with
  | error f => exact fun _ _ _ => trivial
  | ok keys =>
    rw [lift_ok_bind]
    intro answers
    have hall := mapM_eq_ok hkeys
    have hkey (k : InstanceKey) (url : String) (h : (k, url) ∈ keys.zip found.eraseDups) :
        k.parent = key ∧ instanceName? url = some k.name.text :=
      ManagerKey.of_instanceAt (List.forall₂_iff_zip.1 hall |>.2 h)
    let aim (p : InstanceKey × String) : Aim Scene.upkeep Unit :=
      ⟨ensureInstance p.1 p.2 key, fun r u => ∀ v, r = .ok v → u.records.HasInstance p.1,
        fun hst h v hv => hst.isSome (h v hv)⟩
    have hgather := gather_meets Scene.shared (max settings.maxConcurrent.toNat 1)
      (fun t _ => .inl rfl) (fun a (ha : a ∈ (keys.zip found.eraseDups).map aim) => by
        obtain ⟨⟨k, url⟩, hp, rfl⟩ := List.mem_map.1 ha
        obtain ⟨rfl, hname⟩ := hkey k url hp
        exact ensureInstance_meets hname ⟨t, answers⟩)
    rw [List.map_map] at hgather
    refine hgather.bind ?_ fun _ _ _ => trivial
    rintro results u ⟨results', hresults, hreached, -⟩
    obtain rfl : results = results' := Except.ok.inj hresults
    cases hfirst : firstFailure? results with
    | some f => exact fun _ _ => trivial
    | none =>
      have hlisted : ∀ k ∈ keys, k.parent = key ∧ u.records.HasInstance k := by
        intro k hk
        obtain ⟨url, hp⟩ : ∃ url, (k, url) ∈ keys.zip found.eraseDups := by
          rw [← List.map_fst_zip (Nat.le_of_eq hall.length_eq)] at hk
          obtain ⟨⟨listed, url⟩, hp, rfl⟩ := List.mem_map.1 hk
          exact ⟨url, hp⟩
        obtain ⟨r, hr, hpost⟩ := hreached _ (List.mem_map_of_mem hp)
        obtain ⟨v, rfl⟩ := firstFailure?_eq_none hfirst hr
        exact ⟨(hkey k url hp).1, hpost v rfl⟩
      exact ((setInstances_tends hlisted).bind fun _ v _ => (WritesNothing.pure _).tends v) _

/-- **Every service of the reconciler tends the store.** -/
theorem Job.tends (job : Job) (s : MemoryStore) : job.service.Tends s :=
  tends_compositional.job (fun key settings order s => (discover_tends key settings s).inTurns order)
    job s

/-! ## Runs -/

/-- What happens next: the service at a place has its next request served, or the clock is set. -/
inductive Advance where
  | serve (place : Nat)
  | clock (t : Timestamp)

/-- The turn of a crowd. -/
def Advance.turn : Advance → Turn
  | serve place => .serve place
  | clock t => .clock t

/-- A session in memory answers as a scene does. -/
theorem Scene.perform_session {σ : Type} (c : Cloud σ) {session : Session σ}
    (h : session.InMemory) (r : Request) (answers : (r : Request) → r.Reply)
    (hanswers : answers r = (session.perform c r).1) :
    Scene.perform r ⟨session.records, answers⟩ =
      ((session.perform c r).1, ⟨(session.perform c r).2.records, answers⟩) := by
  cases r with
  | commit kind id version value => simp [Scene.perform, Session.perform]
  | save => simp [Scene.perform, Session.perform, h.save]
  | enqueue t => simp [Scene.perform, hanswers, Session.perform, Session.records_enqueue]
  | read purpose kind id => rfl
  | scan kind => rfl
  | _ =>
    simp only [Scene.perform, hanswers]
    rfl

namespace Crowd

variable {σ : Type}

/-- A run in which nobody but the services writes. -/
def work (c : Cloud σ) (advances : List Advance) (s : Crowd σ Unit) : Crowd σ Unit :=
  s.run c (advances.map Advance.turn)

/-- Services at work on a store in memory, each of which tends it. -/
structure AtWork (s : Crowd σ Unit) : Prop where
  inMemory : s.world.session.InMemory
  tends : ∀ service ∈ s.services, service.Tends s.world.records

theorem atWork_start (session : Session σ) (store : MemoryStore) (jobs : List Job) :
    (start session store (jobs.map Job.service)).AtWork where
  inMemory := ⟨store, rfl⟩
  tends := by
    intro service hservice
    obtain ⟨job, -, rfl⟩ := List.mem_map.1 hservice
    exact job.tends _

/-- What happens next tends the store, and the services stay at work. -/
theorem AtWork.turn {s : Crowd σ Unit} (h : s.AtWork) (c : Cloud σ) (a : Advance) :
    s.world.records.Tended (s.turn c a.turn).world.records ∧ (s.turn c a.turn).AtWork := by
  cases a with
  | clock t => exact ⟨.inl rfl, h.inMemory, h.tends⟩
  | serve place =>
    simp only [Advance.turn, Crowd.turn]
    split
    · rename_i r next hplace
      let answers (r : Request) : r.Reply := (s.world.session.perform c r).1
      have hmem := List.mem_of_getElem? hplace
      have hserved : s.world.records.Tended (Scene.perform r ⟨s.world.records, answers⟩).2.records ∧
          (next (Scene.perform r ⟨s.world.records, answers⟩).1).Meets Scene.upkeep
            (fun _ _ => True) (Scene.perform r ⟨s.world.records, answers⟩).2 :=
        h.tends _ hmem answers ⟨s.world.records, answers⟩ (.refl _)
      rw [show s.world.records = s.world.session.records from rfl,
        Scene.perform_session c h.inMemory r answers rfl] at hserved
      obtain ⟨htended, hnext⟩ := hserved
      refine ⟨htended, World.inMemory_serve h.inMemory c place r, fun service hservice => ?_⟩
      rcases List.mem_or_eq_of_mem_set hservice with hother | rfl
      · exact (h.tends service hother).later htended.grows
      · exact .of_meets hnext
    · exact ⟨.inl rfl, h⟩

theorem AtWork.work {s : Crowd σ Unit} (h : s.AtWork) (c : Cloud σ) (advances : List Advance) :
    (s.work c advances).AtWork := by
  induction advances generalizing s with
  | nil => exact h
  | cons a advances ih => exact ih (h.turn c a).2

theorem work_append (c : Cloud σ) (before after : List Advance) (s : Crowd σ Unit) :
    s.work c (before ++ after) = (s.work c before).work c after := by
  simp [Crowd.work, run]

/-- **What every write of upkeep keeps, every run keeps.** -/
theorem AtWork.relates {s : Crowd σ Unit} (h : s.AtWork) (c : Cloud σ)
    {R : MemoryStore → MemoryStore → Prop} (refl : ∀ t, R t t)
    (trans : ∀ {t u v}, R t u → R u v → R t v) (upkeep : ∀ t w, t.Upkeep w → R t (t.apply w))
    (advances : List Advance) : R s.world.records (s.work c advances).world.records := by
  induction advances generalizing s with
  | nil => exact refl _
  | cons a advances ih =>
    obtain ⟨htended, hatWork⟩ := h.turn c a
    refine trans ?_ (ih hatWork)
    rcases htended with hsame | ⟨w, hw, hwrite⟩
    · exact hsame ▸ refl _
    · exact hwrite ▸ upkeep _ w hw

end Crowd

end FleetReconciler
