import FleetReconciler.Proofs.DrainedScan
import FleetReconciler.Proofs.JobUpkeep

/-!
# The lists that discovery writes

A discovery that runs alone writes the list of one manager at most: the keys of the URLs in the
listing, of which those that are equal as texts are taken once. Two texts may name one instance, and
then the list repeats its key.

* `Session.Frame`, `Service.Writes` — records of one kind are written and all others left alone;
* `Session.performInOrder`, `serve_inTurns` — the order of turns as an answer;
* `Relisted` — what a discovery does to the records of the managers;
* `nodup_keys_iff` — when the keys of different URLs are different;
* `repeated_members_iff` — **the lists stay without repetitions unless one is rewritten from a listing
  that names an instance twice**;
* `member_listed_twice` — a run after which a list repeats a key.
-/

namespace FleetReconciler

open Service

variable {σ α β : Type}

/-! ## Records of one kind -/

namespace Session

/-- Records of a kind may have been written; all others are as they were. -/
structure Frame (kind : Kind) (s t : Session σ) : Prop where
  inMemory : s.InMemory → t.InMemory
  others : ∀ other id, other ≠ kind → t.records.find? other id = s.records.find? other id

theorem Frame.refl (kind : Kind) (s : Session σ) : s.Frame kind s := ⟨id, fun _ _ _ => rfl⟩

theorem Frame.trans {kind : Kind} {s t u : Session σ} (h : s.Frame kind t) (h' : t.Frame kind u) :
    s.Frame kind u where
  inMemory := fun hm => h'.inMemory (h.inMemory hm)
  others other id hother := (h'.others other id hother).trans (h.others other id hother)

/-- Records of other kinds are read as before. -/
theorem Frame.read {ρ κ : Type} [Entity ρ κ] {kind : Kind} {s t : Session σ} (h : s.Frame kind t)
    (hkind : EntityKey.kind κ ≠ kind) (key : κ) : t.records.read ρ key = s.records.read ρ key := by
  unfold MemoryStore.read
  rw [h.others _ _ hkind]

/-- A request that commits nothing of another kind. -/
theorem frame_perform (c : Cloud σ) {kind : Kind} {r : Request}
    (h : ∀ other id version value, r = .commit other id version value → other = kind)
    (s : Session σ) : s.Frame kind (s.perform c r).2 where
  inMemory hm := hm.perform c r
  others other id hother := by
    cases r with
    | commit kind' id' version value =>
      obtain rfl : kind' = kind := h _ _ _ _ rfl
      simp only [perform, MemoryStore.commit_eq, records_withRecords]
      split
      · rw [MemoryStore.find?_put, if_neg fun hsame => hother hsame.1]
      · rfl
    | save => rw [perform, records_save]
    | enqueue t => rw [perform, records_enqueue]
    | _ => rfl

/-- Performs a request; services that are in flight together take their turns in a given order. -/
def performInOrder (c : Cloud σ) (order : List Nat) : (r : Request) → Session σ → r.Reply × Session σ
  | .turns, s => (order, s)
  | r, s => perform c r s

/-- The order of turns of a service that runs alone is one of the answers. -/
theorem serve_inTurns (c : Cloud σ) (order : List Nat) (service : Service α) (s : Session σ) :
    s.serve c (service.inTurns order) = service.run (performInOrder c order) s := by
  unfold serve
  induction service generalizing s with
  | done a => rfl
  | fail f => rfl
  | ask r next ih =>
    cases r with
    | turns => exact ih order s
    | _ => exact ih _ _

/-- The terms on which a service alone writes records of one kind. -/
def writing (c : Cloud σ) (order : List Nat) (kind : Kind) : Terms (Session σ) where
  perform := performInOrder c order
  rely := Frame kind
  guarantee := Frame kind
  refl := Frame.refl kind
  trans := Frame.trans

end Session

namespace Service

/-- Every commit of the service is of one kind. -/
def Writes (kind : Kind) : Service α → Prop
  | done _ | fail _ => True
  | ask r next => (∀ other id version value, r = .commit other id version value → other = kind) ∧
    ∀ reply, (next reply).Writes kind

variable {kind : Kind}

theorem WritesNothing.writes {service : Service α} (h : service.WritesNothing) :
    service.Writes kind := by
  induction service with
  | done a => trivial
  | fail f => trivial
  | ask r next ih =>
    exact ⟨fun other id version value hr => (h.1 other id version value hr).elim,
      fun reply => ih reply (h.2 reply)⟩

namespace Writes

theorem bind {service : Service α} {k : α → Service β} (h : service.Writes kind)
    (hk : ∀ a, (k a).Writes kind) : (service >>= k).Writes kind := by
  induction service with
  | done a => exact hk a
  | fail f => trivial
  | ask r next ih => exact ⟨h.1, fun reply => ih reply (h.2 reply)⟩

theorem within {service : Service α} (h : service.Writes kind) (context : Context) :
    (service.within context).Writes kind := by
  induction service with
  | done a => trivial
  | fail f => trivial
  | ask r next ih => exact ⟨h.1, fun reply => ih reply (h.2 reply)⟩

theorem transactFrom {ρ κ : Type} [Entity ρ κ] [DecidableEq ρ] (key : κ)
    (mutate : Option ρ → Option ρ × β) (overtaken left : Nat) :
    (transactFrom key mutate overtaken left).Writes (EntityKey.kind κ) := by
  induction left generalizing overtaken with
  | zero => trivial
  | succ left ih =>
    rw [transactFrom_succ, request_bind]
    refine ⟨nofun, fun reply => (WritesNothing.lift reply).writes.bind fun found => ?_⟩
    split
    · exact (WritesNothing.lift _).writes
    · rw [request_bind]
      refine ⟨fun _ _ _ _ h => by cases h; rfl, fun written => ?_⟩
      cases written with
      | true => exact ⟨nofun, fun saved => (WritesNothing.lift saved).writes.bind fun _ => trivial⟩
      | false => exact ih _

theorem transact {ρ κ : Type} [Entity ρ κ] [DecidableEq ρ] (key : κ)
    (mutate : Option ρ → Option ρ × β) : (transact key mutate).Writes (EntityKey.kind κ) :=
  transactFrom key mutate 0 _

theorem ensureInstance (key : InstanceKey) (url : String) (manager : ManagerKey) :
    (ensureInstance key url manager).Writes .machine := by
  unfold FleetReconciler.ensureInstance
  refine (WritesNothing.lookup key).writes.bind fun found => ?_
  split
  · exact (WritesNothing.pure _).writes
  refine ((transact key (Instance.createIfMissing _)).within _).bind fun created => ?_
  split
  · exact ((WritesNothing.note _).bind fun _ => .send ..).writes
  · exact (WritesNothing.pure _).writes

/-- Such a service alone leaves the records of other kinds alone. -/
theorem meets {service : Service α} (h : service.Writes kind) (c : Cloud σ) (order : List Nat)
    (s : Session σ) : service.Meets (Session.writing c order kind) (fun _ _ => True) s := by
  induction service generalizing s with
  | done a => exact fun _ _ => trivial
  | fail f => exact fun _ _ => trivial
  | ask r next ih =>
    intro t _
    refine ⟨?_, ih _ (h.2 _) _⟩
    cases r with
    | turns => exact .refl kind t
    | _ => exact Session.frame_perform c h.1 t

end Writes

theorem writes_compositional : Compositional fun _ service => service.Writes .machine where
  done _ := trivial
  fail _ := trivial
  bind := Writes.bind
  within context h := h.within context
  foreign hr h := ⟨by rintro _ _ _ _ rfl; exact hr.elim, h⟩
  enqueue t := (WritesNothing.enqueue t).writes
  lookup key := (WritesNothing.lookup key).writes
  records ρ := (WritesNothing.records ρ).writes
  change context key rule _ :=
    ((Writes.transact key (Change.mutation rule)).within context).bind fun _ => trivial

/-- The run of a service alone meets what the service meets. -/
theorem Meets.run {terms : Terms σ} {post : Except Failure α → σ → Prop} {service : Service α}
    {s : σ} (h : service.Meets terms post s) :
    post (service.run terms.perform s).1 (service.run terms.perform s).2 := by
  induction service generalizing s with
  | done a => exact h s (terms.refl s)
  | fail f => exact h s (terms.refl s)
  | ask r next ih => exact ih _ (h s (terms.refl s)).2

/-- What a service alone leaves is later than where it has started. -/
theorem Meets.run_since {terms : Terms σ} {post : Except Failure α → σ → Prop}
    {service : Service α} {s : σ} (h : service.Meets terms post s) (shared : terms.Shared) :
    terms.rely s (service.run terms.perform s).2 :=
  (h.since shared (terms.refl s)).run.1

/-! ## The order of turns of a listing -/

section Turns

variable (order : List Nat)

theorem inTurns_bind (service : Service α) (k : α → Service β) :
    (service >>= k).inTurns order = service.inTurns order >>= fun a => (k a).inTurns order := by
  induction service with
  | done a => rfl
  | fail f => rfl
  | ask r next ih =>
    cases r with
    | turns => exact ih order
    | _ => exact congrArg (ask _) (funext ih)

theorem inTurns_within (context : Context) (service : Service α) :
    (service.within context).inTurns order = (service.inTurns order).within context := by
  induction service with
  | done a => rfl
  | fail f => rfl
  | ask r next ih =>
    cases r with
    | turns => exact ih order
    | _ => exact congrArg (ask _) (funext ih)

theorem inTurns_lift (r : Except Failure α) : (lift r).inTurns order = lift r := by
  cases r <;> rfl

theorem inTurns_lookup {ρ κ : Type} [Entity ρ κ] (key : κ) :
    (lookup ρ key).inTurns order = lookup ρ key := by
  rw [lookup_eq, request_bind]
  refine congrArg (ask _) (funext fun reply => ?_)
  rw [inTurns_bind, inTurns_lift]
  simp only [inTurns_lift]

theorem inTurns_listPages (call : ListCall) (budget : Nat) :
    (listPages call budget).inTurns order = listPages call budget := by
  induction budget generalizing call with
  | zero => rfl
  | succ budget ih =>
    simp only [listPages, request, bind_ask, bind_done]
    refine congrArg (ask _) (funext fun reply => ?_)
    cases reply with
    | error e => rfl
    | ok page =>
      simp only
      split
      · rfl
      · rw [inTurns_bind, ih]
        rfl

/-- Nothing is in flight while a group is listed. -/
theorem inTurns_listInstances (key : ManagerKey) (pageSize : UInt32) :
    (listInstances key pageSize).inTurns order = listInstances key pageSize := by
  unfold listInstances
  rw [inTurns_bind, inTurns_lookup]
  congr 1
  funext manager
  cases manager with
  | none => rfl
  | some manager =>
    simp only
    split
    · rfl
    rw [inTurns_bind, inTurns_lookup]
    congr 1
    funext revision
    cases revision with
    | none => rfl
    | some revision =>
      simp only
      split
      · rw [inTurns_within]
        refine congrArg _ (congrArg (ask _) (funext fun budget => ?_))
        exact inTurns_listPages order _ _
      · rfl

end Turns

end Service

/-! ## What a discovery does to the managers -/

/-- What a discovery does to the records of managers, by what it has listed: nothing, or its own
manager gets the keys of the URLs, because they are another set than the keys that it had. -/
inductive Relisted (key : ManagerKey) (listing : Except Failure (List String))
    (s t : MemoryStore) : Prop where
  | kept (same : ∀ k, t.read Manager k = s.read Manager k)
  | rewritten {m : Manager} {urls : List String} {keys : List InstanceKey}
    (listed : listing = .ok urls) (named : urls.eraseDups.mapM key.instanceAt = .ok keys)
    (found : s.read Manager key = .ok (some m))
    (changed : KeySet.ofList m.instances ≠ KeySet.ofList keys)
    (stored : t.read Manager key = .ok (some { m with instances := keys }))
    (others : ∀ k, k ≠ key → t.read Manager k = s.read Manager k)

section Discovery

variable {c : Cloud σ} {order : List Nat} {s t : Session σ} {key : ManagerKey}
  {listing : Except Failure (List String)}

/-- What is left after records of instances were written. -/
theorem Relisted.after {u : Session σ} (h : Relisted key listing t.records u.records)
    (hst : s.Frame .machine t) : Relisted key listing s.records u.records := by
  have hread (k : ManagerKey) : t.records.read Manager k = s.records.read Manager k :=
    hst.read (by decide) k
  cases h with
  | kept same => exact .kept fun k => (same k).trans (hread k)
  | rewritten listed named found changed stored others =>
    exact .rewritten listed named ((hread key).symm.trans found) changed stored
      fun k hk => (others k hk).trans (hread k)

/-- What is left before records of instances are written. -/
theorem Relisted.before {u : Session σ} (h : Relisted key listing s.records t.records)
    (htu : t.Frame .machine u) : Relisted key listing s.records u.records := by
  have hread (k : ManagerKey) : u.records.read Manager k = t.records.read Manager k :=
    htu.read (by decide) k
  cases h with
  | kept same => exact .kept fun k => (hread k).trans (same k)
  | rewritten listed named found changed stored others =>
    exact .rewritten listed named found changed ((hread key).trans stored)
      fun k hk => (hread k).trans (others k hk)

/-- A service alone that writes instances at most. -/
theorem frame_run {service : Service α} (h : service.Writes .machine) (c : Cloud σ)
    (order : List Nat) (s : Session σ) :
    s.Frame .machine (service.run (Session.performInOrder c order) s).2 :=
  (h.meets c order s).run_since id

/-- What follows a service writes instances at most. -/
theorem frame_run_bind (service : Service α) (k : α → Service β) (hk : ∀ a, (k a).Writes .machine)
    (c : Cloud σ) (order : List Nat) (s : Session σ) :
    Session.Frame .machine (service.run (Session.performInOrder c order) s).2
      ((service >>= k).run (Session.performInOrder c order) s).2 := by
  rw [run_bind]
  cases service.run (Session.performInOrder c order) s with
  | mk r t =>
    cases r with
    | ok a => exact frame_run (hk a) c order t
    | error f => exact .refl _ t

/-- A transaction alone, whatever the order of turns. -/
theorem run_transact_inOrder {ρ κ : Type} [Entity ρ κ] [DecidableEq ρ] (key : κ)
    (mutate : Option ρ → Option ρ × β) (hm : s.InMemory) :
    (transact key mutate).run (Session.performInOrder c order) s =
      match attempt key mutate (s.records.find? (EntityKey.kind κ) (EntityKey.text key)) with
      | .stop r => (r, s)
      | .write _ record value => (.ok ⟨value, true⟩, s.withRecords
          (s.records.put (EntityKey.kind κ) (EntityKey.text key) (Entity.stored record))) := by
  refine run_transact _ key mutate s s.records (fun record => s.withRecords
    (s.records.put (EntityKey.kind κ) (EntityKey.text key) (Entity.stored record))) rfl
    (fun record => ?_) fun record => (hm.withRecords _).save
  simp [Session.performInOrder, Session.perform, MemoryStore.commit_eq]

/-- The list of a manager is written if its keys are another set. -/
theorem relisted_setInstances {urls : List String} {keys : List InstanceKey} (hm : s.InMemory)
    (hnamed : urls.eraseDups.mapM key.instanceAt = .ok keys) :
    Relisted key (.ok urls) s.records
      ((setInstances key keys).run (Session.performInOrder c order) s).2.records := by
  let service := transact key (Change.mutation (Manager.list? keys))
  have hwritten : Relisted key (.ok urls) s.records
      (service.run (Session.performInOrder c order) s).2.records := by
    simp only [service, run_transact_inOrder key _ hm]
    cases hdecision : attempt key (Change.mutation (Manager.list? keys))
        (s.records.find? (EntityKey.kind ManagerKey) (EntityKey.text key)) with
    | stop result => exact .kept fun _ => rfl
    | write version record value =>
      obtain ⟨m, hread, hlist, -⟩ := attempt_change_eq_write hdecision
      simp only [Manager.list?] at hlist
      split at hlist
      · cases hlist
      · rename_i hchanged
        obtain rfl := Option.some.inj hlist
        simp only [Session.records_withRecords]
        refine .rewritten rfl hnamed hread hchanged (MemoryStore.read_put_self ..) fun k hk => ?_
        exact MemoryStore.read_put_of_ne _ (fun h => hk (EntityKey.text_injective h.2)) _
  -- the transaction is followed by a notice at most
  have hchange : Session.Frame .machine (service.run (Session.performInOrder c order) s).2
      ((Service.change (.updatingInstances key) key (Manager.list? keys)).run
        (Session.performInOrder c order) s).2 := by
    have hframe := frame_run_bind (service.within (.updatingInstances key))
      (fun r => pure r.value) (fun _ => trivial) c order s
    rwa [run_within] at hframe
  refine hwritten.before (hchange.trans (frame_run_bind _ _ (fun r => ?_) c order s))
  obtain ⟨change, found⟩ := r
  cases change with
  | missing => exact ((WritesNothing.note _).bind fun _ => .pure _).writes
  | updated => exact ((WritesNothing.note _).bind fun _ => .pure _).writes
  | unchanged => trivial

/-- While the instances are recorded, managers are left alone. -/
theorem frame_creations (limit : Nat) (listed : List (InstanceKey × String)) (manager : ManagerKey)
    (c : Cloud σ) (order : List Nat) (s : Session σ) :
    s.Frame .machine ((gather limit (listed.map fun (k, url) => ensureInstance k url manager)).run
      (Session.performInOrder c order) s).2 := by
  let aim (p : InstanceKey × String) : Aim (Session.writing c order .machine) Unit :=
    ⟨ensureInstance p.1 p.2 manager, fun _ _ => True, fun _ _ => trivial⟩
  have hgather := gather_meets id limit (s := s) (fun t _ => Session.Frame.refl .machine t)
    fun a (ha : a ∈ listed.map aim) => by
      obtain ⟨p, -, rfl⟩ := List.mem_map.1 ha
      exact (Writes.ensureInstance p.1 p.2 manager).meets c order s
  rw [List.map_map] at hgather
  exact hgather.run_since id

/-- **A discovery that runs alone writes the list of its own manager at most**, and if so the keys
of what it has listed. -/
theorem relisted_discover (settings : DiscoverySettings) (hm : s.InMemory) :
    Relisted key (s.serve c (listInstances key settings.pageSize)).1 s.records
      (s.serve c ((discover key settings).inTurns order)).2.records := by
  have hlisting : (listInstances key settings.pageSize).run (Session.performInOrder c order) s =
      s.serve c (listInstances key settings.pageSize) := by
    rw [← Session.serve_inTurns, inTurns_listInstances]
  have hframe := frame_run (writes_compositional.listInstances key settings.pageSize) c order s
  rw [Session.serve_inTurns, discover, run_bind]
  rw [hlisting] at hframe ⊢
  cases hserve : s.serve c (listInstances key settings.pageSize) with
  | mk listing t =>
    rw [hserve] at hframe
    cases listing with
    | error f => exact .kept fun k => hframe.read (by decide) k
    | ok urls =>
      have hmt : t.InMemory := hframe.inMemory hm
      refine Relisted.after ?_ hframe
      simp only
      split
      · rename_i hempty
        refine (relisted_setInstances hmt ?_).before
          (frame_run_bind _ _ (fun _ => (WritesNothing.pure ()).writes) c order t)
        rw [hempty]
        rfl
      rw [run_bind, run_lift]
      cases hkeys : urls.eraseDups.mapM key.instanceAt with
      | error f => exact .kept fun _ => rfl
      | ok keys =>
        simp only
        rw [run_bind]
        have hcreated := frame_creations (max settings.maxConcurrent.toNat 1)
          (keys.zip urls.eraseDups) key c order t
        generalize (gather _ _).run (Session.performInOrder c order) t = created at hcreated ⊢
        obtain ⟨results, u⟩ := created
        have hmu : u.InMemory := hcreated.inMemory hmt
        refine Relisted.after ?_ hcreated
        cases results with
        | error f => exact .kept fun _ => rfl
        | ok results =>
          simp only
          cases firstFailure? results with
          | some f => exact .kept fun _ => rfl
          | none =>
            exact (relisted_setInstances hmu hkeys).before
              (frame_run_bind _ _ (fun _ => (WritesNothing.pure ()).writes) c order u)

end Discovery

/-! ## Lists without repetitions -/

/-- Two of the URLs are different texts and name the same instance. -/
def NamesTwice (urls : List String) : Prop :=
  ∃ u ∈ urls, ∃ v ∈ urls, u ≠ v ∧ instanceName? u = instanceName? v

/-- No list of a manager repeats a key. -/
def MemoryStore.ListsOnce (s : MemoryStore) : Prop :=
  ∀ key m, s.read Manager key = .ok (some m) → m.instances.Nodup

/-- The keys of URLs, taken once each, are different just if no two URLs name one instance. -/
theorem nodup_keys_iff {key : ManagerKey} {urls : List String} {keys : List InstanceKey}
    (h : urls.eraseDups.mapM key.instanceAt = .ok keys) : keys.Nodup ↔ ¬ NamesTwice urls := by
  have hall := mapM_eq_ok h
  have hnames : keys.map (fun k => some k.name.text) = urls.eraseDups.map instanceName? := by
    clear h
    generalize urls.eraseDups = distinct at hall
    induction hall with
    | nil => rfl
    | cons hurl _ ih =>
      rw [List.map_cons, List.map_cons, ih, (ManagerKey.of_instanceAt hurl).2]
  have hparent : ∀ k ∈ keys, k.parent = key := by
    intro k hk
    obtain ⟨url, hp⟩ : ∃ url, (k, url) ∈ keys.zip urls.eraseDups := by
      rw [← List.map_fst_zip (Nat.le_of_eq hall.length_eq)] at hk
      obtain ⟨⟨listed, url⟩, hp, rfl⟩ := List.mem_map.1 hk
      exact ⟨url, hp⟩
    exact (ManagerKey.of_instanceAt ((List.forall₂_iff_zip.1 hall).2 hp)).1
  -- the keys are those of one manager, so their names tell them apart
  have hkeys : keys.Nodup ↔ (keys.map fun k => some k.name.text).Nodup := by
    refine ⟨fun hnodup => hnodup.map_on ?_, List.Nodup.of_map _⟩
    rintro ⟨parent, ⟨name, hname⟩⟩ hk ⟨parent', ⟨name', hname'⟩⟩ hk' hsame
    obtain rfl : parent = parent' := (hparent _ hk).trans (hparent _ hk').symm
    obtain rfl : name = name' := Option.some.inj hsame
    rfl
  rw [hkeys, hnames, List.nodup_map_iff_inj_on (nodup_eraseDups urls)]
  simp only [List.mem_eraseDups, NamesTwice, not_exists, not_and]
  exact ⟨fun hinj u hu v hv hne hsame => hne (hinj u hu v hv hsame),
    fun hno u hu v hv hsame => not_not.1 fun hne => hno u hu v hv hne hsame⟩

/-- **When a list repeats a key.** A discovery runs alone on a store whose lists repeat no key, with
any answers of the cloud and any order in which it records the instances. It rewrites the list of its
own manager at most; and there is a list with a repeated key afterwards just if it has done so and
two different URLs of the listing name one instance. -/
theorem repeated_members_iff (c : Cloud σ) (key : ManagerKey) (settings : DiscoverySettings)
    (order : List Nat) {s : Session σ} (hm : s.InMemory) (hlists : s.records.ListsOnce) :
    let listing := (s.serve c (listInstances key settings.pageSize)).1
    let t := (s.serve c ((discover key settings).inTurns order)).2
    Relisted key listing s.records t.records ∧
    (t.records.ListsOnce ↔ ¬ (t.records.read Manager key ≠ s.records.read Manager key ∧
      ∃ urls, listing = .ok urls ∧ NamesTwice urls)) := by
  intro listing t
  have hrelisted : Relisted key listing s.records t.records := relisted_discover settings hm
  refine ⟨hrelisted, ?_⟩
  cases hrelisted with
  | kept same =>
    refine ⟨fun _ h => h.1 (same key), fun _ k m hread => ?_⟩
    exact hlists k m ((same k).symm.trans hread)
  | @rewritten m urls keys listed named found changed stored others =>
    constructor
    · rintro honce ⟨-, urls', hurls', htwice⟩
      obtain rfl : urls = urls' := Except.ok.inj (listed.symm.trans hurls')
      exact (nodup_keys_iff named).1 (honce key _ stored) htwice
    · intro hnot k m' hread
      by_cases hk : k = key
      · subst hk
        obtain rfl : { m with instances := keys } = m' :=
          Option.some.inj (Except.ok.inj (stored.symm.trans hread))
        refine (nodup_keys_iff named).2 fun htwice => hnot ⟨?_, urls, listed, htwice⟩
        -- the list is another one, so the record is
        rw [stored, found]
        intro hsame
        refine changed (congrArg KeySet.ofList ?_)
        exact (congrArg Manager.instances (Option.some.inj (Except.ok.inj hsame))).symm
      · exact hlists k m' ((others k hk).symm.trans hread)

/-! ### Listings of one instance -/

namespace Sample

/-- The manager with a URL. -/
def managed : Manager := { key := managerKey, url := some "https://x/manager" }

/-- A store with the manager and its revision. -/
def managedStore : MemoryStore :=
  [AnyRecord.revision { key := managerKey.parent, project := some "p" }, .manager managed].foldl
    (fun s r => s.apply r.write) {}

/-- A session on the store in which the group of the manager is listed on one page. -/
def reporting (urls : List String) : Session CloudScript where
  backend := .memory managedStore
  cloud := { list := [.ok { items := urls.map fun url => { url } }] }
  clock := midnight

theorem listsOnce_reporting (urls : List String) : (reporting urls).records.ListsOnce := by
  have hrows : managedStore.rows .manager =
      [(EntityKey.text managerKey, Entity.stored managed)] := by decide +kernel
  have heach : managedStore.Each Manager fun m => m.instances.Nodup := by
    intro row hrow
    obtain rfl := List.mem_singleton.1 (hrows ▸ hrow)
    exact ⟨managed, LawfulEntity.decode_stored managed, rfl, List.nodup_nil⟩
  exact fun _ _ hread => heach.of_read hread

end Sample

/-- A URL that is listed twice is taken once. -/
theorem repeated_url_is_listed_once :
    let s := Sample.reporting ["https://x/vm", "https://x/vm"]
    s.records.ListsOnce ∧
      (s.serve CloudScript.cloud ((discover Sample.managerKey {}).inTurns [])).2.records.ListsOnce := by
  intro s
  have honce : s.records.ListsOnce := Sample.listsOnce_reporting _
  have hlisting : (s.serve CloudScript.cloud (listInstances Sample.managerKey 500)).1 =
      .ok ["https://x/vm", "https://x/vm"] := by decide +kernel
  refine ⟨honce, (repeated_members_iff CloudScript.cloud Sample.managerKey {} [] ⟨_, rfl⟩ honce).2.2 ?_⟩
  rintro ⟨-, urls, hurls, u, hu, v, hv, hne, -⟩
  obtain rfl : ["https://x/vm", "https://x/vm"] = urls := Except.ok.inj (hlisting.symm.trans hurls)
  simp only [List.mem_cons, List.not_mem_nil, or_false, or_self] at hu hv
  exact hne (hu.trans hv.symm)

/-- A URL and the same with a slash behind it are both taken, and the list repeats the key. -/
theorem member_listed_twice :
    let s := Sample.reporting ["https://x/vm", "https://x/vm/"]
    s.records.ListsOnce ∧
      ¬ (s.serve CloudScript.cloud
        ((discover Sample.managerKey {}).inTurns [])).2.records.ListsOnce := by
  intro s
  have hlist : (s.serve CloudScript.cloud
      ((discover Sample.managerKey {}).inTurns [])).2.records.read Manager Sample.managerKey =
        .ok (some { Sample.managed with
          instances := [Sample.machine.key, Sample.machine.key] }) := by decide +kernel
  refine ⟨Sample.listsOnce_reporting _, fun honce => ?_⟩
  have hnodup : [Sample.machine.key, Sample.machine.key].Nodup := honce _ _ hlist
  simp at hnodup

end FleetReconciler
