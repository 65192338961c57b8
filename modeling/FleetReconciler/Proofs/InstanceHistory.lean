import FleetReconciler.Proofs.JobUpkeep

/-!
# The history of records

What may become of a record while the services of the reconciler are at work. Most fields of an
instance are fixed when it is made, the mark for deletion and the time of deletion are set once, and
an instance gets a subscription once.

* `Instance.Evolves` — what may become of an instance between two moments;
* `MemoryStore.Evolves` — what may become of a store, with `Evolves.refl` and `Evolves.trans`;
* `MemoryStore.Upkeep.evolves` — every write of a service follows it;
* `Instance.EndsLease` — the write that marks an instance leaves it without a lease;
* `Crowd.records_evolve` — **so it is in every run, from any moment to any later one**.
-/

namespace FleetReconciler

open Service

/-! ## Instances -/

namespace Instance

/-- The subscription of an instance and what goes with it are left as they are. -/
def KeepsSubscription (i j : Instance) : Prop :=
  j.subscription = i.subscription ∧ j.serviceAccount = i.serviceAccount ∧
    j.pendingMetadataUpdates = i.pendingMetadataUpdates

/-- An instance without a subscription gets one, and the update of its metadata that tells it. -/
def GainsSubscription (i j : Instance) : Prop :=
  Text.nonEmpty? i.subscription = none ∧
    ∃ project subscription serviceAccount update,
      update.metadata = [("pubsub_service_account", serviceAccount),
        ("pubsub_subscription", subscription), ("pubsub_subscription_project", project)] ∧
      j.subscription = some (subscriptionPath project subscription) ∧
      j.serviceAccount = some serviceAccount ∧
      j.pendingMetadataUpdates = i.pendingMetadataUpdates ++ [update]

/-- What may become of an instance. -/
structure Evolves (i j : Instance) : Prop where
  key : j.key = i.key
  url : j.url = i.url
  hostname : j.hostname = i.hostname
  instanceGroupManager : j.instanceGroupManager = i.instanceGroupManager
  cataloged : j.cataloged = i.cataloged
  pendingDeletion : i.pendingDeletion = true → j.pendingDeletion = true
  deletionTime : ∀ time, i.deletionTime = some time → j.deletionTime = some time
  subscription : i.KeepsSubscription j ∨ i.GainsSubscription j

/-- A name of a subscription is never empty. -/
theorem nonEmpty?_subscriptionPath (project subscription : String) :
    Text.nonEmpty? (some (subscriptionPath project subscription)) ≠ none := by
  simp [Text.nonEmpty?, subscriptionPath]

theorem Evolves.trans {i j k : Instance} (h : i.Evolves j) (h' : j.Evolves k) : i.Evolves k where
  key := h'.key.trans h.key
  url := h'.url.trans h.url
  hostname := h'.hostname.trans h.hostname
  instanceGroupManager := h'.instanceGroupManager.trans h.instanceGroupManager
  cataloged := h'.cataloged.trans h.cataloged
  pendingDeletion := h'.pendingDeletion ∘ h.pendingDeletion
  deletionTime time := h'.deletionTime time ∘ h.deletionTime time
  subscription := by
    rcases h.subscription with ⟨hs, ha, hu⟩ | hgain
    · rcases h'.subscription with ⟨hs', ha', hu'⟩ | hgain
      · exact .inl ⟨hs'.trans hs, ha'.trans ha, hu'.trans hu⟩
      · rw [GainsSubscription, hs, hu] at hgain
        exact .inr hgain
    · obtain ⟨hnone, project, subscription, account, update, hmetadata, hs, ha, hu⟩ := hgain
      rcases h'.subscription with ⟨hs', ha', hu'⟩ | ⟨hnone', -⟩
      · exact .inr ⟨hnone, project, subscription, account, update, hmetadata, hs'.trans hs,
          ha'.trans ha, hu'.trans hu⟩
      · -- what was gained once is not gained again
        rw [hs] at hnone'
        exact (nonEmpty?_subscriptionPath project subscription hnone').elim

/-- Marked for deletion, an instance has no lease. -/
def EndsLease (i j : Instance) : Prop :=
  i.pendingDeletion = false → j.pendingDeletion = true → j.leaseExpiration = none

/-- Each of the four changes is one that an instance may undergo. -/
theorem Step.evolves {i j : Instance} (h : i.Step j) : i.Evolves j where
  key := h.key_eq
  url := by cases h <;> rfl
  hostname := by cases h <;> rfl
  instanceGroupManager := by cases h <;> rfl
  cataloged := by cases h <;> rfl
  pendingDeletion := by cases h <;> simp
  deletionTime := by
    cases h with
    | delete time undeleted => simp [undeleted]
    | _ => exact fun _ => id
  subscription := by
    cases h with
    | subscribe project subscription serviceAccount unsubscribed =>
      refine .inr ⟨unsubscribed, project, subscription, serviceAccount, _, ?_, rfl, rfl, rfl⟩
      refine Table.ofList_of_ascending ?_
      simp only [Table.Ascending, List.pairwise_cons, List.mem_cons, forall_eq_or_imp,
        List.not_mem_nil, false_imp_iff, implies_true, and_true]
      decide
    | _ => exact .inl ⟨rfl, rfl, rfl⟩

/-- The change that marks an instance ends its lease. -/
theorem Step.endsLease {i j : Instance} (h : i.Step j) : i.EndsLease j := by
  cases h with
  | mark unmarked => exact fun _ _ => rfl
  | _ => exact fun hi hj => nomatch hi.symm.trans hj

end Instance

/-! ## Stores -/

namespace MemoryStore

/-- The values under an id of a kind: what is there stays there, and where it changes, both values
decode and are related. -/
def EachEvolves (ρ : Type) {κ : Type} [Entity ρ κ] (R : ρ → ρ → Prop) (s t : MemoryStore) : Prop :=
  ∀ id x, s.find? (EntityKey.kind κ) id = some x →
    ∃ y, t.find? (EntityKey.kind κ) id = some y ∧
      (y.value = x.value ∨
        ∃ r r' : ρ, Entity.decode x.value = .ok r ∧ Entity.decode y.value = .ok r' ∧ R r r')

/-- What may become of a store. -/
structure Evolves (s t : MemoryStore) : Prop where
  instances : EachEvolves Instance Instance.Evolves s t
  managers : EachEvolves Manager (fun m m' => ∃ instances, m' = { m with instances }) s t
  noNewManager : ∀ id, s.find? .manager id = none → t.find? .manager id = none
  revisions : ∀ id, t.find? .revision id = s.find? .revision id
  templates : ∀ id, t.find? .template id = s.find? .template id

section EachEvolves

variable {ρ κ : Type} [Entity ρ κ] {R : ρ → ρ → Prop} {s t u : MemoryStore}

theorem EachEvolves.refl (R : ρ → ρ → Prop) (s : MemoryStore) : s.EachEvolves ρ R s :=
  fun _ x hx => ⟨x, hx, .inl rfl⟩

theorem EachEvolves.trans (trans : ∀ {r r' r''}, R r r' → R r' r'' → R r r'')
    (h : s.EachEvolves ρ R t) (h' : t.EachEvolves ρ R u) : s.EachEvolves ρ R u := by
  intro id x hx
  obtain ⟨y, hy, hxy⟩ := h id x hx
  obtain ⟨z, hz, hyz⟩ := h' id y hy
  refine ⟨z, hz, ?_⟩
  rcases hxy with hxy | ⟨r, r', hr, hr', hR⟩
  · rw [hxy] at hyz
    exact hyz
  · rcases hyz with hyz | ⟨q, q', hq, hq', hR'⟩
    · rw [← hyz] at hr'
      exact .inr ⟨r, r', hr, hr', hR⟩
    · obtain rfl : r' = q := Except.ok.inj (hr'.symm.trans hq)
      exact .inr ⟨r, q', hr, hq', trans hR hR'⟩

/-- A write elsewhere, or where nothing is yet. -/
theorem EachEvolves.put_other {kind : Kind} {id : String} (value : Json)
    (h : kind = EntityKey.kind κ → s.find? kind id = none) :
    s.EachEvolves ρ R (s.put kind id value) := by
  intro id' x hx
  refine ⟨x, ?_, .inl rfl⟩
  rw [find?_put]
  split
  · rename_i hsame
    obtain ⟨hkind, rfl⟩ := hsame
    rw [hkind, h hkind.symm] at hx
    cases hx
  · exact hx

/-- A write of what may become of the record that is there. -/
theorem EachEvolves.put_self [LawfulEntity ρ] {key : κ} {r r' : ρ}
    (hread : s.read ρ key = .ok (some r)) (hR : R r r') :
    s.EachEvolves ρ R (s.put (EntityKey.kind κ) (EntityKey.text key) (Entity.stored r')) := by
  intro id x hx
  by_cases hid : id = EntityKey.text key
  · subst hid
    exact ⟨_, find?_put_self .., .inr ⟨r, r', decode_of_read hread hx,
      LawfulEntity.decode_stored r', hR⟩⟩
  · exact ⟨x, by rw [find?_put, if_neg fun h => hid h.2, hx], .inl rfl⟩

end EachEvolves

theorem Evolves.refl (s : MemoryStore) : s.Evolves s where
  instances := .refl _ s
  managers := .refl _ s
  noNewManager _ := id
  revisions _ := rfl
  templates _ := rfl

theorem Evolves.trans {s t u : MemoryStore} (h : s.Evolves t) (h' : t.Evolves u) :
    s.Evolves u where
  instances := h.instances.trans Instance.Evolves.trans h'.instances
  managers := h.managers.trans (by rintro m _ _ ⟨_, rfl⟩ ⟨l, rfl⟩; exact ⟨l, rfl⟩) h'.managers
  noNewManager id := h'.noNewManager id ∘ h.noNewManager id
  revisions id := (h'.revisions id).trans (h.revisions id)
  templates id := (h'.templates id).trans (h.templates id)

/-- A write to the instances is one that a store may undergo if the instances may. -/
theorem EachEvolves.evolves {s : MemoryStore} {id : String} {value : Json}
    (h : s.EachEvolves Instance Instance.Evolves (s.put .machine id value)) :
    s.Evolves (s.put .machine id value) := by
  have hother {kind : Kind} (hkind : kind.name ≠ Kind.machine.name) (id' : String) :=
    find?_put_of_kind_ne s hkind id id' value
  exact ⟨h, .put_other _ nofun, fun id' hid => (hother (by decide) id').trans hid,
    hother (by decide), hother (by decide)⟩

/-- **Every write of a service is one that a store may undergo.** -/
theorem Upkeep.evolves {s : MemoryStore} {w : Write} (h : s.Upkeep w) : s.Evolves (s.apply w) := by
  cases h with
  | change found step => exact EachEvolves.evolves (.put_self found step.evolves)
  | create missing named => exact EachEvolves.evolves (.put_other _ fun _ => missing)
  | @list m instances found listed =>
    have hother {kind : Kind} (hkind : kind.name ≠ Kind.manager.name) (value : Json) (id : String) :=
      find?_put_of_kind_ne s hkind (EntityKey.text m.key) id value
    refine ⟨.put_other _ nofun, .put_self found ⟨instances, rfl⟩, fun id hid => ?_,
      hother (by decide) _, hother (by decide) _⟩
    -- the manager that gets a list has a record already
    have hsome : (s.find? .manager (EntityKey.text m.key)).isSome := (isSome_read found).symm
    rw [apply, find?_put, if_neg, hid]
    rintro ⟨-, rfl⟩
    rw [hid] at hsome
    cases hsome

/-- An instance that is marked between two moments has no lease at the second. -/
def EndsLeases (s t : MemoryStore) : Prop :=
  ∀ id x y (i j : Instance), s.find? .machine id = some x → t.find? .machine id = some y →
    Entity.decode x.value = .ok i → Entity.decode y.value = .ok j → i.EndsLease j

/-- **The write that marks an instance ends its lease.** -/
theorem Tended.endsLeases {s t : MemoryStore} (h : s.Tended t) : s.EndsLeases t := by
  intro id x y i j hx hy hi hj
  have hsame (h : y = x) : i.EndsLease j := by
    subst h
    obtain rfl : i = j := Except.ok.inj (hi.symm.trans hj)
    exact fun hi hj => nomatch hi.symm.trans hj
  rcases h with rfl | ⟨w, hw, rfl⟩
  · exact hsame (Option.some.inj (hy.symm.trans hx))
  rw [apply, find?_put] at hy
  split at hy
  · rename_i hplace
    cases hw with
    | @change i' j' found step =>
      obtain ⟨-, rfl⟩ := hplace
      cases hy
      obtain rfl : i' = i := Except.ok.inj ((decode_of_read found hx).symm.trans hi)
      obtain rfl : j' = j := Except.ok.inj ((LawfulEntity.decode_stored j').symm.trans hj)
      exact step.endsLease
    | create missing named =>
      obtain ⟨-, rfl⟩ := hplace
      rw [missing] at hx
      cases hx
    | list found listed => cases hplace.1
  · exact hsame (Option.some.inj (hy.symm.trans hx))

end MemoryStore

/-! ## Runs -/

namespace Crowd

/-- **From any moment of a run to any later one, instances are never removed and change only as they
may: what is fixed stays, a mark stays, a time of deletion stays, a subscription is gained at most
once and then stays; templates and revisions stay, and of managers all but the lists. The write that
marks an instance ends its lease.** -/
theorem records_evolve {σ : Type} (c : Cloud σ) (session : Session σ) (store : MemoryStore)
    (jobs : List Job) (before after : List Advance) (next : Advance) :
    let start : Crowd σ Unit := start session store (jobs.map Job.service)
    (start.work c before).world.records.Evolves (start.work c (before ++ after)).world.records ∧
      (start.work c before).world.records.EndsLeases
        (start.work c (before ++ [next])).world.records := by
  intro start
  have hatWork : (start.work c before).AtWork :=
    (atWork_start session store jobs).work c before
  rw [work_append, work_append]
  refine ⟨hatWork.relates c MemoryStore.Evolves.refl MemoryStore.Evolves.trans
    (fun _ _ h => h.evolves) after, ?_⟩
  exact (hatWork.turn c next).1.endsLeases

end Crowd

end FleetReconciler
