import FleetReconciler.Proofs.CreationsAlone
import FleetReconciler.Proofs.PagedListing
import FleetReconciler.Proofs.ReportedChanges

/-!
# What a discovery has recorded

A discovery that nobody disturbs records what it has listed: a record for each instance, an event
for each record that it has made, and the list of the manager, which is left alone if it names the
same instances already.

* `ListWritten`, `Session.serve_setInstances` — what becomes of a list that is written;
* `ListRecorded` — the list of a manager names the instances of some URLs;
* `Session.serve_discover_of_listed`, `Session.serve_recordListed` — a discovery alone, part by part;
* `recorded_discovery`, `emptied_discovery` — what one leaves that has listed some URLs, and none;
* `discovery_records_what_is_listed` — **all of it in one**.
-/

namespace FleetReconciler

open Service

variable {σ α : Type}

/-! ## The list of a manager -/

/-- What becomes of the list of a manager, with the result and the store that is left. -/
inductive ListWritten (key : ManagerKey) (keys : List InstanceKey) (s : MemoryStore) :
    Except Failure Change → MemoryStore → Prop
  | missing (found : s.read Manager key = .ok none) : ListWritten key keys s (.ok .missing) s
  | unchanged {m : Manager} (found : s.read Manager key = .ok (some m))
      (already : ∀ k, k ∈ m.instances ↔ k ∈ keys) : ListWritten key keys s (.ok .unchanged) s
  | updated {m : Manager} (found : s.read Manager key = .ok (some m))
      (others : ¬ ∀ k, k ∈ m.instances ↔ k ∈ keys) :
      ListWritten key keys s (.ok .updated) (s.put .manager (EntityKey.text key)
        (Entity.stored { m with instances := keys }))
  | unreadable {f g : Failure} (found : s.read Manager key = .error g) :
      ListWritten key keys s (.error f) s
  /-- The record is under the key of another manager. -/
  | misfiled {m : Manager} {f : Failure} (found : s.read Manager key = .ok (some m))
      (others : ¬ ∀ k, k ∈ m.instances ↔ k ∈ keys) (other : m.key ≠ key) :
      ListWritten key keys s (.error f) s

/-- The decision of an attempt to change the list of a manager, by what is read. -/
theorem attempt_list (key : ManagerKey) (keys : List InstanceKey) (s : MemoryStore) :
    let decision := attempt key (Change.mutation (Manager.list? keys))
      (s.find? (EntityKey.kind ManagerKey) (EntityKey.text key))
    (∃ f, s.read Manager key = .error f ∧ decision = .stop (.error f)) ∨
    (s.read Manager key = .ok none ∧ decision = .stop (.ok ⟨(.missing, none), false⟩)) ∨
    ∃ m, s.read Manager key = .ok (some m) ∧
      (((∀ k, k ∈ m.instances ↔ k ∈ keys) ∧
          decision = .stop (.ok ⟨(.unchanged, some m), false⟩)) ∨
        (¬ ∀ k, k ∈ m.instances ↔ k ∈ keys) ∧
          ((m.key ≠ key ∧ ∃ f, decision = .stop (.error f)) ∨
            ∃ version, decision =
              .write version { m with instances := keys } (.updated, some m))) := by
  intro decision
  have hedits := Manager.edits_list keys
  cases hdecode : decodeStored (ρ := Manager) (EntityKey.kind ManagerKey) (EntityKey.text key)
      (s.find? (EntityKey.kind ManagerKey) (EntityKey.text key)) with
  | error f =>
    refine .inl ⟨f, ?_, ?_⟩
    · rw [MemoryStore.read, hdecode]
      rfl
    · simp only [decision, attempt, hdecode]
  | ok p =>
    obtain ⟨version, current⟩ := p
    have hread := read_eq_ok.2 ⟨version, hdecode⟩
    cases current with
    | none =>
      refine .inr (.inl ⟨hread, ?_⟩)
      simp only [decision, attempt, hdecode, Change.mutation, nextRecord, if_true]
    | some m =>
      refine .inr (.inr ⟨m, hread, ?_⟩)
      by_cases hmet : ∀ k, k ∈ m.instances ↔ k ∈ keys
      · refine .inl ⟨hmet, ?_⟩
        simp only [decision, attempt, hdecode, Change.mutation, hedits.leaves m hmet, nextRecord,
          if_true]
      · refine .inr ⟨hmet, ?_⟩
        have hchanged : some { m with instances := keys } ≠ some m := fun h =>
          hedits.changes m hmet (Option.some.inj h)
        by_cases hkey : EntityKey.components m.key = EntityKey.components key
        · refine .inr ⟨version, ?_⟩
          have hsame : EntityKey.components (Entity.key { m with instances := keys }) =
              EntityKey.components key := hkey
          simp only [decision, attempt, hdecode, Change.mutation, hedits.edits m hmet, nextRecord,
            if_neg hchanged, if_pos hsame]
        · refine .inl ⟨fun h => hkey (h ▸ rfl), .of (.store (.keyMismatch .manager
            (EntityKey.text key) (EntityKey.text m.key))), ?_⟩
          have hother : ¬ EntityKey.components (Entity.key { m with instances := keys }) =
              EntityKey.components key := hkey
          simp only [decision, attempt, hdecode, Change.mutation, hedits.edits m hmet, nextRecord,
            if_neg hchanged, if_neg hother]
          rfl

namespace Session

/-- **A list that is written alone.** -/
theorem serve_setInstances {c : Cloud σ} {key : ManagerKey} {keys : List InstanceKey}
    {s t : Session σ} {result : Except Failure Change} (hm : s.InMemory)
    (hserve : s.serve c (setInstances key keys) = (result, t)) :
    ListWritten key keys s.records result t.records ∧ t.events = s.events ∧ t.InMemory := by
  have htransact := serve_transact c key (Change.mutation (Manager.list? keys)) hm
  unfold serve at htransact hserve
  simp only [setInstances, Service.change, run_bind, run_within, htransact] at hserve
  rcases attempt_list key keys s.records with ⟨f, hread, hdecision⟩ | ⟨hread, hdecision⟩ |
    ⟨m, hread, ⟨hmet, hdecision⟩ | ⟨hother, ⟨hkey, f, hdecision⟩ | ⟨version, hdecision⟩⟩⟩
  · rw [hdecision] at hserve
    cases hserve
    exact ⟨.unreadable hread, rfl, hm⟩
  · rw [hdecision] at hserve
    cases hserve
    exact ⟨.missing hread, rfl, hm⟩
  · rw [hdecision] at hserve
    cases hserve
    exact ⟨.unchanged hread hmet, rfl, hm⟩
  · rw [hdecision] at hserve
    cases hserve
    exact ⟨.misfiled hread hother hkey, rfl, hm⟩
  · rw [hdecision] at hserve
    cases hserve
    refine ⟨?_, rfl, hm.withRecords _⟩
    have hwritten := ListWritten.updated hread hother
    have hrecords := s.records_withRecords (s.records.put .manager (EntityKey.text key)
      (Entity.stored { m with instances := keys }))
    rw [← hrecords] at hwritten
    exact hwritten

end Session

/-- All records but that of the manager stay. -/
theorem ListWritten.find?_eq {key : ManagerKey} {keys : List InstanceKey} {s t : MemoryStore}
    {result : Except Failure Change} (h : ListWritten key keys s result t) {kind : Kind}
    {id : String} (hother : ¬ (kind = .manager ∧ id = EntityKey.text key)) :
    t.find? kind id = s.find? kind id := by
  cases h with
  | updated => rw [MemoryStore.find?_put, if_neg hother]
  | _ => rfl

/-- The list of a manager names some instances, those in `named`; the record was not written if it
did so already. -/
inductive ListRecorded (key : ManagerKey) (named : InstanceKey → Prop) (s t : MemoryStore) : Prop
  | missing (before : s.read Manager key = .ok none) (after : t.read Manager key = .ok none)
  | kept {m : Manager} (before : s.read Manager key = .ok (some m))
      (already : ∀ k, k ∈ m.instances ↔ named k)
      (same : t.find? .manager (EntityKey.text key) = s.find? .manager (EntityKey.text key))
  | replaced {m : Manager} {keys : List InstanceKey} (before : s.read Manager key = .ok (some m))
      (others : ¬ ∀ k, k ∈ m.instances ↔ named k) (listed : ∀ k, k ∈ keys ↔ named k)
      (after : t.read Manager key = .ok (some { m with instances := keys }))

/-- A list that was written after the record of the manager was left alone. -/
theorem ListWritten.recorded {key : ManagerKey} {keys : List InstanceKey} {s t u : MemoryStore}
    {change : Change} {named : InstanceKey → Prop} (h : ListWritten key keys t (.ok change) u)
    (hsame : t.find? .manager (EntityKey.text key) = s.find? .manager (EntityKey.text key))
    (hkeys : ∀ k, k ∈ keys ↔ named k) : ListRecorded key named s u := by
  have hread : t.read Manager key = s.read Manager key := by
    have hkind : EntityKey.kind ManagerKey = .manager := rfl
    rw [MemoryStore.read, MemoryStore.read, hkind, hsame]
  cases h with
  | missing found => exact .missing (hread ▸ found) found
  | unchanged found already =>
    exact .kept (hread ▸ found) (fun k => (already k).trans (hkeys k)) hsame
  | updated found others =>
    refine .replaced (hread ▸ found) (fun h => others fun k => (h k).trans (hkeys k).symm) hkeys ?_
    exact MemoryStore.read_put_self t key _

/-! ## A discovery alone -/

/-- What a discovery has recorded that has listed some URLs. -/
structure DiscoveryRecorded (key : ManagerKey) (urls : List String) (s t : Session σ) : Prop where
  instances : ∃ events, t.events = s.events ++ events ∧
    InstancesRecorded key urls s.records t.records events
  list : ListRecorded key (fun k => ∃ url ∈ urls, key.instanceAt url = .ok k) s.records t.records
  others : ∀ kind id, kind ≠ .machine → ¬ (kind = .manager ∧ id = EntityKey.text key) →
    t.records.find? kind id = s.records.find? kind id
  inMemory : t.InMemory

/-- What a discovery has done that has listed nothing: the list of the manager is empty, unless its
record is under the key of another manager. -/
structure DiscoveryEmptied (key : ManagerKey) (s : Session σ) (result : Except Failure Unit)
    (t : Session σ) : Prop where
  events : t.events = s.events
  list : result = .ok () → ListRecorded key (fun _ => False) s.records t.records
  failed : ∀ f, result = .error f → t.records = s.records ∧ ∃ m,
    s.records.read Manager key = .ok (some m) ∧ m.instances ≠ [] ∧ m.key ≠ key
  others : ∀ kind id, ¬ (kind = .manager ∧ id = EntityKey.text key) →
    t.records.find? kind id = s.records.find? kind id
  inMemory : t.InMemory

/-- The keys of a listing are those that its URLs name. -/
theorem mem_keys_iff {key : ManagerKey} {urls : List String} {keys : List InstanceKey}
    (h : urls.eraseDups.mapM key.instanceAt = .ok keys) (k : InstanceKey) :
    k ∈ keys ↔ ∃ url ∈ urls, key.instanceAt url = .ok k := by
  constructor
  · intro hk
    obtain ⟨url, hurl, hkey⟩ := exists_of_mapM_eq_ok h hk
    exact ⟨url, List.mem_eraseDups.1 hurl, hkey⟩
  · rintro ⟨url, hurl, hkey⟩
    have hall := mapM_eq_ok h
    obtain ⟨i, hi, rfl⟩ := List.getElem_of_mem (List.mem_eraseDups.2 hurl)
    have hlt : i < keys.length := hall.length_eq ▸ hi
    obtain rfl : keys[i] = k := Except.ok.inj ((hall.get hlt hi).symm.trans hkey)
    exact List.getElem_mem hlt

section Alone

variable {c : Cloud σ} {key : ManagerKey} {settings : DiscoverySettings} {order : List Nat}
  {s t : Session σ} {urls : List String}

/-- What was recorded stays while instances are left alone. -/
theorem InstancesRecorded.of_machines {s t u : MemoryStore} {events : List (MachineEvent × String)}
    (h : InstancesRecorded key urls s t events)
    (hsame : ∀ id, u.find? .machine id = t.find? .machine id) :
    InstancesRecorded key urls s u events where
  present url hurl := by
    obtain ⟨k, i, hk, hread⟩ := h.present url hurl
    have hkind : EntityKey.kind InstanceKey = .machine := rfl
    refine ⟨k, i, hk, ?_⟩
    rw [← hread, MemoryStore.read, MemoryStore.read, hkind, hsame]
  untouched id hsome := (hsame id).trans (h.untouched id hsome)
  made := by
    obtain ⟨new, hnodup, hnew, hrecords, hevents⟩ := h.made
    refine ⟨new, hnodup, fun id => ?_, fun k hk => ?_, hevents⟩
    · rw [hsame]
      exact hnew id
    · rw [hsame]
      exact hrecords k hk

/-- A listing alone changes neither records nor events. -/
theorem unchanged_listInstances (c : Cloud σ) (key : ManagerKey) (pageSize : UInt32)
    (hm : s.InMemory) :
    (s.serve c (listInstances key pageSize)).2.records = s.records ∧
      (s.serve c (listInstances key pageSize)).2.events = s.events ∧
      (s.serve c (listInstances key pageSize)).2.InMemory :=
  Session.unchanged_of_still c hm fun _ _ => still_of_listing

theorem Session.serve_bind (c : Cloud σ) {β : Type} (service : Service α) (k : α → Service β)
    (s : Session σ) : s.serve c (service >>= k) =
      match s.serve c service with
      | (.ok a, t) => t.serve c (k a)
      | (.error f, t) => (.error f, t) := by
  unfold serve
  rw [run_bind]
  cases service.run (perform c) s with
  | mk r t => cases r <;> rfl

/-- After its listing a discovery alone goes on with the URLs, on what it has found. -/
theorem Session.serve_discover_of_listed (order : List Nat) (hm : s.InMemory)
    (hlisting : (s.serve c (listInstances key settings.pageSize)).1 = .ok urls) :
    ∃ s₁ : Session σ, s₁.records = s.records ∧ s₁.events = s.events ∧ s₁.InMemory ∧
      s.serve c ((discover key settings).inTurns order) =
        s₁.serve c (recordListed key (max settings.maxConcurrent.toNat 1) order urls.eraseDups) := by
  obtain ⟨hrecords, hevents, hm₁⟩ := unchanged_listInstances c key settings.pageSize hm
  rw [inTurns_discover, serve_bind]
  generalize s.serve c (listInstances key settings.pageSize) = listed at *
  obtain ⟨listing, s₁⟩ := listed
  simp only at hlisting hrecords hevents hm₁
  subst hlisting
  exact ⟨s₁, hrecords, hevents, hm₁, rfl⟩

/-- What a discovery alone does with the URLs, part by part. -/
theorem Session.serve_recordListed (c : Cloud σ) (key : ManagerKey) (limit : Nat) (order : List Nat)
    (hne : urls ≠ []) (s : Session σ) :
    s.serve c (recordListed key limit order urls) =
      match urls.mapM key.instanceAt with
      | .error f => (.error f, s)
      | .ok keys =>
        match s.serve c (takeTurns limit order []
          ((key.creations keys urls).map Creation.service)) with
        | (.error f, t) => (.error f, t)
        | (.ok results, t) =>
          match firstFailure? results with
          | some f => (.error (f.within (.recordingInstances key)), t)
          | none => t.serve c (setInstances key keys >>= fun _ => pure ()) := by
  have hlift {β : Type} (r : Except Failure β) (t : Session σ) : t.serve c (lift r) = (r, t) :=
    run_lift ..
  rw [recordListed, if_neg hne, serve_bind, hlift]
  cases urls.mapM key.instanceAt with
  | error f => rfl
  | ok keys =>
    simp only
    rw [serve_bind]
    cases s.serve c (takeTurns limit order [] ((key.creations keys urls).map Creation.service)) with
    | mk results t =>
    cases results with
    | error f => rfl
    | ok results =>
      simp only
      cases firstFailure? results <;> rfl

/-- The result of a list that is written is not used. -/
theorem Session.serve_setInstances_bind {c : Cloud σ} {key : ManagerKey} {keys : List InstanceKey}
    {s t : Session σ} {result : Except Failure Unit}
    (h : s.serve c (setInstances key keys >>= fun _ => pure ()) = (result, t)) :
    ∃ change, s.serve c (setInstances key keys) = (change, t) ∧
      result = change.map fun _ => () := by
  rw [serve_bind] at h
  cases hset : s.serve c (setInstances key keys) with
  | mk change u =>
  rw [hset] at h
  cases change <;> cases h <;> exact ⟨_, rfl, rfl⟩

/-- **A discovery alone records what it has listed.** -/
theorem recorded_discovery (hm : s.InMemory)
    (hlisting : (s.serve c (listInstances key settings.pageSize)).1 = .ok urls) (hne : urls ≠ [])
    (hserve : s.serve c ((discover key settings).inTurns order) = (.ok (), t)) :
    DiscoveryRecorded key urls s t := by
  obtain ⟨s₁, hrecords, hevents, hm₁, hlisted⟩ := Session.serve_discover_of_listed order hm hlisting
  rw [hlisted, Session.serve_recordListed _ _ _ _ (mt eraseDups_eq_nil.1 hne)] at hserve
  -- nothing has failed
  split at hserve
  · cases hserve
  rename_i keys hkeys
  split at hserve
  · cases hserve
  rename_i results s₂ hcreate
  split at hserve
  · cases hserve
  rename_i hfirst
  obtain ⟨change, hset, hchange⟩ := Session.serve_setInstances_bind hserve
  obtain ⟨hm₂, hothers, events, hadded, hinstances⟩ := recorded_creations c hm₁ hkeys hcreate hfirst
  obtain ⟨hwritten, hsame, hm₃⟩ := Session.serve_setInstances hm₂ hset
  cases change with
  | error f => cases hchange
  | ok change =>
    have hmachine (id : String) : t.records.find? .machine id = s₂.records.find? .machine id :=
      hwritten.find?_eq (by rintro ⟨⟨⟩, -⟩)
    refine ⟨⟨events, ?_, (hrecords ▸ hinstances).of_machines hmachine⟩, ?_,
      fun kind id hkind hother => ?_, hm₃⟩
    · rw [hsame, hadded, hevents]
    · refine hwritten.recorded ?_ (mem_keys_iff hkeys)
      rw [hothers _ _ (by rintro ⟨⟩), hrecords]
    · rw [hwritten.find?_eq hother, hothers kind id hkind, hrecords]

/-- **A discovery alone that has listed nothing** empties the list at most. -/
theorem emptied_discovery (hm : s.InMemory)
    (hlisting : (s.serve c (listInstances key settings.pageSize)).1 = .ok [])
    {result : Except Failure Unit}
    (hserve : s.serve c ((discover key settings).inTurns order) = (result, t)) :
    DiscoveryEmptied key s result t := by
  -- the listing has read the record of the manager
  have hreadable : ∀ f, s.records.read Manager key ≠ .error f := by
    intro f hread
    have hserved : s.serve c (listInstances key settings.pageSize) = (.error f, s) := by
      unfold listInstances
      rw [Session.serve_lookup_bind, hread]
    rw [hserved] at hlisting
    cases hlisting
  obtain ⟨s₁, hrecords, hevents, hm₁, hlisted⟩ := Session.serve_discover_of_listed order hm hlisting
  rw [hlisted] at hserve
  obtain ⟨change, hset, rfl⟩ := Session.serve_setInstances_bind hserve
  obtain ⟨hwritten, hsame, hm₂⟩ := Session.serve_setInstances hm₁ hset
  rw [hrecords] at hwritten
  refine ⟨hsame.trans hevents, fun hok => ?_, fun f hfailed => ?_,
    fun kind id hother => hwritten.find?_eq hother, hm₂⟩
  · cases change with
    | error f => cases hok
    | ok change => exact hwritten.recorded rfl (by simp)
  · cases change with
    | ok change => cases hfailed
    | error g =>
      generalize t.records = left at hwritten
      cases hwritten with
      | unreadable found => exact (hreadable _ found).elim
      | misfiled found others other =>
        refine ⟨rfl, _, found, fun hnil => others ?_, other⟩
        simp [hnil]

/-- After a discovery that has ended well there is a record for each URL, and the list of the
manager names these. -/
theorem listed_of_ok (hm : s.InMemory)
    (hlisting : (s.serve c (listInstances key settings.pageSize)).1 = .ok urls)
    (hserve : s.serve c ((discover key settings).inTurns order) = (.ok (), t)) :
    (∀ url ∈ urls, ∃ k i, key.instanceAt url = .ok k ∧ t.records.read Instance k = .ok (some i)) ∧
      ListRecorded key (fun k => ∃ url ∈ urls, key.instanceAt url = .ok k) s.records t.records := by
  by_cases hne : urls = []
  · subst hne
    have hlist := (emptied_discovery hm hlisting hserve).list rfl
    refine ⟨List.forall_mem_nil _, ?_⟩
    simpa only [List.not_mem_nil, false_and, exists_false] using hlist
  · have hrecorded := recorded_discovery hm hlisting hne hserve
    obtain ⟨events, -, hinstances⟩ := hrecorded.instances
    exact ⟨hinstances.present, hrecorded.list⟩

end Alone

/-- **What a discovery that nobody disturbs has recorded**, whatever the answers of the cloud and in
whatever order its creations take their turns. If it ends well with some URLs, each of them names an
instance that has a record; what was there before is untouched; what is new was made once, for one
of the URLs, and has one event with its name; and the list of the manager names just these
instances, its record being left alone if it did so before. Without a URL the list is all that
changes, and no event is reported; and there is none where a record, the URL of the manager or a
project is missing. -/
theorem discovery_records_what_is_listed (c : Cloud σ) (key : ManagerKey)
    (settings : DiscoverySettings) (order : List Nat) {s : Session σ} (hm : s.InMemory) :
    let listing := (s.serve c (listInstances key settings.pageSize)).1
    let result := (s.serve c ((discover key settings).inTurns order)).1
    let t := (s.serve c ((discover key settings).inTurns order)).2
    (∀ urls, listing = .ok urls → urls ≠ [] → result = .ok () → DiscoveryRecorded key urls s t) ∧
    (listing = .ok [] → DiscoveryEmptied key s result t) ∧
    (s.records.Unlisted key → listing = .ok []) := by
  intro listing result t
  have hserve : s.serve c ((discover key settings).inTurns order) = (result, t) := rfl
  refine ⟨fun urls hurls hne hok => ?_, fun hempty => emptied_discovery hm hempty hserve,
    Session.serve_listInstances_of_unlisted c settings.pageSize⟩
  rw [hok] at hserve
  exact recorded_discovery hm hurls hne hserve

/-- Two URLs of one machine and one of another make two records, each with its event. -/
theorem discovery_records_two_machines :
    let urls := ["https://x/vm", "https://x/vm/", "https://x/other"]
    let t := ((Sample.reporting urls).serve CloudScript.cloud
      ((discover Sample.managerKey {}).inTurns [1, 0, 0, 1, 1, 1, 1])).2
    DiscoveryRecorded Sample.managerKey urls (Sample.reporting urls) t ∧
      t.events = [(.created, "vm"), (.created, "other")] := by
  intro urls t
  have hrecords := discovery_records_what_is_listed CloudScript.cloud Sample.managerKey {}
    [1, 0, 0, 1, 1, 1, 1] (s := Sample.reporting urls) ⟨_, rfl⟩
  exact ⟨hrecords.1 urls (by decide +kernel) (List.cons_ne_nil _ _) (by decide +kernel),
    by decide +kernel⟩

end FleetReconciler
