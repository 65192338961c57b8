import FleetReconciler.Proofs.Transaction
import FleetReconciler.Proofs.KeyText
import FleetReconciler.Discovery

/-!
# One event for each new instance

Several calls make sure that instances have records, among themselves and among any other services
and writers. A record is never removed, so only one writer finds a key without a record at its
commit, and a call reports an event exactly when it is that writer.

* `firstWrite?` — the entry of a history that wrote the first record of a key;
* `Creation` — a call, with the record and the hostname that are its own;
* `attempt_create` — a call writes only where there is no record, and a retry finds one, so
  `not_overtaken_twice`;
* `one_event_per_new_instance` — **the event comes from the call that made the record**.
-/

namespace FleetReconciler

/-! ## First writes -/

/-- Whether an entry wrote the record with an id. -/
def Happening.writesTo (kind : Kind) (id : String) (h : Happening) : Bool :=
  match h.write? with
  | some w => w.kind = kind ∧ w.id = id
  | none => false

theorem Happening.isSome_after {kind : Kind} {id : String} {h : Happening}
    (hw : h.writesTo kind id) : (h.after.find? kind id).isSome := by
  unfold Happening.writesTo at hw
  cases hwrite : h.write? with
  | none =>
    rw [hwrite] at hw
    cases hw
  | some w =>
    rw [hwrite] at hw
    obtain ⟨rfl, rfl⟩ : w.kind = kind ∧ w.id = id := by simpa using hw
    have hafter : h.after = h.records.apply w := by simp [Happening.after, hwrite]
    rw [hafter]
    simp [MemoryStore.apply, MemoryStore.find?_put]

/-- Nobody has written a record that is not there. -/
theorem Follows.not_writesTo {kind : Kind} {id : String} {hs : List Happening} {s t : MemoryStore}
    (h : Follows s hs t) (hnone : t.find? kind id = none) :
    ∀ x ∈ hs, x.writesTo kind id = false := by
  induction hs generalizing s with
  | nil => simp
  | cons x hs ih =>
    obtain ⟨-, hrest⟩ := h
    intro y hy
    rcases List.mem_cons.1 hy with rfl | hy
    · rw [Bool.eq_false_iff]
      intro hw
      have := hrest.grows.isSome (Happening.isSome_after hw)
      simp [hnone] at this
    · exact ih hrest y hy

/-- The entry that wrote the record of a key first. -/
def firstWrite? (key : InstanceKey) (history : List Happening) : Option Happening :=
  history.find? (Happening.writesTo .machine (EntityKey.text key))

/-- A write that meets no record is the first, and there was none at the start. -/
theorem firstWrite?_eq_some {key : InstanceKey} {history : List Happening} {x : Happening}
    {s t : MemoryStore} (h : Follows s history t) (hx : x ∈ history)
    (hw : x.writesTo .machine (EntityKey.text key))
    (hnone : x.records.find? .machine (EntityKey.text key) = none) :
    s.find? .machine (EntityKey.text key) = none ∧ firstWrite? key history = some x := by
  obtain ⟨pre, post, rfl⟩ := List.append_of_mem hx
  obtain ⟨hpre, -⟩ := h.split
  have hbefore : pre.find? (Happening.writesTo .machine (EntityKey.text key)) = none := by
    rw [List.find?_eq_none]
    intro y hy
    simp [hpre.not_writesTo hnone y hy]
  constructor
  · rw [← Option.not_isSome_iff_eq_none]
    intro hs
    have := hpre.grows.isSome hs
    simp [hnone] at this
  · rw [firstWrite?, List.find?_append, hbefore, List.find?_cons_of_pos hw]
    rfl

/-! ## Calls -/

/-- A call that makes sure that an instance has a record. -/
structure Creation where
  key : InstanceKey
  url : String
  manager : ManagerKey

namespace Creation

/-- What the call runs. -/
def service (x : Creation) : Service Unit := ensureInstance x.key x.url x.manager

/-- The record that it makes. -/
def record (x : Creation) : Instance := .discovered x.key x.url x.manager

/-- The hostname in its event. -/
def hostname (x : Creation) : String := (instanceName? x.url).getD x.key.name.text

/-- The call at a place has made the first record of its key. -/
def CommitsFirst (x : Creation) (place : Nat) (store : MemoryStore) (history : List Happening) :
    Prop :=
  store.find? .machine (EntityKey.text x.key) = none ∧
    ∃ s, firstWrite? x.key history = some (.served place (Service.committed x.key s 0 x.record))

/-- A call writes exactly where there is no record. -/
theorem attempt_create (x : Creation) (found : Option Stored) :
    Service.attempt x.key (Instance.createIfMissing x.record) found =
      match found with
      | none => .write 0 x.record true
      | some stored =>
        .stop ((Service.decodeStored (ρ := Instance) .machine (EntityKey.text x.key)
          (some stored)).map fun _ => ⟨false, false⟩) := by
  cases found with
  | none =>
    have hkey : EntityKey.components (Entity.key x.record) = EntityKey.components x.key := rfl
    simp [Service.attempt, Service.decodeStored, Instance.createIfMissing, Service.nextRecord, hkey]
  | some stored =>
    have hkind : EntityKey.kind InstanceKey = .machine := rfl
    simp only [Service.attempt, Service.decodeStored, hkind]
    cases Service.decodeRecord (ρ := Instance) .machine (EntityKey.text x.key) stored.value with
    | error f => rfl
    | ok i => simp [bind, Except.bind, pure, Except.pure, Except.map, Instance.createIfMissing,
        Service.nextRecord]

/-- Whoever was overtaken finds a record, so it is not overtaken again. -/
theorem not_overtaken_twice (x : Creation) {n : Nat} {s t : MemoryStore} :
    ¬ Service.Overtaken x.key (Instance.createIfMissing x.record) (n + 2) s t := by
  rintro (_ | ⟨before, decision, -, -⟩)
  cases before with
  | again _ _ _ late =>
    rw [attempt_create] at decision
    split at decision
    · rename_i hnone
      have hkind : EntityKey.kind InstanceKey = .machine := rfl
      rw [hkind] at late hnone
      simp [MemoryStore.version, hnone] at late
    · cases decision

/-- The transaction of a call writes where there is no record, or finds one, or cannot read it. -/
theorem outcome_create (x : Creation) {s t : MemoryStore} {deeds : List Exchange}
    {result : Except Failure (Committed Bool)}
    (h : Service.Outcome x.key (Instance.createIfMissing x.record) s [] result t deeds) :
    (result = .ok ⟨true, true⟩ ∧ ∃ u : MemoryStore,
      u.find? .machine (EntityKey.text x.key) = none ∧
        deeds = [Service.committed x.key u 0 x.record]) ∨
    (deeds = [] ∧ (result = .ok ⟨false, false⟩ ∨
      ∃ e, result = .error (.of (.store (.corrupt .machine (EntityKey.text x.key) e))))) := by
  cases h with
  | gaveUp before => exact (x.not_overtaken_twice before).elim
  | wrote tries before decision grows =>
    rw [attempt_create] at decision
    split at decision
    · rename_i hnone
      cases decision
      exact .inl ⟨rfl, _, hnone, rfl⟩
    · cases decision
  | @stopped _ u _ _ tries before decision grows =>
    rw [attempt_create] at decision
    cases hfound : u.find? (EntityKey.kind InstanceKey) (EntityKey.text x.key) with
    | none =>
      rw [hfound] at decision
      cases decision
    | some stored =>
      rw [hfound] at decision
      injection decision with hresult
      refine .inr ⟨rfl, ?_⟩
      cases hdecode : Service.decodeStored (ρ := Instance) .machine (EntityKey.text x.key)
          (some stored) with
      | error f =>
        obtain ⟨e, rfl⟩ := Service.decodeStored_error hdecode
        rw [hdecode] at hresult
        exact .inr ⟨e, hresult.symm⟩
      | ok p =>
        rw [hdecode] at hresult
        exact .inl hresult.symm

/-! ### What a call does -/

/-- The deeds of a call: none, a first commit, or that and the event. -/
def Deeds (x : Creation) (deeds : List Exchange) : Prop :=
  deeds = [] ∨ ∃ s : MemoryStore, s.find? .machine (EntityKey.text x.key) = none ∧
    (deeds = [Service.committed x.key s 0 x.record] ∨
      ∃ t, deeds = [Service.committed x.key s 0 x.record, ⟨t, .send .created x.hostname, ()⟩])

/-- The end of a call: it has done nothing or all of it, and nothing when it failed. -/
def End (x : Creation) (deeds : List Exchange) : Except Failure Unit → Prop
  | .ok () => deeds = [] ∨ ∃ s t : MemoryStore, s.find? .machine (EntityKey.text x.key) = none ∧
      deeds = [Service.committed x.key s 0 x.record, ⟨t, .send .created x.hostname, ()⟩]
  | .error f => deeds = [] ∧ ∃ e, f.cause = .store (.corrupt .machine (EntityKey.text x.key) e)

variable {σ : Type} {c : Cloud σ} {calls : List Creation} {place : Nat} {w : World σ}

/-- What the places of calls do; other places may do anything. -/
def Keep (calls : List Creation) (place : Nat) (deeds : List Exchange) : Prop :=
  ∀ x, calls[place]? = some x → x.Deeds deeds

/-- How the places of calls end. -/
def Post (calls : List Creation) (place : Nat) (result : Except Failure Unit) (w : World σ) :
    Prop :=
  ∀ x, calls[place]? = some x → x.End (w.deeds place) result

theorem service_meets {x : Creation} (hx : calls[place]? = some x) (hm : w.session.InMemory)
    (hd : w.deeds place = []) :
    x.service.MeetsAt c place (Keep calls) (Post calls place) w := by
  have hkeep : ∀ {deeds}, x.Deeds deeds → Keep calls place deeds := by
    intro deeds h y hy
    obtain rfl : x = y := by simpa [hx] using hy
    exact h
  have hpost : ∀ {result w'}, x.End (World.deeds place w') result →
      Post (σ := σ) calls place result w' := by
    intro result w' h y hy
    obtain rfl : x = y := by simpa [hx] using hy
    exact h
  unfold service ensureInstance
  refine Service.MeetsAt.lookup (hkeep (hd ▸ .inl rfl)) fun w₁ hw₁ => ?_
  have hd₁ : w₁.deeds place = [] := hw₁.deeds.trans hd
  cases hread : w₁.records.read Instance x.key with
  | error f =>
    obtain ⟨e, rfl⟩ := Service.read_error hread
    intro w₂ hw₂
    exact hpost ⟨hw₂.deeds.trans hd₁, e, rfl⟩
  | ok found =>
    rw [Service.lift_ok_bind]
    cases found with
    | some i =>
      intro w₂ hw₂
      exact hpost (.inl (hw₂.deeds.trans hd₁))
    | none =>
      have hnone : x.Deeds (w₁.deeds place) := .inl hd₁
      have hwrite : ∀ t version record value,
          Service.attempt x.key (Instance.createIfMissing x.record)
            (MemoryStore.find? t .machine (EntityKey.text x.key)) = .write version record value →
          Keep calls place (w₁.deeds place ++ [Service.committed x.key t version record]) := by
        intro t version record value h
        rw [attempt_create] at h
        split at h
        · rename_i hfound
          cases h
          exact hkeep (.inr ⟨t, hfound, .inl (by rw [hd₁]; rfl)⟩)
        · cases h
      have hm₁ := hw₁.inMemory hm
      refine Service.MeetsAt.transact hm₁ (hkeep hnone) hwrite fun result w₂ hend => ?_
      rcases x.outcome_create (hd₁ ▸ hend.2) with ⟨rfl, u, hu, hdeeds⟩ | ⟨hdeeds, rfl | ⟨e, rfl⟩⟩
      · have hcommit : x.Deeds (w₂.deeds place) := .inr ⟨u, hu, .inl hdeeds⟩
        refine Service.MeetsAt.ask_quiet (fun _ => rfl) (hkeep hcommit) fun w₃ hw₃ => ?_
        refine Service.MeetsAt.ask_deed fun w₄ hw₄ => ?_
        have hsent : (w₄.serve c place (.send .created x.hostname)).2.deeds place =
            [Service.committed x.key u 0 x.record,
              ⟨w₄.records, .send .created x.hostname, ()⟩] := by
          rw [World.deeds_serve, hw₄.deeds, hw₃.deeds, hdeeds]
          simp [Session.exchange, Exchange.isDeed, World.records]
        refine ⟨hkeep (.inr ⟨u, hu, .inr ⟨_, hsent⟩⟩), fun w₅ hw₅ => hpost ?_⟩
        exact .inr ⟨u, _, hu, hw₅.deeds.trans hsent⟩
      · exact fun w₃ hw₃ => hpost (.inl (hw₃.deeds.trans hdeeds))
      · exact fun w₃ hw₃ => hpost ⟨hw₃.deeds.trans hdeeds, e, rfl⟩

theorem other_meets (hplace : calls[place]? = none) (service : Service Unit) (w : World σ) :
    service.MeetsAt c place (Keep calls) (Post calls place) w := by
  refine Service.Meets.trivial (fun _ _ x hx => ?_) (fun _ _ x hx => ?_) service w
  · simp [hplace] at hx
  · simp [hplace] at hx

/-! ### What a run shows -/

theorem writesTo_committed (x : Creation) (place : Nat) (s : MemoryStore) (key : InstanceKey) :
    (Happening.served place (Service.committed x.key s 0 x.record)).writesTo .machine
      (EntityKey.text key) ↔ x.key = key := by
  have hkind : EntityKey.kind InstanceKey = .machine := rfl
  constructor
  · intro h
    simp only [Happening.writesTo, Happening.write?, Service.committed, Exchange.write?, hkind,
      true_and, decide_eq_true_eq] at h
    exact EntityKey.text_injective h
  · rintro rfl
    simp [Happening.writesTo, Happening.write?, Service.committed, Exchange.write?, hkind]

theorem commitsFirst_of_mem {x : Creation} {store t s : MemoryStore}
    (hfollows : Follows store w.history t)
    (hmem : Service.committed x.key s 0 x.record ∈ w.deeds place)
    (hnone : s.find? .machine (EntityKey.text x.key) = none) :
    x.CommitsFirst place store w.history := by
  obtain ⟨hstore, hfirst⟩ := firstWrite?_eq_some hfollows
    (World.mem_history_of_mem_deeds hmem) ((x.writesTo_committed place s x.key).2 rfl) hnone
  exact ⟨hstore, s, hfirst⟩

theorem deeds_ne_nil {x : Creation} {store : MemoryStore}
    (h : x.CommitsFirst place store w.history) : w.deeds place ≠ [] := by
  obtain ⟨-, s, hfirst⟩ := h
  exact List.ne_nil_of_mem (World.mem_deeds (List.mem_of_find?_eq_some hfirst) rfl)

/-- The deeds of a call show whether it has reported and whether it has written. -/
theorem events_eq {x : Creation} {store t : MemoryStore} (hfollows : Follows store w.history t)
    (h : x.Deeds (w.deeds place)) :
    w.events place = [] ∨
      w.events place = [(.created, x.hostname)] ∧ x.CommitsFirst place store w.history := by
  unfold World.events
  rcases h with h | ⟨s, hnone, h | ⟨u, h⟩⟩
  · exact .inl (by rw [h]; rfl)
  · exact .inl (by rw [h]; rfl)
  · exact .inr ⟨by rw [h]; rfl, commitsFirst_of_mem hfollows (by simp [h]) hnone⟩

/-- A call that has ended well has reported exactly when it has written. -/
theorem events_eq_iff {x : Creation} {store t : MemoryStore}
    (hfollows : Follows store w.history t) (h : x.End (w.deeds place) (.ok ())) :
    w.events place = [(.created, x.hostname)] ↔ x.CommitsFirst place store w.history := by
  rcases h with h | ⟨s, u, hnone, h⟩
  · constructor
    · intro hevents
      simp [World.events, h] at hevents
    · intro hfirst
      exact (deeds_ne_nil hfirst h).elim
  · constructor
    · intro _
      exact commitsFirst_of_mem hfollows (by simp [h]) hnone
    · intro _
      rw [World.events, h]
      rfl

/-- What a call writes is its record, where there was none. -/
theorem write_eq {x : Creation} {store t : MemoryStore} (hfollows : Follows store w.history t)
    (h : x.Deeds (w.deeds place)) {e : Exchange} (he : .served place e ∈ w.history)
    (hw : e.write?.isSome) :
    e = Service.committed x.key e.records 0 x.record ∧
      x.CommitsFirst place store w.history := by
  have hmem := World.mem_deeds he hw
  rcases h with h | ⟨s, hnone, h | ⟨u, h⟩⟩
  · simp [h] at hmem
  · have hin : Service.committed x.key s 0 x.record ∈ w.deeds place := by simp [h]
    have hfirst := commitsFirst_of_mem hfollows hin hnone
    obtain rfl : e = Service.committed x.key s 0 x.record := by simpa [h] using hmem
    exact ⟨rfl, hfirst⟩
  · have hin : Service.committed x.key s 0 x.record ∈ w.deeds place := by simp [h]
    have hfirst := commitsFirst_of_mem hfollows hin hnone
    simp only [h, List.mem_cons, List.not_mem_nil, or_false] at hmem
    rcases hmem with rfl | rfl
    · exact ⟨rfl, hfirst⟩
    · cases hw

/-- Only one call makes the first record of a key. -/
theorem CommitsFirst.place_eq {x y : Creation} {other : Nat} {store : MemoryStore}
    {history : List Happening} (hx : x.CommitsFirst place store history)
    (hy : y.CommitsFirst other store history) (hkey : x.key = y.key) : place = other := by
  obtain ⟨-, s, hs⟩ := hx
  obtain ⟨-, t, ht⟩ := hy
  rw [hkey, ht] at hs
  injection hs with hs
  injection hs with hplaces
  exact hplaces.symm

/-- A call that makes the first record of a key is a call for that key. -/
theorem key_of_firstWrite {x : Creation} {store t : MemoryStore} {key : InstanceKey} {e : Exchange}
    (hfollows : Follows store w.history t) (h : x.Deeds (w.deeds place))
    (hfirst : firstWrite? key w.history = some (.served place e)) : x.key = key := by
  have hwrites := List.find?_some hfirst
  have hsome : e.write?.isSome := by
    unfold Happening.writesTo Happening.write? at hwrites
    split at hwrites
    · rename_i w hw
      simp [hw]
    · cases hwrites
  obtain ⟨he, -⟩ := write_eq hfollows h (List.mem_of_find?_eq_some hfirst) hsome
  rw [he] at hwrites
  exact (x.writesTo_committed place _ key).1 hwrites

end Creation

open Creation in
/-- **One event for each new instance.** Any number of calls and any other services take their steps
in any order, and others put records in between. A call reports at most one event, and has then made
the first record of its key; a call that has ended well has reported it exactly when it made that
record; a call that has failed did neither, and not for contention. What a call writes is the
record of its own key, URL and manager, the first of that key. Of several calls with one key at most
one reports. -/
theorem one_event_per_new_instance (c : Cloud σ) (session : Session σ) (store : MemoryStore)
    (calls : List Creation) (others : List (Service Unit)) (turns : List Turn) :
    let s := (Crowd.start session store (calls.map Creation.service ++ others)).run c turns
    (∀ place x, calls[place]? = some x →
      (s.world.events place = [] ∨ s.world.events place = [(.created, x.hostname)] ∧
        x.CommitsFirst place store s.world.history) ∧
      (s.services[place]? = some (.done ()) →
        (s.world.events place = [(.created, x.hostname)] ↔
          x.CommitsFirst place store s.world.history)) ∧
      (∀ f, s.services[place]? = some (.fail f) →
        s.world.events place = [] ∧ ¬ x.CommitsFirst place store s.world.history ∧
          ∀ kind id attempts, f.cause ≠ .store (.contention kind id attempts)) ∧
      (∀ e, .served place e ∈ s.world.history → e.write?.isSome →
        e = Service.committed x.key e.records 0 x.record ∧
          x.CommitsFirst place store s.world.history)) ∧
    (∀ place other x y, calls[place]? = some x → calls[other]? = some y → x.key = y.key →
      s.world.events place ≠ [] → s.world.events other ≠ [] → place = other) ∧
    (∀ place x key e, calls[place]? = some x →
      firstWrite? key s.world.history = some (.served place e) → x.key = key) := by
  intro s
  have hfollows : Follows store s.world.history s.world.records :=
    Crowd.follows_run c turns (Crowd.follows_start session store _)
  have hstart : (Crowd.start session store (calls.map Creation.service ++ others)).AllMeet
      (.keeping (Keep calls)) c (Post calls) :=
    Crowd.start_meets others (fun place x hx => service_meets hx ⟨store, rfl⟩ rfl)
      fun place service hx => other_meets hx service _
  have hdeeds : ∀ {place : Nat} {x : Creation}, calls[place]? = some x →
      x.Deeds (s.world.deeds place) :=
    fun {place x} hx => Crowd.keeping_run turns hstart (fun _ _ => .inl rfl) x hx
  have hmeet := Crowd.run_meets (Crowd.Accord.keeping_admits (Keep calls) c) turns hstart
  refine ⟨fun place x hx => ⟨events_eq hfollows (hdeeds hx), ?_, ?_, ?_⟩, ?_, ?_⟩
  · intro hdone
    exact events_eq_iff hfollows (hmeet place _ hdone s.world (.refl place _) x hx)
  · intro f hfail
    obtain ⟨hnone, e, hcause⟩ := hmeet place _ hfail s.world (.refl place _) x hx
    refine ⟨?_, fun hfirst => deeds_ne_nil hfirst hnone, ?_⟩
    · rw [World.events, hnone]
      rfl
    · intro kind id attempts h
      rw [hcause] at h
      cases h
  · exact fun e => write_eq hfollows (hdeeds hx)
  · intro place other x y hx hy hkey hplace hother
    obtain ⟨-, hx⟩ := (events_eq hfollows (hdeeds hx)).resolve_left hplace
    obtain ⟨-, hy⟩ := (events_eq hfollows (hdeeds hy)).resolve_left hother
    exact hx.place_eq hy hkey
  · exact fun place x key e hx hfirst => key_of_firstWrite hfollows (hdeeds hx) hfirst

end FleetReconciler
