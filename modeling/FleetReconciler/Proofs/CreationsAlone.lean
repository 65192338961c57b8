import FleetReconciler.Proofs.DiscoveryParts

/-!
# Creations that nobody disturbs

Creations of one discovery are in flight together, and nobody else writes. The record of an instance
is then made at most once, by the creation that reports it, and nothing else changes.

* `World.ofCourse` — a course as a history, for which the facts about creations among others hold;
* `Follows.find?_eq` — what is stored after writes each of which has found nothing;
* `Accomplished` — all creations of a course have ended well;
* `Accomplished.find?_eq`, `Accomplished.read` — what they leave in the store;
* `Accomplished.nodup_made`, `Accomplished.mem_made_iff` — **the instances that they have made**,
  each reported once;
* `recorded_creations` — **what creations that nobody disturbs have recorded**.
-/

namespace FleetReconciler

open Service

variable {σ α : Type}

/-! ## Courses as histories -/

/-- The step of a course as an entry of a history; the end of a service is none. -/
def FlightStep.happening? : FlightStep α → Option Happening
  | served place e => some (.served place e)
  | ended .. => none

theorem Unbroken.follows {course : List (FlightStep α)} {s t : MemoryStore}
    (h : Unbroken s (course.filterMap FlightStep.exchange?) t) :
    Follows s (course.filterMap FlightStep.happening?) t := by
  induction course generalizing s with
  | nil => exact h
  | cons step course ih =>
    cases step with
    | ended place r => exact ih h
    | served place e => exact ⟨h.1, ih h.2⟩

namespace World

/-- The session after a course, with the course as its history. -/
def ofCourse (session : Session σ) (course : List (FlightStep α)) : World σ where
  session
  history := course.filterMap FlightStep.happening?

variable {session : Session σ} {course : List (FlightStep α)} {place : Nat} {service : Service α}
  {es : List Exchange} {r : Except Failure α}

/-- The deeds at a place are those of the service that was carried there. -/
theorem deeds_ofCourse (h : Carried course place service es r) :
    (ofCourse session course).deeds place = es.filter Exchange.isDeed := by
  rw [← h.exchanges_eq]
  show (course.filterMap FlightStep.happening?).filterMap (Happening.deedOf? place) = _
  rw [List.filterMap_filterMap, List.filterMap_filter, List.filter_filterMap]
  refine List.filterMap_congr fun step _ => ?_
  cases step with
  | ended p r => by_cases hp : p = place <;> simp [FlightStep.place, FlightStep.exchange?, hp,
      FlightStep.happening?]
  | served p e =>
    by_cases hp : p = place
    · cases hdeed : e.isDeed <;> simp [FlightStep.place, FlightStep.exchange?, hp, hdeed,
        FlightStep.happening?, Happening.deedOf?, Option.filter]
    · simp [FlightStep.place, hp, FlightStep.happening?, Happening.deedOf?]

end World

/-! ## Writes that have found nothing -/

/-- **After writes that have found nothing**, everything is as before, or there was nothing and it
is the first value that was written. -/
theorem Follows.find?_eq {history : List Happening} {s t : MemoryStore} (h : Follows s history t)
    (hfirst : ∀ x ∈ history, ∀ w, x.write? = some w → x.records.find? w.kind w.id = none)
    (kind : Kind) (id : String) :
    t.find? kind id = s.find? kind id ∨
      s.find? kind id = none ∧ ∃ x ∈ history, ∃ value, x.write? = some ⟨kind, id, value⟩ ∧
        t.find? kind id = some ⟨1, value⟩ := by
  induction history generalizing s with
  | nil => exact .inl (by rw [show t = s from h])
  | cons x history ih =>
    obtain ⟨rfl, hrest⟩ := h
    obtain ⟨hx, hothers⟩ := List.forall_mem_cons.1 hfirst
    rcases ih hrest hothers with hsame | ⟨hnone, y, hy, value, hwrite, hfound⟩
    · cases hw : x.write? with
      | none =>
        have hafter : x.after = x.records := by rw [Happening.after, hw]
        exact .inl (hafter ▸ hsame)
      | some w =>
        have hafter : x.after = x.records.put w.kind w.id w.value := by
          rw [Happening.after, hw]
          rfl
        rw [hafter, MemoryStore.find?_put] at hsame
        split at hsame
        · rename_i heq
          obtain ⟨rfl, rfl⟩ := heq
          have hnone := hx w hw
          have hversion : x.records.version w.kind w.id = 0 := by
            rw [MemoryStore.version, hnone]
            rfl
          rw [hversion] at hsame
          exact .inr ⟨hnone, x, List.mem_cons_self, w.value, hw, hsame⟩
        · exact .inl hsame
    · refine .inr ⟨?_, y, List.mem_cons_of_mem _ hy, value, hwrite, hfound⟩
      refine Option.not_isSome_iff_eq_none.1 fun hsome => ?_
      rw [Option.isSome_iff_ne_none] at hsome
      exact (Option.isSome_iff_ne_none.1 (x.grows_after.isSome
        (Option.isSome_iff_ne_none.2 hsome))) hnone

/-- What has the same version at both ends has it in between, and is the same. -/
theorem MemoryStore.Grows.find?_between {s u t : MemoryStore} (hsu : s.Grows u) (hut : u.Grows t)
    {kind : Kind} {id : String} (h : t.find? kind id = s.find? kind id) :
    u.find? kind id = t.find? kind id := by
  have hversion : t.version kind id = s.version kind id := by
    rw [MemoryStore.version, MemoryStore.version, h]
  have hlow := (hsu kind id).1
  have hhigh := (hut kind id).1
  exact ((hsu kind id).2 (by omega)).trans h.symm

/-! ## Creations that have ended well -/

/-- The event of a creation and its commit are among its deeds together. -/
theorem Creation.End.reported {x : Creation} {deeds : List Exchange} (h : x.End deeds (.ok ())) :
    deeds.filterMap Exchange.event? = [] ∧ deeds = [] ∨
      deeds.filterMap Exchange.event? = [(.created, x.hostname)] ∧
        ∃ u : MemoryStore, u.find? .machine (EntityKey.text x.key) = none ∧
          Service.committed x.key u 0 x.record ∈ deeds := by
  rcases h with rfl | ⟨u, v, hnone, rfl⟩
  · exact .inl ⟨rfl, rfl⟩
  · exact .inr ⟨rfl, u, hnone, List.mem_cons_self⟩

/-- All creations of a course have ended well, each at its place. -/
structure Accomplished (calls : List Creation) (course : List (FlightStep Unit)) : Prop where
  places : ∀ step ∈ course, step.place < calls.length
  each : ∀ place x, calls[place]? = some x → ∃ es, Carried course place x.service es (.ok ()) ∧
    x.End (es.filter Exchange.isDeed) (.ok ())

namespace Accomplished

variable {calls : List Creation} {course : List (FlightStep Unit)} {s t : MemoryStore}

/-- Creations in flight together of which none fails. -/
theorem of_fanout {c : Cloud σ} {limit : Nat} {order : List Nat} (session : Session σ)
    (h : Fanout limit order (calls.map Creation.service) course)
    (hgenuine : ∀ e ∈ course.filterMap FlightStep.exchange?, e.Genuine c)
    (hamid : Amid s (course.filterMap FlightStep.exchange?) t)
    (hok : firstFailure? (course.filterMap FlightStep.result?) = none) :
    Accomplished calls course where
  places step hstep := by
    have hplace := h.places step hstep
    rwa [List.length_map] at hplace
  each place x hx := by
    obtain ⟨own, r, hcarried, -, -, hend⟩ := h.exists_creation session hgenuine hamid hx
    have hr : r ∈ course.filterMap FlightStep.result? :=
      List.mem_filterMap.2 ⟨_, hcarried.ended_mem_iff.2 rfl, rfl⟩
    obtain ⟨⟨⟩, rfl⟩ := firstFailure?_eq_none hok hr
    exact ⟨own, hcarried, hend⟩

theorem end_deeds (h : Accomplished calls course) (session : Session σ) {place : Nat} {x : Creation}
    (hx : calls[place]? = some x) :
    x.End ((World.ofCourse session course).deeds place) (.ok ()) := by
  obtain ⟨es, hcarried, hend⟩ := h.each place x hx
  rwa [World.deeds_ofCourse hcarried]

/-- Every exchange of the course is one of a creation. -/
theorem exists_call (h : Accomplished calls course) {place : Nat} {e : Exchange}
    (he : .served place e ∈ course) : ∃ x, calls[place]? = some x :=
  ⟨_, List.getElem?_eq_getElem (h.places _ he)⟩

/-- What is written is the record of a creation, where there was none. -/
theorem write (h : Accomplished calls course) {place : Nat} {e : Exchange}
    (he : .served place e ∈ course) {w : Write} (hw : e.write? = some w) :
    ∃ x, calls[place]? = some x ∧
      w = ⟨.machine, EntityKey.text x.key, Entity.stored x.record⟩ ∧
      e.records.find? .machine (EntityKey.text x.key) = none := by
  obtain ⟨x, hx⟩ := h.exists_call he
  obtain ⟨es, hcarried, hend⟩ := h.each place x hx
  have hdeed : e ∈ es.filter Exchange.isDeed :=
    List.mem_filter.2 ⟨hcarried.mem_iff.1 he, Exchange.isDeed_of_write (by rw [hw]; rfl)⟩
  exact ⟨x, hx, hend.write hdeed hw⟩

/-- **What the creations leave**: everything is as before, but where there was nothing there may be
the record of one of them, which has written it. -/
theorem find?_eq (h : Accomplished calls course)
    (hrun : Unbroken s (course.filterMap FlightStep.exchange?) t) (kind : Kind) (id : String) :
    t.find? kind id = s.find? kind id ∨
      s.find? kind id = none ∧ ∃ place e x, .served place e ∈ course ∧ e.write?.isSome ∧
        calls[place]? = some x ∧ kind = .machine ∧ id = EntityKey.text x.key ∧
        t.find? kind id = some ⟨1, Entity.stored x.record⟩ := by
  have hserved {y : Happening} (hy : y ∈ course.filterMap FlightStep.happening?) :
      ∃ place e, y = .served place e ∧ .served place e ∈ course := by
    obtain ⟨step, hstep, heq⟩ := List.mem_filterMap.1 hy
    cases step with
    | ended place r => cases heq
    | served place e => exact ⟨place, e, (Option.some.inj heq).symm, hstep⟩
  have hfirst : ∀ y ∈ course.filterMap FlightStep.happening?, ∀ w, y.write? = some w →
      y.records.find? w.kind w.id = none := by
    intro y hy w hw
    obtain ⟨place, e, rfl, he⟩ := hserved hy
    obtain ⟨x, -, rfl, hnone⟩ := h.write he hw
    exact hnone
  rcases hrun.follows.find?_eq hfirst kind id with hsame | ⟨hnone, y, hy, value, hw, ht⟩
  · exact .inl hsame
  · obtain ⟨place, e, rfl, he⟩ := hserved hy
    have hwrite : e.write? = some ⟨kind, id, value⟩ := hw
    obtain ⟨x, hx, heq, -⟩ := h.write he hwrite
    cases heq
    exact .inr ⟨hnone, place, e, x, he, by rw [hwrite]; rfl, hx, rfl, rfl, ht⟩

/-- Every creation leaves a record of its instance that can be read. -/
theorem read (h : Accomplished calls course) {c : Cloud σ} (session : Session σ)
    (hrun : Unbroken s (course.filterMap FlightStep.exchange?) t)
    (hgenuine : ∀ e ∈ course.filterMap FlightStep.exchange?, e.Genuine c) {x : Creation}
    (hx : x ∈ calls) : ∃ i, t.read Instance x.key = .ok (some i) := by
  obtain ⟨place, hplace⟩ := List.getElem?_of_mem hx
  obtain ⟨es, hcarried, -⟩ := h.each place x hplace
  obtain ⟨u, i, hsu, hut, hread⟩ := Creation.read_of_yields session hcarried.1
    (fun e he => hgenuine e (hcarried.sublist.mem he)) (hrun.amid.sublist hcarried.sublist)
  have hkind : EntityKey.kind InstanceKey = .machine := rfl
  rcases h.find?_eq hrun .machine (EntityKey.text x.key) with hsame |
    ⟨-, -, -, y, -, -, -, -, -, hfound⟩
  · refine ⟨i, ?_⟩
    rw [← hread, MemoryStore.read, MemoryStore.read, hkind, hsu.find?_between hut hsame]
  · exact ⟨y.record, MemoryStore.read_eq_some.2 ⟨_, hfound, LawfulEntity.decode_stored y.record⟩⟩

/-! ### Events -/

/-- The key of the instance that a step has reported. -/
def madeKey? (calls : List Creation) : FlightStep Unit → Option InstanceKey
  | .served place e => e.event?.bind fun _ => calls[place]?.map Creation.key
  | .ended .. => none

/-- The creation that has reported an instance has made its record. -/
theorem of_madeKey (h : Accomplished calls course) (session : Session σ) {step : FlightStep Unit}
    (hstep : step ∈ course) {k : InstanceKey} (hk : madeKey? calls step = some k) :
    ∃ e x u, step = .served step.place e ∧ calls[step.place]? = some x ∧ x.key = k ∧
      e.event? = some (.created, x.hostname) ∧
      MemoryStore.find? u .machine (EntityKey.text k) = none ∧
      Service.committed x.key u 0 x.record ∈ (World.ofCourse session course).deeds step.place := by
  cases step with
  | ended place r => cases hk
  | served place e =>
    obtain ⟨event, hevent, hkey⟩ := Option.bind_eq_some_iff.1 hk
    obtain ⟨x, hx, rfl⟩ := Option.map_eq_some_iff.1 hkey
    have hmem : event ∈
        ((World.ofCourse session course).deeds place).filterMap Exchange.event? := by
      obtain ⟨es, hcarried, -⟩ := h.each place x hx
      rw [World.deeds_ofCourse hcarried]
      exact List.mem_filterMap.2 ⟨e, List.mem_filter.2
        ⟨hcarried.mem_iff.1 hstep, Exchange.isDeed_of_event hevent⟩, hevent⟩
    rcases (h.end_deeds session hx).reported with ⟨hnone, -⟩ | ⟨hone, u, hu, hcommitted⟩
    · rw [hnone] at hmem
      cases hmem
    · rw [hone] at hmem
      obtain rfl := List.mem_singleton.1 hmem
      exact ⟨e, x, u, rfl, hx, rfl, hevent, hu, hcommitted⟩

/-- A creation that has written has reported the instance. -/
theorem exists_madeKey (h : Accomplished calls course) {place : Nat} {e : Exchange} {x : Creation}
    (he : .served place e ∈ course) (hwrite : e.write?.isSome) (hx : calls[place]? = some x) :
    x.key ∈ course.filterMap (madeKey? calls) := by
  obtain ⟨es, hcarried, hend⟩ := h.each place x hx
  have hdeed : e ∈ es.filter Exchange.isDeed :=
    List.mem_filter.2 ⟨hcarried.mem_iff.1 he, Exchange.isDeed_of_write hwrite⟩
  rcases hend.reported with ⟨-, hnone⟩ | ⟨hone, -⟩
  · rw [hnone] at hdeed
    cases hdeed
  · obtain ⟨e', he', hevent⟩ : ∃ e' ∈ es.filter Exchange.isDeed,
        e'.event? = some (.created, x.hostname) :=
      List.mem_filterMap.1 (hone ▸ List.mem_singleton_self _)
    refine List.mem_filterMap.2
      ⟨.served place e', hcarried.mem_iff.2 (List.mem_filter.1 he').1, ?_⟩
    rw [madeKey?, hevent, hx]
    rfl

/-- The events are those of the instances that were made. -/
theorem events_eq (h : Accomplished calls course) (session : Session σ)
    (hnames : ∀ x ∈ calls, x.hostname = x.key.name.text) :
    (course.filterMap FlightStep.exchange?).filterMap Exchange.event? =
      (course.filterMap (madeKey? calls)).map fun k => (.created, k.name.text) := by
  rw [List.filterMap_filterMap, List.map_filterMap]
  refine List.filterMap_congr fun step hstep => ?_
  cases hk : madeKey? calls step with
  | some k =>
    obtain ⟨e, x, u, heq, hx, rfl, hevent, -⟩ := h.of_madeKey session hstep hk
    rw [heq]
    show e.event? = _
    rw [hevent, hnames x (List.mem_of_getElem? hx)]
    rfl
  | none =>
    cases step with
    | ended place r => rfl
    | served place e =>
      obtain ⟨x, hx⟩ := h.exists_call hstep
      rw [madeKey?, hx] at hk
      cases hevent : e.event? with
      | none => exact hevent
      | some event =>
        rw [hevent] at hk
        cases hk

/-- **An instance is reported once.** -/
theorem nodup_made (h : Accomplished calls course) (session : Session σ)
    (hrun : Unbroken s (course.filterMap FlightStep.exchange?) t) :
    (course.filterMap (madeKey? calls)).Nodup := by
  rw [List.Nodup, List.pairwise_filterMap, List.pairwise_iff_forall_sublist]
  intro a b hsub k hk k' hk' hkeys
  subst hkeys
  have hmem : ∀ step ∈ [a, b], step ∈ course := fun step hstep => hsub.mem hstep
  obtain ⟨e, x, u, ha, hx, rfl, hevent, hnone, hcommitted⟩ :=
    h.of_madeKey session (hmem a List.mem_cons_self) hk
  obtain ⟨e', x', u', hb, hx', hsame, hevent', hnone', hcommitted'⟩ :=
    h.of_madeKey session (hmem b (List.mem_cons_of_mem _ List.mem_cons_self)) hk'
  -- one place only makes the first record of a key
  have hfirst := Creation.commitsFirst_of_mem hrun.follows hcommitted hnone
  have hfirst' := Creation.commitsFirst_of_mem hrun.follows hcommitted' (hsame ▸ hnone')
  have hplace : a.place = b.place := hfirst.place_eq hfirst' hsame.symm
  obtain ⟨es, hcarried, hend⟩ := h.each a.place x hx
  -- and at one place there is one event only
  have hboth : [e, e'].Sublist es := by
    have htwo : [a, b].filter (·.place = a.place) = [a, b] :=
      List.filter_eq_self.2 (by simp [hplace])
    have hfiltered := (hsub.filter (·.place = a.place)).filterMap FlightStep.exchange?
    rw [htwo, hcarried.exchanges_eq, ha, hb] at hfiltered
    exact hfiltered
  have hevents := (hboth.filter Exchange.isDeed).filterMap Exchange.event?
  have htwo : ([e, e'].filter Exchange.isDeed).filterMap Exchange.event? =
      [(.created, x.hostname), (.created, x'.hostname)] := by
    simp [Exchange.isDeed_of_event hevent, Exchange.isDeed_of_event hevent', hevent, hevent']
  rw [htwo] at hevents
  have hlength := hevents.length_le
  rcases hend.reported with ⟨hnone, -⟩ | ⟨hone, -⟩
  · rw [hnone] at hlength
    simp at hlength
  · rw [hone] at hlength
    simp at hlength

/-- **What was made** is what is there now and was not before. -/
theorem mem_made_iff (h : Accomplished calls course) (session : Session σ)
    (hrun : Unbroken s (course.filterMap FlightStep.exchange?) t) (id : String) :
    (∃ k ∈ course.filterMap (madeKey? calls), EntityKey.text k = id) ↔
      s.find? .machine id = none ∧ (t.find? .machine id).isSome := by
  constructor
  · rintro ⟨k, hk, rfl⟩
    obtain ⟨step, hstep, hkey⟩ := List.mem_filterMap.1 hk
    obtain ⟨e, x, u, -, hx, rfl, -, hnone, hcommitted⟩ := h.of_madeKey session hstep hkey
    have hmem := World.mem_history_of_mem_deeds hcommitted
    have hwrites := (x.writesTo_committed step.place u x.key).2 rfl
    refine ⟨(firstWrite?_eq_some hrun.follows hmem hwrites hnone).1, ?_⟩
    obtain ⟨pre, post, hsplit⟩ := List.append_of_mem hmem
    have hfollows : Follows s (World.ofCourse session course).history t := hrun.follows
    rw [hsplit] at hfollows
    exact hfollows.split.2.grows.isSome (Happening.isSome_after hwrites)
  · rintro ⟨hnone, hsome⟩
    rcases h.find?_eq hrun .machine id with hsame | ⟨-, place, e, x, he, hwrite, hx, -, rfl, -⟩
    · rw [hsame, hnone] at hsome
      cases hsome
    · exact ⟨x.key, h.exists_madeKey he hwrite hx, rfl⟩

/-- What was made is the record of a creation. -/
theorem find?_made (h : Accomplished calls course) (session : Session σ)
    (hrun : Unbroken s (course.filterMap FlightStep.exchange?) t) {k : InstanceKey}
    (hk : k ∈ course.filterMap (madeKey? calls)) :
    ∃ x ∈ calls, x.key = k ∧
      t.find? .machine (EntityKey.text k) = some ⟨1, Entity.stored x.record⟩ := by
  obtain ⟨hnone, hsome⟩ := (h.mem_made_iff session hrun (EntityKey.text k)).1 ⟨k, hk, rfl⟩
  rcases h.find?_eq hrun .machine (EntityKey.text k) with
    hsame | ⟨-, place, e, x, -, -, hx, -, hkey, hfound⟩
  · rw [hsame, hnone] at hsome
    cases hsome
  · exact ⟨x, List.mem_of_getElem? hx, (EntityKey.text_injective hkey).symm, hfound⟩

end Accomplished

/-! ## What was recorded -/

/-- The instances that some URLs name have records: between a store and a later one, with the events
that were reported meanwhile. -/
structure InstancesRecorded (key : ManagerKey) (urls : List String) (s t : MemoryStore)
    (events : List (MachineEvent × String)) : Prop where
  /-- Every URL names an instance of the manager, which has a record. -/
  present : ∀ url ∈ urls, ∃ k i, key.instanceAt url = .ok k ∧ t.read Instance k = .ok (some i)
  /-- What was there before is untouched. -/
  untouched : ∀ id, (s.find? .machine id).isSome → t.find? .machine id = s.find? .machine id
  /-- What is new was made once for one of the URLs, and has one event with its name. -/
  made : ∃ new : List InstanceKey, new.Nodup ∧
    (∀ id, (∃ k ∈ new, EntityKey.text k = id) ↔
      s.find? .machine id = none ∧ (t.find? .machine id).isSome) ∧
    (∀ k ∈ new, ∃ url ∈ urls, key.instanceAt url = .ok k ∧
      t.find? .machine (EntityKey.text k) =
        some ⟨1, Entity.stored (Instance.discovered k url key)⟩) ∧
    events = new.map fun k => (.created, k.name.text)

/-- **Creations that nobody disturbs record the instances**, if none of them fails, and touch no
record of another kind. -/
theorem recorded_creations (c : Cloud σ) {s t : Session σ} (hm : s.InMemory) {key : ManagerKey}
    {urls : List String} {keys : List InstanceKey}
    (hkeys : urls.eraseDups.mapM key.instanceAt = .ok keys) {limit : Nat} {order : List Nat}
    {results : List (Except Failure Unit)}
    (hserve : s.serve c (takeTurns limit order []
      ((key.creations keys urls.eraseDups).map Creation.service)) = (.ok results, t))
    (hok : firstFailure? results = none) :
    t.InMemory ∧
      (∀ kind id, kind ≠ .machine → t.records.find? kind id = s.records.find? kind id) ∧
      ∃ events, t.events = s.events ++ events ∧
        InstancesRecorded key urls s.records t.records events := by
  obtain ⟨es, hy, hgenuine, hunbroken, hevents, hmt⟩ := Session.exists_yields c
    (takeTurns limit order [] ((key.creations keys urls.eraseDups).map Creation.service)) hm
  rw [hserve] at hy hunbroken hevents hmt
  obtain ⟨course, hfanout, rfl, hresults⟩ := Fanout.of_yields hy
  obtain rfl := Except.ok.inj hresults
  let calls := key.creations keys urls.eraseDups
  have hall : Accomplished calls course := .of_fanout s hfanout hgenuine hunbroken.amid hok
  have hcall {x : Creation} (hx : x ∈ calls) :
      x.manager = key ∧ x.url ∈ urls ∧ key.instanceAt x.url = .ok x.key := by
    obtain ⟨hmanager, hurl, hkey⟩ := of_mem_creations hkeys hx
    exact ⟨hmanager, List.mem_eraseDups.1 hurl, hkey⟩
  have hnames : ∀ x ∈ calls, x.hostname = x.key.name.text := by
    intro x hx
    rw [Creation.hostname, (ManagerKey.of_instanceAt (hcall hx).2.2).2]
    rfl
  refine ⟨hmt, fun kind id hkind => ?_, _, hevents, ?_, fun id hsome => ?_,
    course.filterMap (Accomplished.madeKey? calls), hall.nodup_made s hunbroken,
    hall.mem_made_iff s hunbroken, fun k hk => ?_, hall.events_eq s hnames⟩
  · rcases hall.find?_eq hunbroken kind id with hsame | ⟨-, place, e, x, -, -, -, hmachine, -⟩
    · exact hsame
    · exact (hkind hmachine).elim
  · intro url hurl
    obtain ⟨place, hplace⟩ := List.getElem?_of_mem (List.mem_eraseDups.2 hurl)
    obtain ⟨k, hk, hx⟩ := getElem?_creations hkeys hplace
    obtain ⟨i, hread⟩ := hall.read s hunbroken hgenuine (List.mem_of_getElem? hx)
    exact ⟨k, i, hk, hread⟩
  · rcases hall.find?_eq hunbroken .machine id with hsame | ⟨hnone, -⟩
    · exact hsame
    · rw [hnone] at hsome
      cases hsome
  · obtain ⟨x, hx, rfl, hfound⟩ := hall.find?_made s hunbroken hk
    obtain ⟨rfl, hurl, hkey⟩ := hcall hx
    exact ⟨x.url, hurl, hkey, hfound⟩

end FleetReconciler
