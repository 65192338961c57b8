import FleetReconciler.Proofs.ConsistentRuns
import FleetReconciler.Proofs.DiscoveryParts

/-!
# What a failed discovery has done

A discovery can fail while it lists, while it derives the keys of what is listed, in any of its
creations, and when it writes the list of the manager. It works among other services and writers, on
a store in which any value may be corrupt.

* `Attempts` — the creations of a discovery, one for each URL, in flight together;
* `attempts_of_yields` — **every creation is carried to its end**, whatever becomes of the others;
* `FailedDiscovery` — the four ways of failing, each with what has been done by then;
* `failed_discovery` — **a discovery that fails has left the list of its manager alone**.
-/

namespace FleetReconciler

open Service

variable {σ : Type}

/-! ## Creations in flight -/

/-- The creations for the URLs of a listing, at most so many of them in flight and in a given order
of turns: one for each URL, taken once, which goes from its first exchange to its end. It has then
made the record and reported it, or found a record, or failed without a deed. -/
structure Attempts (key : ManagerKey) (limit : Nat) (order : List Nat) (urls : List String)
    (course : List (FlightStep Unit)) (t : MemoryStore) : Prop where
  scheduled : Scheduled limit order [] (List.range urls.eraseDups.length) course
  places : ∀ step ∈ course, step.place < urls.eraseDups.length
  each : ∀ (place : Nat) (url : String), urls.eraseDups[place]? = some url →
    ∃ k es r, key.instanceAt url = .ok k ∧ Carried course place (ensureInstance k url key) es r ∧
      Creation.End ⟨k, url, key⟩ (es.filter Exchange.isDeed) r ∧ (r = .ok () → t.HasInstance k)

/-- Without URLs there is nothing to do. -/
theorem attempts_nil (key : ManagerKey) (limit : Nat) (order : List Nat) (t : MemoryStore) :
    Attempts key limit order [] [] t where
  scheduled := by
    rw [List.eraseDups_nil]
    exact .nil limit order
  places := List.forall_mem_nil _
  each place url h := by
    rw [List.eraseDups_nil] at h
    cases h

section Creations

variable {c : Cloud σ} {key : ManagerKey} {limit : Nat} {order : List Nat} {urls : List String}
  {keys : List InstanceKey} {es : List Exchange} {s t : MemoryStore}
  {result : Except Failure (List (Except Failure Unit))}

/-- **Every creation is carried to its end**, whatever becomes of the others. -/
theorem attempts_of_yields (session : Session σ)
    (hkeys : urls.eraseDups.mapM key.instanceAt = .ok keys)
    (hy : (takeTurns limit order []
      ((key.creations keys urls.eraseDups).map Creation.service)).Yields es result)
    (hgenuine : ∀ e ∈ es, e.Genuine c) (hamid : Amid s es t) :
    ∃ course, Attempts key limit order urls course t ∧ es = course.filterMap FlightStep.exchange? ∧
      result = .ok (course.filterMap FlightStep.result?) := by
  obtain ⟨course, hfanout, rfl, hresult⟩ := Fanout.of_yields hy
  have hlength : ((key.creations keys urls.eraseDups).map Creation.service).length =
      urls.eraseDups.length := by
    rw [List.length_map, length_creations hkeys]
  refine ⟨course, ⟨hlength ▸ hfanout.scheduled, hlength ▸ hfanout.places, ?_⟩, rfl, hresult⟩
  intro place url hurl
  obtain ⟨k, hk, hplace⟩ := getElem?_creations hkeys hurl
  obtain ⟨own, r, hcarried, hown, hamidown, hend⟩ :=
    hfanout.exists_creation session hgenuine hamid hplace
  refine ⟨k, own, r, hk, hcarried, hend, ?_⟩
  rintro rfl
  obtain ⟨u, i, -, hut, hread⟩ :=
    Creation.read_of_yields (x := ⟨k, url, key⟩) session hcarried.1 hown hamidown
  exact hut.isSome (MemoryStore.isSome_read hread).symm

/-- The creations write records of instances only. -/
theorem Attempts.kind_of_write {course : List (FlightStep Unit)}
    (h : Attempts key limit order urls course t) {e : Exchange}
    (he : e ∈ course.filterMap FlightStep.exchange?) {w : Write} (hw : e.write? = some w) :
    w.kind = .machine := by
  obtain ⟨step, hstep, hexchange⟩ := List.mem_filterMap.1 he
  cases step with
  | ended place r => cases hexchange
  | served place e' =>
    obtain rfl := Option.some.inj hexchange
    have hplace := h.places _ hstep
    obtain ⟨k, own, r, -, hcarried, hend, -⟩ :=
      h.each place _ (List.getElem?_eq_getElem hplace)
    have hdeed : e' ∈ own.filter Exchange.isDeed := List.mem_filter.2
      ⟨hcarried.mem_iff.1 hstep, Exchange.isDeed_of_write (by rw [hw]; rfl)⟩
    rw [(hend.write hdeed hw).1]

end Creations

/-! ## The ways of failing -/

/-- How a discovery has failed, with what it has done by then; `t` is the store that is left. -/
inductive FailedDiscovery (key : ManagerKey) (settings : DiscoverySettings) (order : List Nat)
    (t : MemoryStore) : List Exchange → Failure → Prop
  /-- It could not list the group. -/
  | unlisted {es : List Exchange} {f : Failure}
      (listing : (listInstances key settings.pageSize).Yields es (.error f))
      (still : ∀ e ∈ es, e.IsStill) : FailedDiscovery key settings order t es f
  /-- A URL of the listing names no instance. -/
  | unnamed {es : List Exchange} {urls : List String} {url : String} {f : Failure}
      (listing : (listInstances key settings.pageSize).Yields es (.ok urls))
      (listed : url ∈ urls) (unnamed : key.instanceAt url = .error f)
      (still : ∀ e ∈ es, e.IsStill) : FailedDiscovery key settings order t es f
  /-- A creation has failed, and the first that did so in the order of completion is told. -/
  | uncreated {before : List Exchange} {urls : List String} {course : List (FlightStep Unit)}
      {f : Failure} (listing : (listInstances key settings.pageSize).Yields before (.ok urls))
      (still : ∀ e ∈ before, e.IsStill)
      (attempts : Attempts key (max settings.maxConcurrent.toNat 1) order urls course t)
      (first : firstFailure? (course.filterMap FlightStep.result?) = some f) :
      FailedDiscovery key settings order t (before ++ course.filterMap FlightStep.exchange?)
        (f.within (.recordingInstances key))
  /-- No creation has failed, but the list could not be written. -/
  | unrecorded {before after : List Exchange} {urls : List String} {keys : List InstanceKey}
      {course : List (FlightStep Unit)} {f : Failure}
      (listing : (listInstances key settings.pageSize).Yields before (.ok urls))
      (still : ∀ e ∈ before, e.IsStill) (named : urls.eraseDups.mapM key.instanceAt = .ok keys)
      (attempts : Attempts key (max settings.maxConcurrent.toNat 1) order urls course t)
      (created : firstFailure? (course.filterMap FlightStep.result?) = none)
      (recording : (setInstances key keys).Yields after (.error f))
      (left : ∀ e ∈ after, e.IsStill) :
      FailedDiscovery key settings order t
        (before ++ course.filterMap FlightStep.exchange? ++ after) f

section Failures

variable {c : Cloud σ} {key : ManagerKey} {settings : DiscoverySettings} {order : List Nat}
  {es : List Exchange} {s t : MemoryStore} {f : Failure}

/-- A discovery that fails after it has listed some URLs. -/
theorem FailedDiscovery.of_listed {before : List Exchange} {urls : List String} (session : Session σ)
    (hlisting : (listInstances key settings.pageSize).Yields before (.ok urls))
    (hy : (recordListed key (max settings.maxConcurrent.toNat 1) order urls.eraseDups).Yields es
      (.error f)) (hgenuine : ∀ e ∈ es, e.Genuine c) (hamid : Amid s es t) :
    FailedDiscovery key settings order t (before ++ es) f := by
  have hstill := still_of_listing hlisting
  unfold recordListed at hy
  split at hy
  · rename_i hempty
    have hrecording := Yields.error_of_map hy
    obtain rfl := eraseDups_eq_nil.1 hempty
    have hfailed := FailedDiscovery.unrecorded hlisting hstill rfl
      (attempts_nil key (max settings.maxConcurrent.toNat 1) order t) rfl hrecording
      (setInstances_still_of_error session hrecording hgenuine hamid)
    rwa [List.filterMap_nil, List.append_nil] at hfailed
  rcases Yields.of_bind hy with ⟨none, more, keys, rfl, hlift, hmore⟩ | ⟨g, hlift, hg⟩
  · obtain ⟨rfl, hkeys⟩ := Yields.of_lift hlift
    rw [List.nil_append] at hgenuine hamid ⊢
    rcases Yields.of_bind hmore with ⟨creating, after, results, rfl, htaking, hlast⟩ |
      ⟨g, htaking, -⟩
    · obtain ⟨course, hattempts, rfl, hresults⟩ := attempts_of_yields session hkeys.symm htaking
        (fun e he => hgenuine e (List.mem_append_left _ he))
        (hamid.sublist (List.sublist_append_left ..))
      obtain rfl := Except.ok.inj hresults
      cases hfirst : firstFailure? (course.filterMap FlightStep.result?) with
      | some g =>
        simp only [hfirst] at hlast
        cases hlast
        rw [List.append_nil]
        exact .uncreated hlisting hstill hattempts hfirst
      | none =>
        simp only [hfirst] at hlast
        have hrecording := Yields.error_of_map hlast
        rw [← List.append_assoc]
        exact .unrecorded hlisting hstill hkeys.symm hattempts hfirst hrecording
          (setInstances_still_of_error session hrecording
            (fun e he => hgenuine e (List.mem_append_right _ he))
            (hamid.sublist (List.sublist_append_right ..)))
    · obtain ⟨course, -, -, hresults⟩ :=
        attempts_of_yields session hkeys.symm htaking hgenuine hamid
      cases hresults
  · obtain ⟨rfl, hkeys⟩ := Yields.of_lift hlift
    obtain rfl := Except.error.inj hg
    obtain ⟨url, hurl, hunnamed⟩ := mapM_eq_error hkeys.symm
    rw [List.append_nil]
    exact .unnamed hlisting (List.mem_eraseDups.1 hurl) hunnamed hstill

/-- **A discovery that fails has failed in one of these ways.** -/
theorem FailedDiscovery.of_yields (session : Session σ)
    (hy : ((discover key settings).inTurns order).Yields es (.error f))
    (hgenuine : ∀ e ∈ es, e.Genuine c) (hamid : Amid s es t) :
    FailedDiscovery key settings order t es f := by
  rw [inTurns_discover] at hy
  rcases Yields.of_bind hy with ⟨before, rest, urls, rfl, hlisting, hrest⟩ | ⟨g, hlisting, hg⟩
  · exact .of_listed session hlisting hrest (fun e he => hgenuine e (List.mem_append_right _ he))
      (hamid.sublist (List.sublist_append_right ..))
  · obtain rfl := Except.error.inj hg
    exact .unlisted hlisting (still_of_listing hlisting)

/-- A discovery that fails writes records of instances only. -/
theorem FailedDiscovery.kind_of_write (h : FailedDiscovery key settings order t es f) {e : Exchange}
    (he : e ∈ es) {w : Write} (hw : e.write? = some w) : w.kind = .machine := by
  have hnone {es : List Exchange} (hstill : ∀ e ∈ es, e.IsStill) : e ∉ es := by
    intro hmem
    cases (hstill e hmem).1.symm.trans hw
  cases h with
  | unlisted _ still => exact (hnone still he).elim
  | unnamed _ _ _ still => exact (hnone still he).elim
  | uncreated _ still attempts _ =>
    exact attempts.kind_of_write ((List.mem_append.1 he).resolve_left (hnone still)) hw
  | unrecorded _ still _ attempts _ _ left =>
    have hcourse := (List.mem_append.1 he).resolve_right (hnone left)
    exact attempts.kind_of_write ((List.mem_append.1 hcourse).resolve_left (hnone still)) hw

end Failures

/-- **What a failed discovery has done.** It has run among any other services while others put
records, on any store. Then it has written no record of a manager. If it could not list the group,
or a URL of the listing names no instance, it has neither written nor reported anything. Otherwise
every URL of the listing had its creation, once, and each that did not fail has left a record and
reported it if it made it; and if any has failed, the failure is that of the first in the order of
completion. -/
theorem failed_discovery (c : Cloud σ) (session : Session σ) (store : MemoryStore)
    (services : List (Service Unit)) (turns : List Turn) {place : Nat} {key : ManagerKey}
    {settings : DiscoverySettings} {order : List Nat} {f : Failure}
    (hplace : services[place]? = some ((discover key settings).inTurns order))
    (hfailed : ((Crowd.start session store services).run c turns).services[place]? =
      some (.fail f)) :
    let w := ((Crowd.start session store services).run c turns).world
    (∀ e ∈ w.exchangesAt place, ∀ write, e.write? = some write → write.kind = .machine) ∧
      FailedDiscovery key settings order w.records (w.exchangesAt place) f := by
  intro w
  have htraced := (Crowd.traced_start c session store services).run turns
  have hfollows : Follows store w.history w.records :=
    Crowd.follows_run c turns (Crowd.follows_start session store services)
  have hway : FailedDiscovery key settings order w.records (w.exchangesAt place) f :=
    .of_yields session (htraced.failed hplace hfailed) (htraced.genuine place) (hfollows.amid place)
  exact ⟨fun e he _ => hway.kind_of_write he, hway⟩

/-! ### One record that cannot be read -/

/-- The failure of a service that has failed. -/
def Service.failure? {α : Type} : Service α → Option Failure
  | fail f => some f
  | _ => none

theorem Service.eq_fail_of_failure? {α : Type} {service : Service α} {f : Failure}
    (h : service.failure? = some f) : service = .fail f := by
  cases service with
  | fail g => exact congrArg fail (Option.some.inj h)
  | done a => cases h
  | ask r next => cases h

namespace Sample

/-- The store of the manager, with a value for an instance that is no record. -/
def corruptStore : MemoryStore := managedStore.put .machine (EntityKey.text machine.key) .null

/-- A discovery that meets the value, while another writer puts the record of the manager again. -/
def hindered : Crowd CloudScript Unit :=
  (Crowd.start (reporting ["https://x/vm", "https://x/other"]) corruptStore
    [(discover managerKey {}).inTurns [1, 0]]).run CloudScript.cloud
      (List.replicate 9 (.serve 0) ++ .put (.manager managed) :: List.replicate 9 (.serve 0))

end Sample

/-- The instance whose record cannot be read fails, and the other one is recorded nevertheless. -/
theorem failed_discovery_records_the_other :
    ∃ f, Sample.hindered.services[0]? = some (.fail f) ∧
      (∀ e ∈ Sample.hindered.world.exchangesAt 0, ∀ write, e.write? = some write →
        write.kind = .machine) ∧
      FailedDiscovery Sample.managerKey {} [1, 0] Sample.hindered.world.records
        (Sample.hindered.world.exchangesAt 0) f ∧
      Sample.hindered.world.events 0 = [(.created, "other")] := by
  have hsome : (Sample.hindered.services[0]?.bind Service.failure?).isSome := by decide +kernel
  obtain ⟨f, hf⟩ := Option.isSome_iff_exists.1 hsome
  obtain ⟨service, hservice, hfailure⟩ := Option.bind_eq_some_iff.1 hf
  obtain rfl := Service.eq_fail_of_failure? hfailure
  obtain ⟨hkinds, hway⟩ := failed_discovery CloudScript.cloud _ Sample.corruptStore _ _ rfl hservice
  exact ⟨f, hservice, hkinds, hway, by decide +kernel⟩

end FleetReconciler
