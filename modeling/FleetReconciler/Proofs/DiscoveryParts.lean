import FleetReconciler.Proofs.Creation
import FleetReconciler.Proofs.DiscoveredLists
import FleetReconciler.Proofs.Fanout

/-!
# The parts of a discovery

A discovery lists a group, makes records for what it has listed, and then writes the list of the
manager. What each of these parts may do is told from its exchanges, wherever they have taken place.

* `asks_listInstances`, `asks_setInstances` — what a listing and the change of a list ask for;
* `ManagerKey.creations` — the calls for the URLs of a listing;
* `recordListed`, `inTurns_discover` — a discovery whose creations take turns in a given order;
* `Creation.end_of_yields`, `Creation.read_of_yields` — **what a creation has done** and found;
* `Fanout.exists_creation` — the same of each of the creations that are in flight together;
* `setInstances_still_of_error` — a list that could not be written is left alone.
-/

namespace FleetReconciler

open Service

variable {σ α : Type}

/-! ## Requests -/

namespace Request

/-- What a listing may ask for. -/
def OfListing : Request → Prop
  | .read .lookup .. | .note _ | .pageBudget | .listInstances _ => True
  | _ => False

/-- What a change of one record may ask for. -/
def OfChange : Request → Prop
  | .read (.transaction _) .. | .commit .. | .save | .note _ => True
  | _ => False

/-- What a creation may ask for. -/
def OfCreation : Request → Prop
  | .send .. => True
  | .read .lookup .. => True
  | r => r.OfChange

end Request

theorem asks_listPages (call : ListCall) (budget : Nat) :
    (listPages call budget).Asks Request.OfListing := by
  induction budget generalizing call with
  | zero => trivial
  | succ budget ih =>
    rw [listPages, request_bind]
    refine ⟨trivial, fun reply => ?_⟩
    cases reply with
    | error e => trivial
    | ok page =>
      simp only
      split
      · trivial
      · exact (ih _).bind fun _ => trivial

theorem asks_note {p : Request → Prop} (n : Notice) (h : p (.note n)) : (note n).Asks p :=
  Asks.request h

theorem asks_listInstances (key : ManagerKey) (pageSize : UInt32) :
    (listInstances key pageSize).Asks Request.OfListing := by
  unfold listInstances
  refine Asks.bind (.lookup trivial) fun manager => ?_
  cases manager with
  | none => exact (asks_note _ trivial).bind fun _ => trivial
  | some manager =>
    simp only
    split
    · exact (asks_note _ trivial).bind fun _ => trivial
    refine Asks.bind (.lookup trivial) fun revision => ?_
    cases revision with
    | none => exact (asks_note _ trivial).bind fun _ => trivial
    | some revision =>
      simp only
      split
      · exact Asks.within ((Asks.request trivial).bind fun _ => asks_listPages _ _) _
      · exact (asks_note _ trivial).bind fun _ => trivial

/-- A listing neither writes nor reports anything. -/
theorem still_of_listing {key : ManagerKey} {pageSize : UInt32} {es : List Exchange}
    {result : Except Failure (List String)} (hy : (listInstances key pageSize).Yields es result) :
    ∀ e ∈ es, e.IsStill := by
  intro e he
  have hrequest := (asks_listInstances key pageSize).of_yields hy e he
  refine Exchange.isStill (fun kind id version value h => ?_) fun event hostname h => ?_
  · rw [h] at hrequest
    exact hrequest
  · rw [h] at hrequest
    exact hrequest

theorem asks_setInstances (key : ManagerKey) (instances : List InstanceKey) :
    (setInstances key instances).Asks Request.OfChange := by
  have htransact : (transact key (Change.mutation (Manager.list? instances))).Asks
      Request.OfChange := .transact (fun _ => trivial) (fun _ _ => trivial) trivial
  have hchange : (Service.change (.updatingInstances key) key (Manager.list? instances)).Asks
      Request.OfChange := Asks.bind (htransact.within _) fun _ => trivial
  refine hchange.bind fun r => ?_
  obtain ⟨change, found⟩ := r
  cases change with
  | missing => exact (asks_note _ trivial).bind fun _ => trivial
  | updated => exact (asks_note _ trivial).bind fun _ => trivial
  | unchanged => trivial

/-! ### Turns -/

/-- A service that has no others in flight does not depend on the order of turns. -/
theorem Service.inTurns_eq_self {service : Service α} (h : service.Asks (· ≠ .turns))
    (order : List Nat) : service.inTurns order = service := by
  induction service with
  | done a => rfl
  | fail f => rfl
  | ask r next ih =>
    cases r with
    | turns => exact (h.1 rfl).elim
    | _ => exact congrArg (ask _) (funext fun reply => ih reply (h.2 reply))

theorem Service.Asks.mono {p q : Request → Prop} (hpq : ∀ r, p r → q r) {service : Service α}
    (h : service.Asks p) : service.Asks q := by
  induction service with
  | done a => trivial
  | fail f => trivial
  | ask r next ih => exact ⟨hpq r h.1, fun reply => ih reply (h.2 reply)⟩

theorem asks_ensureInstance (key : InstanceKey) (url : String) (manager : ManagerKey) :
    (ensureInstance key url manager).Asks Request.OfCreation := by
  unfold ensureInstance
  refine Asks.bind (.lookup trivial) fun found => ?_
  split
  · trivial
  have htransact : (transact key (Instance.createIfMissing (.discovered key url manager))).Asks
      Request.OfCreation := .transact (fun _ => trivial) (fun _ _ => trivial) trivial
  refine (htransact.within _).bind fun created => ?_
  split
  · exact (asks_note _ trivial).bind fun _ => .request trivial
  · trivial

namespace Service.Asks

variable {p : Request → Prop}

theorem result {service : Service α} (h : service.Asks p) : service.result.Asks p := by
  induction service with
  | done a => trivial
  | fail f => trivial
  | ask r next ih => exact ⟨h.1, fun reply => ih reply (h.2 reply)⟩

theorem eachInOrder {services : List (Service α)} (h : ∀ s ∈ services, s.Asks p) :
    (eachInOrder services).Asks p := by
  induction services with
  | nil => trivial
  | cons s services ih =>
    obtain ⟨hs, hservices⟩ := List.forall_mem_cons.1 h
    exact hs.result.bind fun _ => (ih hservices).bind fun _ => trivial

theorem takeTurns {limit : Nat} {turns : List Nat} {active waiting : List (Service α)}
    (h : ∀ s ∈ active ++ waiting, s.Asks p) : (takeTurns limit turns active waiting).Asks p := by
  induction turns generalizing active waiting with
  | nil => exact eachInOrder h
  | cons turn turns ih =>
    have hall : (takeIn limit active waiting).1 ++ (takeIn limit active waiting).2 =
        active ++ waiting := by
      simp only [takeIn, List.append_assoc, List.take_append_drop]
    rw [← hall] at h
    rw [Service.takeTurns]
    generalize takeIn limit active waiting = taken at h ⊢
    obtain ⟨joined, left⟩ := taken
    simp only at h ⊢
    cases hplace : joined[turn % joined.length]? with
    | none => exact eachInOrder h
    | some service =>
      obtain ⟨before, after, hsplit, herase, hset⟩ := exists_around hplace
      have hothers : ∀ s ∈ before ++ after ++ left, s.Asks p := fun s hs => h s (by grind)
      have hservice : service.Asks p := h service (by grind)
      cases service with
      | done a =>
        simp only [herase]
        exact (ih hothers).bind fun _ => trivial
      | fail f =>
        simp only [herase]
        exact (ih hothers).bind fun _ => trivial
      | ask r next =>
        simp only [hset]
        exact ⟨hservice.1, fun reply => ih fun s hs => by
          have hnext := hservice.2 reply
          grind⟩

end Service.Asks

/-! ## What the parts have done -/

section Parts

variable {c : Cloud σ} {es : List Exchange} {s t : MemoryStore}

/-- **What a creation has done**, from its exchanges. -/
theorem Creation.end_of_yields {x : Creation} {result : Except Failure Unit} (session : Session σ)
    (hy : x.service.Yields es result) (hgenuine : ∀ e ∈ es, e.Genuine c) (hamid : Amid s es t) :
    x.End (es.filter Exchange.isDeed) result := by
  have hmeets : x.service.MeetsAt c 0 (Creation.Keep [x]) (Creation.Post [x] 0)
      (.ofStore session s) := Creation.service_meets rfl ⟨s, rfl⟩ rfl
  obtain ⟨w, hend, -, hdeeds⟩ := hmeets.of_yields session hy hgenuine hamid
  have hstart : (World.ofStore session s).deeds 0 = [] := rfl
  rw [hstart, List.nil_append] at hdeeds
  exact hdeeds ▸ hend x rfl

/-- **A creation that has ended well has found its record**, or one there before. -/
theorem Creation.read_of_yields {x : Creation} (session : Session σ)
    (hy : x.service.Yields es (.ok ())) (hgenuine : ∀ e ∈ es, e.Genuine c) (hamid : Amid s es t) :
    ∃ u i, s.Grows u ∧ u.Grows t ∧ u.read Instance x.key = .ok (some i) := by
  rcases Yields.of_bind hy with ⟨before, after, found, rfl, hlookup, hrest⟩ | ⟨f, -, hf⟩
  · obtain ⟨u, rfl, hread⟩ := lookup_of_yields hlookup
      fun e he => hgenuine e (List.mem_append_left _ he)
    obtain ⟨hfrom, hto⟩ := hamid.grows_of_mem (List.mem_append_left _ List.mem_cons_self)
    cases found with
    | some i => exact ⟨u, i, hfrom, hto, hread.symm⟩
    | none =>
      -- no record was found, so the transaction has followed
      rcases Yields.of_bind hrest with ⟨writes, last, made, rfl, hwithin, -⟩ | ⟨f, -, hf⟩
      · obtain ⟨inner, htransact, hinner⟩ := Yields.of_within hwithin
        obtain ⟨r, rfl⟩ : ∃ r, inner = .ok r := by
          cases inner with
          | ok r => exact ⟨r, rfl⟩
          | error f => cases hinner
        have hwrites : Amid s writes t := hamid.sublist
          ((List.sublist_append_left writes last).trans (List.sublist_append_right [_] _))
        have houtcome := outcome_of_yields session htransact
          (fun e he => hgenuine e (List.mem_append_right _ (List.mem_append_left _ he))) hwrites
        generalize hresult : (Except.ok r : Except Failure (Committed Bool)) = result at houtcome
        generalize writes.filter Exchange.isDeed = deeds at houtcome
        cases houtcome with
        | gaveUp => cases hresult
        | wrote tries before decision grows =>
          obtain ⟨-, -, hmutate, hchanged, -⟩ := attempt_eq_write.1 decision
          exact ⟨_, _, before.grows.trans fun _ _ => MemoryStore.grows_put .., grows,
            MemoryStore.read_put_self _ x.key _⟩
        | stopped tries before decision grows =>
          subst hresult
          obtain ⟨version, current, hdecode, hsame, -⟩ := attempt_eq_stop_ok.1 decision
          cases current with
          | some i => exact ⟨_, i, before.grows, grows, read_eq_ok.2 ⟨version, hdecode⟩⟩
          | none => cases hsame
      · cases hf
  · cases hf

/-- What a creation has written is its record, where there was none. -/
theorem Creation.End.write {x : Creation} {deeds : List Exchange} {result : Except Failure Unit}
    (h : x.End deeds result) {e : Exchange} (he : e ∈ deeds) {w : Write} (hw : e.write? = some w) :
    w = ⟨.machine, EntityKey.text x.key, Entity.stored x.record⟩ ∧
      e.records.find? .machine (EntityKey.text x.key) = none := by
  have hdeeds : deeds = [] ∨ ∃ u v : MemoryStore, u.find? .machine (EntityKey.text x.key) = none ∧
      deeds = [Service.committed x.key u 0 x.record, ⟨v, .send .created x.hostname, ()⟩] := by
    cases result with
    | ok v => exact h
    | error f => exact .inl h.1
  rcases hdeeds with rfl | ⟨u, v, hnone, rfl⟩
  · cases he
  · simp only [List.mem_cons, List.not_mem_nil, or_false] at he
    rcases he with rfl | rfl
    · exact ⟨(Option.some.inj hw).symm, hnone⟩
    · cases hw

/-- **Every creation in flight with others comes to its end**: its exchanges are some of those of
all. -/
theorem Fanout.exists_creation {limit : Nat} {order : List Nat} {calls : List Creation}
    {course : List (FlightStep Unit)} (h : Fanout limit order (calls.map Creation.service) course)
    (session : Session σ) (hgenuine : ∀ e ∈ course.filterMap FlightStep.exchange?, e.Genuine c)
    (hamid : Amid s (course.filterMap FlightStep.exchange?) t) {place : Nat} {x : Creation}
    (hx : calls[place]? = some x) :
    ∃ own r, Carried course place x.service own r ∧ (∀ e ∈ own, e.Genuine c) ∧ Amid s own t ∧
      x.End (own.filter Exchange.isDeed) r := by
  obtain ⟨own, r, hcarried⟩ := h.each place x.service (by rw [List.getElem?_map, hx]; rfl)
  have hown : ∀ e ∈ own, e.Genuine c := fun e he => hgenuine e (hcarried.sublist.mem he)
  have hamidown : Amid s own t := hamid.sublist hcarried.sublist
  exact ⟨own, r, hcarried, hown, hamidown,
    Creation.end_of_yields session hcarried.1 hown hamidown⟩

/-- After the transaction of a list there is a notice at most. -/
theorem setInstances_yields {key : ManagerKey} {instances : List InstanceKey}
    {result : Except Failure Change} (hy : (setInstances key instances).Yields es result) :
    ∃ before after inner, es = before ++ after ∧
      (transact key (Change.mutation (Manager.list? instances))).Yields before inner ∧
      (∀ e ∈ after, e.IsStill) ∧
      result = inContext (.updatingInstances key) (inner.map fun r => r.value.1) := by
  rcases Yields.of_bind hy with ⟨before, after, ⟨change, found⟩, rfl, hchange, hrest⟩ |
    ⟨f, hchange, rfl⟩
  · obtain ⟨inner, htransact, hvalue⟩ := Yields.of_change hchange
    cases inner with
    | error f => cases hvalue
    | ok r =>
      obtain ⟨⟨change', found'⟩, written⟩ := r
      cases hvalue
      -- the notice, if there is one
      have hnotice {n : Notice}
          (hy : (note n >>= fun _ => (pure change : Service Change)).Yields after result) :
          (∀ e ∈ after, e.IsStill) ∧ result = .ok change := by
        cases hy with
        | ask rest =>
          cases rest
          exact ⟨List.forall_mem_singleton.2 ⟨rfl, rfl⟩, rfl⟩
      have hend : (∀ e ∈ after, e.IsStill) ∧ result = .ok change := by
        cases change with
        | missing => exact hnotice hrest
        | updated => exact hnotice hrest
        | unchanged =>
          cases hrest
          exact ⟨List.forall_mem_nil _, rfl⟩
      exact ⟨before, after, _, rfl, htransact, hend.1, hend.2⟩
  · obtain ⟨inner, htransact, hvalue⟩ := Yields.of_change hchange
    cases inner with
    | ok r => cases hvalue
    | error g =>
      cases hvalue
      exact ⟨es, [], .error g, (List.append_nil es).symm, htransact, List.forall_mem_nil _, rfl⟩

/-- **A list that could not be written is left alone**, and nothing is reported. -/
theorem setInstances_still_of_error {key : ManagerKey} {instances : List InstanceKey} {f : Failure}
    (session : Session σ) (hy : (setInstances key instances).Yields es (.error f))
    (hgenuine : ∀ e ∈ es, e.Genuine c) (hamid : Amid s es t) : ∀ e ∈ es, e.IsStill := by
  obtain ⟨before, after, inner, rfl, htransact, hafter, hresult⟩ := setInstances_yields hy
  obtain ⟨g, rfl⟩ : ∃ g, inner = .error g := by
    cases inner with
    | ok r => cases hresult
    | error g => exact ⟨g, rfl⟩
  obtain ⟨u, hbefore, -⟩ := hamid.of_append
  have hdeeds : before.filter Exchange.isDeed = [] := by
    have houtcome := outcome_of_yields session htransact
      (fun e he => hgenuine e (List.mem_append_left _ he)) hbefore
    generalize before.filter Exchange.isDeed = deeds at houtcome
    cases houtcome with
    | stopped => rfl
    | gaveUp => rfl
  intro e he
  rcases List.mem_append.1 he with hmem | hmem
  · exact Exchange.isStill_of_not_deed (List.filter_eq_nil_iff.1 hdeeds e hmem)
  · exact hafter e hmem

end Parts

/-! ## Discovery -/

/-- The calls for the URLs of a listing, with their keys. -/
def ManagerKey.creations (manager : ManagerKey) (keys : List InstanceKey) (urls : List String) :
    List Creation := (keys.zip urls).map fun (key, url) => { key, url, manager }

section Creations

variable {key : ManagerKey} {keys : List InstanceKey} {urls : List String}

theorem length_creations (h : urls.mapM key.instanceAt = .ok keys) :
    (key.creations keys urls).length = urls.length := by
  rw [ManagerKey.creations, List.length_map, List.length_zip, (mapM_eq_ok h).length_eq,
    Nat.min_self]

/-- A call is for one of the URLs. -/
theorem of_mem_creations (h : urls.mapM key.instanceAt = .ok keys) {x : Creation}
    (hx : x ∈ key.creations keys urls) :
    x.manager = key ∧ x.url ∈ urls ∧ key.instanceAt x.url = .ok x.key := by
  obtain ⟨⟨k, url⟩, hp, rfl⟩ := List.mem_map.1 hx
  exact ⟨rfl, (List.of_mem_zip hp).2, (List.forall₂_iff_zip.1 (mapM_eq_ok h)).2 hp⟩

/-- Each of the URLs has its call, at its place. -/
theorem getElem?_creations (h : urls.mapM key.instanceAt = .ok keys) {place : Nat} {url : String}
    (hurl : urls[place]? = some url) :
    ∃ k, key.instanceAt url = .ok k ∧ (key.creations keys urls)[place]? = some ⟨k, url, key⟩ := by
  have hlt : place < (key.creations keys urls).length := by
    rw [length_creations h]
    exact (List.getElem?_eq_some_iff.1 hurl).1
  have hlength := (mapM_eq_ok h).length_eq
  obtain ⟨k, hk⟩ : ∃ k, keys[place]? = some k :=
    ⟨_, List.getElem?_eq_getElem (hlength ▸ (List.getElem?_eq_some_iff.1 hurl).1)⟩
  have hplace : (key.creations keys urls)[place]? = some ⟨k, url, key⟩ := by
    have hzip : (keys.zip urls)[place]? = some (k, url) := List.getElem?_zip_eq_some.2 ⟨hk, hurl⟩
    rw [ManagerKey.creations, List.getElem?_map, hzip]
    rfl
  exact ⟨k, (of_mem_creations h (List.mem_of_getElem? hplace)).2.2, hplace⟩

end Creations

/-- Nothing but an empty listing is empty without its repetitions. -/
theorem eraseDups_eq_nil {urls : List String} : urls.eraseDups = [] ↔ urls = [] := by
  simp only [List.eq_nil_iff_forall_not_mem, List.mem_eraseDups]

/-- What a discovery does with the URLs that it has listed, its creations taking turns in a given
order. -/
def recordListed (key : ManagerKey) (limit : Nat) (order : List Nat) (urls : List String) :
    Service Unit := do
  if urls = [] then
    let _ ← setInstances key []
    return
  let keys ← lift (urls.mapM key.instanceAt)
  let results ← takeTurns limit order [] ((key.creations keys urls).map Creation.service)
  match firstFailure? results with
  | some f => fail (f.within (.recordingInstances key))
  | none =>
    let _ ← setInstances key keys

/-- **A discovery whose creations take turns in a given order.** -/
theorem inTurns_discover (key : ManagerKey) (settings : DiscoverySettings) (order : List Nat) :
    (discover key settings).inTurns order = listInstances key settings.pageSize >>= fun listed =>
      recordListed key (max settings.maxConcurrent.toNat 1) order listed.eraseDups := by
  have hset (keys : List InstanceKey) : (setInstances key keys).inTurns order =
      setInstances key keys :=
    inTurns_eq_self ((asks_setInstances key keys).mono fun r hr => by rintro rfl; exact hr) order
  unfold discover
  rw [inTurns_bind, inTurns_listInstances]
  congr 1
  funext listed
  unfold recordListed
  simp only
  split
  · rw [inTurns_bind, hset]
    rfl
  rw [inTurns_bind, inTurns_lift]
  congr 1
  funext keys
  have hcreations : (keys.zip listed.eraseDups).map (fun (k, url) => ensureInstance k url key) =
      (key.creations keys listed.eraseDups).map Creation.service := by
    rw [ManagerKey.creations, List.map_map]
    rfl
  have hgather (services : List (Service Unit)) (hservices : ∀ s ∈ services, s.Asks (· ≠ .turns)) :
      (gather (max settings.maxConcurrent.toNat 1) services).inTurns order =
        takeTurns (max settings.maxConcurrent.toNat 1) order [] services :=
    inTurns_eq_self (.takeTurns hservices) order
  rw [inTurns_bind, hcreations, hgather]
  · congr 1
    funext results
    cases firstFailure? results with
    | some f => rfl
    | none =>
      simp only
      rw [inTurns_bind, hset]
      rfl
  · intro s hs
    obtain ⟨x, -, rfl⟩ := List.mem_map.1 hs
    exact (asks_ensureInstance x.key x.url x.manager).mono fun r hr => by rintro rfl; exact hr

end FleetReconciler
