import FleetReconciler.Proofs.ConsistentRuns
import FleetReconciler.Proofs.RecordedListing

/-!
# A discovery that is run again

The key of an instance depends on the name in its URL only, creations leave records that are there
alone, and a list is compared as a set. So a listing with the same names finds everything as it is
wanted, however it is presented.

* `instanceAt_eq_of_name` — URLs with one name have one key;
* `ensureInstance_of_present` — a creation that finds its record is done;
* `creations_change_nothing` — **creations whose records are there change nothing**;
* `ListRecorded.settled` — nor does the list of the manager change;
* `repeated_discovery_changes_nothing` — **a second discovery of the same names**.
-/

namespace FleetReconciler

open Service

variable {σ τ α : Type}

/-! ## Names -/

/-- URLs with one name have one key. -/
theorem instanceAt_eq_of_name {key : ManagerKey} {url url' : String} {k : InstanceKey}
    (hname : instanceName? url' = instanceName? url) (h : key.instanceAt url = .ok k) :
    key.instanceAt url' = .ok k := by
  obtain ⟨-, hurl⟩ := ManagerKey.of_instanceAt h
  unfold ManagerKey.instanceAt at h ⊢
  rw [hname, hurl]
  rw [hurl] at h
  simp only at h ⊢
  cases hnamed : key.instanceNamed k.name.text with
  | error e =>
    rw [hnamed] at h
    cases h
  | ok k' =>
    rw [hnamed] at h
    exact h

/-! ## Records that are there -/

section Present

variable {c : Cloud σ} {key : ManagerKey} {s t : MemoryStore} {es : List Exchange}

/-- A creation that finds its record is done. -/
theorem ensureInstance_of_present {k : InstanceKey} {url : String} {r : Except Failure Unit}
    (hy : (ensureInstance k url key).Yields es r) (hgenuine : ∀ e ∈ es, e.Genuine c)
    (hpresent : ∀ e ∈ es, ∃ i, e.records.read Instance k = .ok (some i)) : r = .ok () := by
  rcases Yields.of_bind hy with ⟨before, after, found, rfl, hlookup, hrest⟩ | ⟨f, hlookup, rfl⟩
  · obtain ⟨u, rfl, hread⟩ := lookup_of_yields hlookup
      fun e he => hgenuine e (List.mem_append_left _ he)
    obtain ⟨i, hi⟩ := hpresent _ (List.mem_append_left _ List.mem_cons_self)
    obtain rfl : found = some i := Except.ok.inj (hread.trans hi)
    cases hrest
    rfl
  · obtain ⟨u, rfl, hread⟩ := lookup_of_yields hlookup hgenuine
    obtain ⟨i, hi⟩ := hpresent _ List.mem_cons_self
    cases hread.trans hi

/-- A creation whose record was there from the start does nothing. -/
theorem Creation.End.still {x : Creation} {r : Except Failure Unit}
    (h : x.End (es.filter Exchange.isDeed) r) (hamid : Amid s es t)
    (hpresent : s.HasInstance x.key) :
    ∀ e ∈ es, e.IsStill := by
  have hnone : es.filter Exchange.isDeed = [] := by
    cases r with
    | error f => exact h.1
    | ok v =>
      rcases h with hnone | ⟨u, v, hmissing, hdeeds⟩
      · exact hnone
      · -- a commit would have found no record
        have hcommitted : Service.committed x.key u 0 x.record ∈ es :=
          (List.mem_filter.1 (hdeeds ▸ List.mem_cons_self)).1
        have hsome := (hamid.grows_of_mem hcommitted).1.isSome hpresent
        rw [show (Service.committed x.key u 0 x.record).records = u from rfl, hmissing] at hsome
        cases hsome
  exact fun e he => Exchange.isStill_of_not_deed (List.filter_eq_nil_iff.1 hnone e he)

/-- **Creations whose records are there change nothing**, and none of them fails. -/
theorem creations_change_nothing (c : Cloud σ) {s : Session σ} (hm : s.InMemory)
    {urls : List String} {keys : List InstanceKey}
    (hkeys : urls.eraseDups.mapM key.instanceAt = .ok keys)
    (hpresent : ∀ url ∈ urls, ∀ k, key.instanceAt url = .ok k →
      ∃ i, s.records.read Instance k = .ok (some i)) (limit : Nat) (order : List Nat) :
    ∃ results t, s.serve c (takeTurns limit order []
        ((key.creations keys urls.eraseDups).map Creation.service)) = (.ok results, t) ∧
      firstFailure? results = none ∧ t.records = s.records ∧ t.events = s.events ∧ t.InMemory := by
  obtain ⟨es, hy, hgenuine, hunbroken, hevents, hmt⟩ := Session.exists_yields c
    (takeTurns limit order [] ((key.creations keys urls.eraseDups).map Creation.service)) hm
  generalize s.serve c (takeTurns limit order []
    ((key.creations keys urls.eraseDups).map Creation.service)) = served at *
  obtain ⟨result, t⟩ := served
  obtain ⟨course, hfanout, rfl, hresult⟩ := Fanout.of_yields hy
  -- what each creation goes through, with the record that it finds
  have hplace {place : Nat} (h : place < ((key.creations keys urls.eraseDups).map
      Creation.service).length) : ∃ (x : Creation) (i : Instance) (own : List Exchange)
      (r : Except Failure Unit), s.records.read Instance x.key = .ok (some i) ∧
        Carried course place x.service own r ∧ (∀ e ∈ own, e.Genuine c) ∧
        Amid s.records own t.records ∧ x.End (own.filter Exchange.isDeed) r := by
    rw [List.length_map] at h
    have hx := List.getElem?_eq_getElem h
    obtain ⟨own, r, hcarried, hown, hamid, hend⟩ :=
      hfanout.exists_creation s hgenuine hunbroken.amid hx
    obtain ⟨-, hurl, hkey⟩ := of_mem_creations hkeys (List.mem_of_getElem? hx)
    obtain ⟨i, hi⟩ := hpresent _ (List.mem_eraseDups.1 hurl) _ hkey
    exact ⟨_, i, own, r, hi, hcarried, hown, hamid, hend⟩
  have hstill : ∀ e ∈ course.filterMap FlightStep.exchange?, e.IsStill := by
    intro e he
    obtain ⟨step, hstep, hexchange⟩ := List.mem_filterMap.1 he
    cases step with
    | ended place r => cases hexchange
    | served place e' =>
      obtain rfl := Option.some.inj hexchange
      obtain ⟨x, i, own, r, hi, hcarried, -, hamid, hend⟩ := hplace (hfanout.places _ hstep)
      exact hend.still hamid (MemoryStore.isSome_read hi).symm _ (hcarried.mem_iff.1 hstep)
  refine ⟨course.filterMap FlightStep.result?, t, Prod.ext hresult rfl, ?_,
    hunbroken.of_still hstill, ?_, hmt⟩
  · refine List.findSome?_eq_none_iff.2 fun r hr => ?_
    obtain ⟨step, hstep, hend⟩ := List.mem_filterMap.1 hr
    cases step with
    | served place e => cases hend
    | ended place r' =>
      obtain rfl := Option.some.inj hend
      obtain ⟨x, i, own, r, hi, hcarried, hown, -⟩ := hplace (hfanout.places _ hstep)
      obtain rfl := hcarried.ended_mem_iff.1 hstep
      have hpresent : ∀ e ∈ own, ∃ i, e.records.read Instance x.key = .ok (some i) := fun e he =>
        ⟨i, by rw [hunbroken.records_of_still hstill (hcarried.sublist.mem he), hi]⟩
      rw [ensureInstance_of_present hcarried.1 hown hpresent]
  · rw [hevents, List.filterMap_eq_nil_iff.2 fun e he => (hstill e he).2, List.append_nil]

end Present

/-! ## The list -/

/-- What a list that was recorded names. -/
theorem ListRecorded.listed {key : ManagerKey} {named : InstanceKey → Prop} {s t : MemoryStore}
    (h : ListRecorded key named s t) : t.read Manager key = .ok none ∨
      ∃ m, t.read Manager key = .ok (some m) ∧ ∀ k, k ∈ m.instances ↔ named k := by
  cases h with
  | missing before after => exact .inl after
  | @kept m before already same =>
    refine .inr ⟨m, ?_, already⟩
    have hkind : EntityKey.kind ManagerKey = .manager := rfl
    rw [← before, MemoryStore.read, MemoryStore.read, hkind, same]
  | replaced before others listed after => exact .inr ⟨_, after, listed⟩

/-- **A list that was recorded is not written again.** -/
theorem ListRecorded.settled {key : ManagerKey} {named : InstanceKey → Prop} {s t u : MemoryStore}
    (h : ListRecorded key named s t) {keys : List InstanceKey} (hkeys : ∀ k, k ∈ keys ↔ named k)
    {result : Except Failure Change} (hwritten : ListWritten key keys t result u) :
    (∃ change, result = .ok change) ∧ u = t := by
  have hmet {m : Manager} (hlisted : ∀ k, k ∈ m.instances ↔ named k) :
      ∀ k, k ∈ m.instances ↔ k ∈ keys := fun k => (hlisted k).trans (hkeys k).symm
  rcases h.listed with hnone | ⟨m, hread, hlisted⟩
  · cases hwritten with
    | missing found => exact ⟨⟨_, rfl⟩, rfl⟩
    | unchanged found => cases hnone.symm.trans found
    | updated found => cases hnone.symm.trans found
    | unreadable found => cases hnone.symm.trans found
    | misfiled found => cases hnone.symm.trans found
  · cases hwritten with
    | missing found => cases hread.symm.trans found
    | unchanged found => exact ⟨⟨_, rfl⟩, rfl⟩
    | updated found others =>
      cases hread.symm.trans found
      exact (others (hmet hlisted)).elim
    | unreadable found => cases hread.symm.trans found
    | misfiled found others =>
      cases hread.symm.trans found
      exact (others (hmet hlisted)).elim

theorem ListRecorded.serve_setInstances {key : ManagerKey} {named : InstanceKey → Prop}
    {before : MemoryStore} {s : Session σ} (h : ListRecorded key named before s.records)
    (c : Cloud σ) (hm : s.InMemory) {keys : List InstanceKey} (hkeys : ∀ k, k ∈ keys ↔ named k) :
    ∃ t, s.serve c (setInstances key keys >>= fun _ => pure ()) = (.ok (), t) ∧
      t.events = s.events ∧ t.records = s.records := by
  generalize hserve : s.serve c (setInstances key keys >>= fun _ => pure ()) = served
  obtain ⟨result, t⟩ := served
  obtain ⟨change, hset, rfl⟩ := Session.serve_setInstances_bind hserve
  obtain ⟨hwritten, hevents, -⟩ := Session.serve_setInstances hm hset
  obtain ⟨⟨change', rfl⟩, hsame⟩ := h.settled hkeys hwritten
  exact ⟨t, rfl, hevents, hsame⟩

/-! ## The second discovery -/

/-- A discovery that finds the records of its instances and the list of its manager changes nothing.
-/
theorem settled_discovery (c : Cloud σ) {key : ManagerKey} {settings : DiscoverySettings}
    (order : List Nat) {s : Session σ} (hm : s.InMemory) {urls : List String}
    (hlisting : (s.serve c (listInstances key settings.pageSize)).1 = .ok urls)
    (hpresent : ∀ url ∈ urls, ∃ k i, key.instanceAt url = .ok k ∧
      s.records.read Instance k = .ok (some i)) {before : MemoryStore}
    (hlist :
      ListRecorded key (fun k => ∃ url ∈ urls, key.instanceAt url = .ok k) before s.records) :
    ∃ t, s.serve c ((discover key settings).inTurns order) = (.ok (), t) ∧
      t.events = s.events ∧ t.records = s.records := by
  obtain ⟨s₁, hrecords, hevents, hm₁, hlisted⟩ := Session.serve_discover_of_listed order hm hlisting
  rw [hlisted]
  rw [← hrecords] at hlist hpresent
  rw [← hrecords, ← hevents]
  by_cases hne : urls = []
  · subst hne
    exact hlist.serve_setInstances c hm₁ fun k => by simp
  rw [Session.serve_recordListed _ _ _ _ (mt eraseDups_eq_nil.1 hne)]
  cases hkeys : urls.eraseDups.mapM key.instanceAt with
  | error f =>
    obtain ⟨url, hurl, hfailed⟩ := mapM_eq_error hkeys
    obtain ⟨k, -, hk, -⟩ := hpresent url (List.mem_eraseDups.1 hurl)
    cases hfailed.symm.trans hk
  | ok keys =>
    have hfound : ∀ url ∈ urls, ∀ k, key.instanceAt url = .ok k →
        ∃ i, s₁.records.read Instance k = .ok (some i) := by
      intro url hurl k hk
      obtain ⟨k', i, hk', hi⟩ := hpresent url hurl
      obtain rfl : k' = k := Except.ok.inj (hk'.symm.trans hk)
      exact ⟨i, hi⟩
    obtain ⟨results, s₂, hcreate, hfirst, hsame, hquiet, hm₂⟩ :=
      creations_change_nothing c hm₁ hkeys hfound (max settings.maxConcurrent.toNat 1) order
    simp only [hcreate, hfirst]
    rw [← hsame] at hlist
    rw [← hsame, ← hquiet]
    exact hlist.serve_setInstances c hm₂ (mem_keys_iff hkeys)

/-- **A discovery that is run again with the same names changes nothing**: a first discovery has
ended well with the URLs that were listed for it, or with an empty listing, and a second one on the
records that it has left lists URLs with the same names, in whatever order, on whatever pages,
however often and however they are spelled. The second ends well too, reports no event, and leaves
every record as it is. -/
theorem repeated_discovery_changes_nothing (c : Cloud σ) (c' : Cloud τ) (key : ManagerKey)
    (settings settings' : DiscoverySettings) (order order' : List Nat) {s : Session σ}
    {s' : Session τ} (hm : s.InMemory) (hm' : s'.InMemory) {urls urls' : List String}
    (hlisting : (s.serve c (listInstances key settings.pageSize)).1 = .ok urls)
    (hok : (s.serve c ((discover key settings).inTurns order)).1 = .ok ())
    (hrecords : s'.records = (s.serve c ((discover key settings).inTurns order)).2.records)
    (hlisting' : (s'.serve c' (listInstances key settings'.pageSize)).1 = .ok urls')
    (hnames : ∀ name, name ∈ urls'.map instanceName? ↔ name ∈ urls.map instanceName?) :
    (s'.serve c' ((discover key settings').inTurns order')).1 = .ok () ∧
      (s'.serve c' ((discover key settings').inTurns order')).2.events = s'.events ∧
      (s'.serve c' ((discover key settings').inTurns order')).2.records = s'.records := by
  generalize hserve : s.serve c ((discover key settings).inTurns order) = first at hok hrecords
  obtain ⟨result, t⟩ := first
  simp only at hok hrecords
  subst hok
  obtain ⟨hpresent, hlist⟩ := listed_of_ok hm hlisting hserve
  rw [← hrecords] at hpresent hlist
  -- a URL of one listing has the name of a URL of the other, so both name the same keys
  have hsame {us vs : List String}
      (hnames : ∀ name, name ∈ us.map instanceName? → name ∈ vs.map instanceName?) {u : String}
      (hu : u ∈ us) : ∃ v ∈ vs, instanceName? v = instanceName? u :=
    List.mem_map.1 (hnames _ (List.mem_map_of_mem hu))
  have hpresent' : ∀ url ∈ urls', ∃ k i, key.instanceAt url = .ok k ∧
      s'.records.read Instance k = .ok (some i) := by
    intro url hurl
    obtain ⟨v, hv, hname⟩ := hsame (fun name => (hnames name).1) hurl
    obtain ⟨k, i, hk, hi⟩ := hpresent v hv
    exact ⟨k, i, instanceAt_eq_of_name hname.symm hk, hi⟩
  have hnamed : (fun k => ∃ url ∈ urls, key.instanceAt url = .ok k) =
      fun k => ∃ url ∈ urls', key.instanceAt url = .ok k := by
    funext k
    refine propext ⟨?_, ?_⟩
    · rintro ⟨url, hurl, hk⟩
      obtain ⟨v, hv, hname⟩ := hsame (fun name => (hnames name).2) hurl
      exact ⟨v, hv, instanceAt_eq_of_name hname hk⟩
    · rintro ⟨url, hurl, hk⟩
      obtain ⟨v, hv, hname⟩ := hsame (fun name => (hnames name).1) hurl
      exact ⟨v, hv, instanceAt_eq_of_name hname hk⟩
  rw [hnamed] at hlist
  obtain ⟨u, hserved, hevents, hleft⟩ := settled_discovery c' order' hm' hlisting' hpresent' hlist
  rw [hserved]
  exact ⟨rfl, hevents, hleft⟩

namespace Session

theorem InMemory.serve {s : Session σ} (h : s.InMemory) (c : Cloud σ) (service : Service α) :
    (s.serve c service).2.InMemory := run_keeps (fun r _ hs => hs.perform c r) service h

/-- The session with other answers of the cloud. -/
def answering (answers : List (Except ComputeError InstancePage)) (s : Session CloudScript) :
    Session CloudScript := { s with cloud := { list := answers } }

theorem records_answering (s : Session CloudScript)
    (answers : List (Except ComputeError InstancePage)) :
    (s.answering answers).records = s.records :=
  rfl

theorem InMemory.answering {s : Session CloudScript} (h : s.InMemory)
    (answers : List (Except ComputeError InstancePage)) : (s.answering answers).InMemory := h

end Session

namespace Sample

/-- Two machines have been found, and are listed again the other way round, on two pages, one of
them twice and under another host. -/
def relisted : Session CloudScript :=
  ((reporting ["https://x/vm", "https://x/other"]).serve CloudScript.cloud
    ((discover managerKey {}).inTurns [])).2.answering
    [.ok { items := [{ url := "https://y/other/" }], nextPageToken := some "2" },
      .ok { items := [{ url := "https://y/vm" }, { url := "https://y/vm/" }] }]

end Sample

/-- Two machines that are listed in another way are not created again. -/
theorem rediscovery_of_two_machines :
    ((Sample.relisted.serve CloudScript.cloud
        ((discover Sample.managerKey {}).inTurns [1])).1 = .ok () ∧
      (Sample.relisted.serve CloudScript.cloud
        ((discover Sample.managerKey {}).inTurns [1])).2.events = Sample.relisted.events ∧
      (Sample.relisted.serve CloudScript.cloud
        ((discover Sample.managerKey {}).inTurns [1])).2.records = Sample.relisted.records) ∧
      Sample.relisted.events = [(.created, "vm"), (.created, "other")] := by
  have hnames : ∀ name, name ∈ ["https://y/other/", "https://y/vm", "https://y/vm/"].map
      instanceName? ↔ name ∈ ["https://x/vm", "https://x/other"].map instanceName? := by
    have hfirst : ["https://x/vm", "https://x/other"].map instanceName? =
        [some "vm", some "other"] := by decide +kernel
    have hsecond : ["https://y/other/", "https://y/vm", "https://y/vm/"].map instanceName? =
        [some "other", some "vm", some "vm"] := by decide +kernel
    intro name
    rw [hfirst, hsecond]
    simp [or_comm]
  have hm : (Sample.reporting ["https://x/vm", "https://x/other"]).InMemory := ⟨_, rfl⟩
  have hm' : Sample.relisted.InMemory := (hm.serve CloudScript.cloud _).answering _
  have hlisting : ((Sample.reporting ["https://x/vm", "https://x/other"]).serve CloudScript.cloud
      (listInstances Sample.managerKey (DiscoverySettings.pageSize {}))).1 =
        .ok ["https://x/vm", "https://x/other"] := by decide +kernel
  have hok : ((Sample.reporting ["https://x/vm", "https://x/other"]).serve CloudScript.cloud
      ((discover Sample.managerKey {}).inTurns [])).1 = .ok () := by decide +kernel
  have hlisting' : (Sample.relisted.serve CloudScript.cloud
      (listInstances Sample.managerKey (DiscoverySettings.pageSize {}))).1 =
        .ok ["https://y/other/", "https://y/vm", "https://y/vm/"] := by decide +kernel
  have hrecords := Session.records_answering
    ((Sample.reporting ["https://x/vm", "https://x/other"]).serve CloudScript.cloud
      ((discover Sample.managerKey {}).inTurns [])).2
    [.ok { items := [{ url := "https://y/other/" }], nextPageToken := some "2" },
      .ok { items := [{ url := "https://y/vm" }, { url := "https://y/vm/" }] }]
  have hevents : Sample.relisted.events = [(.created, "vm"), (.created, "other")] := by
    decide +kernel
  exact And.intro (repeated_discovery_changes_nothing CloudScript.cloud CloudScript.cloud
    Sample.managerKey {} {} [] [1] hm hm' hlisting hok hrecords hlisting' hnames) hevents

end FleetReconciler
