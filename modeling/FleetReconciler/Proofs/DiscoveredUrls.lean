import FleetReconciler.Proofs.JobUpkeep
import FleetReconciler.Proofs.Consistency

/-!
# Where the records of discovery come from

Discoveries run side by side on a store without instances. Every record that they make is that of a URL
which the cloud has reported for the group of the manager in its key. The cloud knows a group by its
project, its zone and a name in which the base name and the revision are joined by a dash, and the key
has the two apart, so several managers may stand for one group.

* `Group`, `Cloud.Reports`, `MemoryStore.Locates` — groups, what is reported for them, and the group of
  a manager;
* `Explored` — a store in which discoveries have been at work; `Warranted` — the writes that keep it so;
* `Service.Finds` — a service that makes no other writes, as long as it is answered from such stores;
* `discover_finds` — **a discovery makes warranted writes only**;
* `records_of_one_url` — **records with one URL are of one group and have one name**, and where no two
  managers stand for one group they are one record;
* `one_url_under_two_keys` — two managers of one group, and two records of one machine.
-/

namespace FleetReconciler

open Service

variable {σ : Type}

/-! ## Groups -/

/-- A group as the cloud is asked for it. -/
structure Group where
  project : String
  name : String
  zone : String
  deriving DecidableEq, Repr

/-- The group of which a call lists a page. -/
def ListCall.target (call : ListCall) : Group := ⟨call.project, call.group, call.zone⟩

/-- Some answer of the cloud names a URL as that of a member of a group. -/
def Cloud.Reports (c : Cloud σ) (g : Group) (url : String) : Prop :=
  ∃ call state page, (c.list call state).1 = .ok page ∧ call.target = g ∧
    url ∈ page.items.map InstanceReference.url

/-- No URL is reported for two groups. -/
def Cloud.ReportsApart (c : Cloud σ) : Prop :=
  ∀ url g g', c.Reports g url → c.Reports g' url → g = g'

namespace MemoryStore

/-- The group of a manager by the records of a store: the manager has a URL, and its revision the
project. -/
def Locates (s : MemoryStore) (key : ManagerKey) (g : Group) : Prop :=
  ∃ m r project, s.read Manager key = .ok (some m) ∧ m.url?.isSome ∧
    s.read Revision key.parent = .ok (some r) ∧ r.project? = some project ∧
    g = ⟨project, key.groupName, key.zone.text⟩

/-- No two managers stand for one group. -/
def GroupsApart (s : MemoryStore) : Prop :=
  ∀ k k' g, s.Locates k g → s.Locates k' g → k = k'

end MemoryStore

/-- The record of an instance is that of a URL that the cloud reports for the group of its manager. -/
def Instance.FoundBy (store : MemoryStore) (c : Cloud σ) (i : Instance) : Prop :=
  ∃ url g, i = .discovered i.key url i.key.parent ∧ instanceName? url = some i.key.name.text ∧
    store.Locates i.key.parent g ∧ c.Reports g url

/-! ## Stores on which discoveries work -/

/-- What discoveries make of a store: revisions and the URLs of managers are as they were, and every
instance was found. -/
structure Explored (store : MemoryStore) (c : Cloud σ) (s : MemoryStore) : Prop where
  revisions : ∀ key, s.read Revision key = store.read Revision key
  managers : ∀ key m, s.read Manager key = .ok (some m) →
    ∃ m₀, store.read Manager key = .ok (some m₀) ∧ m₀.url = m.url
  instances : s.Each Instance (Instance.FoundBy store c)

/-- A write that discoveries may make: an instance that was found, or another list of a manager. -/
inductive Warranted (store : MemoryStore) (c : Cloud σ) : Write → Prop
  | create {i : Instance} (found : i.FoundBy store c) :
      Warranted store c ⟨.machine, EntityKey.text i.key, Entity.stored i⟩
  | list {key : ManagerKey} {m₀ m : Manager} (there : store.read Manager key = .ok (some m₀))
      (url : m₀.url = m.url) : Warranted store c ⟨.manager, EntityKey.text key, Entity.stored m⟩

theorem explored_start (c : Cloud σ) {store : MemoryStore} (h : store.rows .machine = []) :
    Explored store c store where
  revisions _ := rfl
  managers _ m hread := ⟨m, hread, rfl⟩
  instances := by
    intro row hrow
    have hrow : row ∈ store.rows .machine := hrow
    rw [h] at hrow
    cases hrow

/-- **A warranted write leaves an explored store explored.** -/
theorem Explored.apply {store s : MemoryStore} {c : Cloud σ} (h : Explored store c s) {w : Write}
    (hw : Warranted store c w) : Explored store c (s.apply w) := by
  have hother {ρ κ : Type} [Entity ρ κ] (key : κ) (hkind : EntityKey.kind κ ≠ w.kind) :
      (s.apply w).read ρ key = s.read ρ key :=
    MemoryStore.read_put_of_ne s (fun hsame => hkind hsame.1) w.value
  cases hw with
  | create found => exact {
      revisions := fun key => (hother (ρ := Revision) key (by rintro ⟨⟩)).trans (h.revisions key)
      managers := fun key m hread =>
        h.managers key m ((hother (ρ := Manager) key (by rintro ⟨⟩)).symm.trans hread)
      instances := h.instances.put_self found }
  | @list written m₀ m there url => exact {
      revisions := fun key => (hother (ρ := Revision) key (by rintro ⟨⟩)).trans (h.revisions key)
      managers := fun key m' hread => by
        by_cases hkey : key = written
        · subst hkey
          obtain rfl : m = m' :=
            Option.some.inj (Except.ok.inj ((MemoryStore.read_put_self s key m).symm.trans hread))
          exact ⟨m₀, there, url⟩
        · refine h.managers key m' (Eq.trans ?_ hread)
          exact (MemoryStore.read_put_of_ne s
            (fun hsame => hkey (EntityKey.text_injective hsame.2)) _).symm
      instances := h.instances.put_other (by rintro ⟨⟩) _ _ }

/-- A store of which discoveries are answered locates a manager as the first store does. -/
theorem Explored.locates {store s : MemoryStore} {c : Cloud σ} (h : Explored store c s)
    {key : ManagerKey} {m : Manager} {r : Revision} {t : MemoryStore} (ht : Explored store c t)
    {project : String} (hmanager : s.read Manager key = .ok (some m)) (hurl : m.url?.isSome)
    (hrevision : t.read Revision key.parent = .ok (some r)) (hproject : r.project? = some project) :
    store.Locates key ⟨project, key.groupName, key.zone.text⟩ := by
  obtain ⟨m₀, hm₀, hurl₀⟩ := h.managers key m hmanager
  refine ⟨m₀, r, project, hm₀, ?_, (ht.revisions _).symm.trans hrevision, hproject, rfl⟩
  rwa [Manager.url?, hurl₀]

/-! ## Dialogues -/

/-- Answers that discoveries may get: records are read from explored stores, and listings are those of
the cloud. -/
def Request.Honest (store : MemoryStore) (c : Cloud σ) : (r : Request) → r.Reply → Prop
  | .read _ kind id, reply => ∃ s, Explored store c s ∧ reply = .ok (s.find? kind id)
  | .listInstances call, reply => ∃ state, reply = (c.list call state).1
  | _, _ => True

/-- If the request commits, the write is warranted. -/
def Request.Founded (store : MemoryStore) (c : Cloud σ) (r : Request) : Prop :=
  ∀ kind id version value, r = .commit kind id version value → Warranted store c ⟨kind, id, value⟩

/-- Answers to all requests, and the request that was made last. -/
structure Dialogue (store : MemoryStore) (c : Cloud σ) where
  answer : (r : Request) → r.Reply
  honest : ∀ r : Request, r.Honest store c (answer r)
  last : Option Request := none

/-- The terms on which a service gets honest answers and makes warranted writes. -/
def Dialogue.terms (store : MemoryStore) (c : Cloud σ) : Terms (Dialogue store c) where
  perform r s := (s.answer r, { s with last := some r })
  rely _ _ := True
  guarantee _ t := ∀ r, t.last = some r → r.Founded store c
  refl _ := trivial
  trans _ _ := trivial

/-- The answers of a session on an explored store. -/
def Dialogue.ofSession {store : MemoryStore} {c : Cloud σ} {session : Session σ}
    (h : Explored store c session.records) : Dialogue store c where
  answer r := (session.perform c r).1
  honest r := by
    cases r with
    | read purpose kind id => exact ⟨session.records, h, rfl⟩
    | listInstances call => exact ⟨session.cloud, rfl⟩
    | _ => trivial

namespace Service

variable {α β : Type} {store : MemoryStore} {c : Cloud σ}

/-- As long as it is answered honestly, the service makes warranted writes only, and its result is as
told. -/
def Finds (store : MemoryStore) (c : Cloud σ) (post : Except Failure α → Prop)
    (service : Service α) : Prop :=
  ∀ s, service.Meets (Dialogue.terms store c) (fun r _ => post r) s

namespace Finds

variable {post : Except Failure α → Prop} {post' : Except Failure β → Prop}

theorem done {a : α} (h : post (.ok a)) : (Service.done a).Finds store c post := fun _ _ _ => h

theorem fail {f : Failure} (h : post (.error f)) :
    (Service.fail f : Service α).Finds store c post := fun _ _ _ => h

theorem ask {r : Request} {next : r.Reply → Service α} (hr : r.Founded store c)
    (h : ∀ reply, r.Honest store c reply → (next reply).Finds store c post) :
    (Service.ask r next).Finds store c post := by
  refine fun _ t _ => ⟨?_, h _ (t.honest r) _⟩
  rintro r' ⟨⟩
  exact hr

theorem bind {service : Service α} {k : α → Service β} (h : service.Finds store c post)
    (hok : ∀ a, post (.ok a) → (k a).Finds store c post')
    (herror : ∀ f, post (.error f) → post' (.error f)) : (service >>= k).Finds store c post' :=
  fun s => (h s).bind (fun a t ha => hok a ha t) fun f _ hf => herror f hf

theorem within {service : Service α} (h : service.Finds store c post) (context : Context)
    (herror : ∀ f, post (.error f) → post (.error (f.within context))) :
    (service.within context).Finds store c post :=
  fun s => (h s).within (fun _ _ ha => ha) fun f _ hf => herror f hf

/-- A request was founded, and what comes after an honest answer goes on so. -/
theorem next {r : Request} {k : r.Reply → Service α} (h : (Service.ask r k).Finds store c post)
    (t : Dialogue store c) : r.Founded store c ∧ (k (t.answer r)).Finds store c post := by
  obtain ⟨hfounded, hnext⟩ := h t t trivial
  exact ⟨hfounded r rfl, fun _ => Meets.later hnext trivial⟩

end Finds

/-- A request that does not commit is founded. -/
theorem founded_of_ne {r : Request} (h : ∀ kind id version value, r ≠ .commit kind id version value) :
    r.Founded store c :=
  fun kind id version value hr => (h kind id version value hr).elim

/-- A service without a commit. -/
theorem WritesNothing.finds {service : Service α} (h : service.WritesNothing) :
    service.Finds store c fun _ => True := by
  induction service with
  | done a => exact .done trivial
  | fail f => exact .fail trivial
  | ask r next ih => exact .ask (founded_of_ne h.1) fun reply _ => ih reply (h.2 reply)

namespace Finds

/-- A look-up sees the record of one moment. -/
theorem lookup {ρ κ : Type} [Entity ρ κ] {key : κ} {k : Option ρ → Service α}
    {post : Except Failure α → Prop}
    (h : ∀ s, Explored store c s → (lift (s.read ρ key) >>= k).Finds store c post) :
    (Service.lookup ρ key >>= k).Finds store c post := by
  rw [lookup_eq, bind_assoc, request_bind]
  refine .ask (founded_of_ne nofun) fun reply hreply => ?_
  obtain ⟨s, hs, rfl⟩ := hreply
  exact h s hs

/-- A transaction whose decisions are warranted. -/
theorem transact {ρ κ : Type} [Entity ρ κ] [DecidableEq ρ] {key : κ}
    {mutate : Option ρ → Option ρ × β}
    (hwrite : ∀ s, Explored store c s → ∀ version record value,
      attempt key mutate (s.find? (EntityKey.kind κ) (EntityKey.text key)) =
        .write version record value →
      Warranted store c ⟨EntityKey.kind κ, EntityKey.text key, Entity.stored record⟩) :
    (Service.transact key mutate).Finds store c fun _ => True := by
  have hloop (left overtaken : Nat) :
      (transactFrom key mutate overtaken left).Finds store c fun _ => True := by
    induction left generalizing overtaken with
    | zero => exact .fail trivial
    | succ left ih =>
      rw [transactFrom_succ, request_bind]
      refine .ask (founded_of_ne nofun) fun reply hreply => ?_
      obtain ⟨s, hs, rfl⟩ := hreply
      rw [lift_ok_bind]
      split
      · exact (WritesNothing.lift _).finds
      · rename_i version record value hdecision
        rw [request_bind]
        refine .ask ?_ fun written _ => ?_
        · rintro kind id version value ⟨⟩
          exact hwrite s hs _ _ _ hdecision
        · cases written with
          | true =>
            exact .ask (founded_of_ne nofun) fun saved _ =>
              ((WritesNothing.lift saved).bind fun _ => WritesNothing.pure _).finds
          | false => exact ih _
  exact hloop maxTransactionAttempts 0

/-- The order of turns inside a service is one of the things that may be answered. -/
theorem inTurns {service : Service α} {post : Except Failure α → Prop}
    (h : service.Finds store c post) (order : List Nat) :
    (service.inTurns order).Finds store c post := by
  induction service with
  | done a => exact h
  | fail f => exact h
  | ask r next ih =>
    cases r with
    | turns =>
      intro s
      let t : Dialogue store c := ⟨inOrder order s.answer, fun r => by
        cases r with
        | turns => trivial
        | _ => exact s.honest _, none⟩
      exact ih order (h.next t).2 s
    | _ =>
      intro s t hst
      refine ⟨?_, ih _ (h.next t).2 _⟩
      rintro r' ⟨⟩
      exact (h.next t).1

end Finds

end Service

/-! ## Discovery -/

section Discovery

variable {store : MemoryStore} {c : Cloud σ}

/-- The URLs of the pages of a listing are reported for its group. -/
theorem listPages_finds (call : ListCall) (budget : Nat) :
    (listPages call budget).Finds store c fun r =>
      ∀ urls, r = .ok urls → ∀ url ∈ urls, c.Reports call.target url := by
  induction budget generalizing call with
  | zero => exact .fail fun _ h => by cases h
  | succ budget ih =>
    simp only [listPages, request, bind_ask, bind_done]
    refine .ask (founded_of_ne fun _ _ _ _ h => by cases h) fun reply hreply => ?_
    obtain ⟨state, hanswer⟩ := hreply
    cases reply with
    | error e => exact .fail fun _ h => by cases h
    | ok page =>
      have hpage : ∀ url ∈ page.items.map InstanceReference.url, c.Reports call.target url :=
        fun url hurl => ⟨call, state, page, hanswer.symm, rfl, hurl⟩
      simp only
      split
      · refine .done ?_
        rintro urls ⟨⟩
        exact hpage
      · refine (ih _).bind (fun rest hrest => .done ?_) fun _ _ _ h => by cases h
        rintro urls ⟨⟩ url hurl
        rcases List.mem_append.1 hurl with hurl | hurl
        · exact hpage url hurl
        · exact hrest rest rfl url hurl

/-- The URLs of a listing are reported for the group of the manager. -/
theorem listInstances_finds (key : ManagerKey) (pageSize : UInt32) :
    (listInstances key pageSize).Finds store c fun r =>
      ∀ urls, r = .ok urls → ∀ url ∈ urls, ∃ g, store.Locates key g ∧ c.Reports g url := by
  have hempty (n : Notice) : (do note n; return [] : Service (List String)).Finds store c fun r =>
      ∀ urls, r = .ok urls → ∀ url ∈ urls, ∃ g, store.Locates key g ∧ c.Reports g url := by
    refine (WritesNothing.note n).finds.bind (fun _ _ => .done ?_) fun _ _ => nofun
    rintro urls ⟨⟩
    exact nofun
  unfold listInstances
  refine .lookup fun s hs => ?_
  cases hmanager : s.read Manager key with
  | error f => exact .fail nofun
  | ok found =>
    rw [lift_ok_bind]
    cases found with
    | none => exact hempty _
    | some m =>
      simp only
      split
      · exact hempty _
      rename_i hurl
      refine .lookup fun t ht => ?_
      cases hrevision : t.read Revision key.parent with
      | error f => exact .fail nofun
      | ok found =>
        rw [lift_ok_bind]
        cases found with
        | none => exact hempty _
        | some r =>
          simp only
          split
          · rename_i project hproject
            have hurl : m.url?.isSome := by
              rwa [Bool.not_eq_true, Option.isNone_eq_false_iff] at hurl
            have hlocates := hs.locates ht hmanager hurl hrevision hproject
            refine .within ?_ _ fun _ _ => nofun
            rw [request_bind]
            refine .ask (founded_of_ne nofun) fun budget _ d => ?_
            refine (listPages_finds _ budget d).mono fun result _ hresult urls hurls url hurl => ?_
            exact ⟨_, hlocates, hresult urls hurls url hurl⟩
          · exact hempty _

/-- A record is made for an instance that was found. -/
theorem ensureInstance_finds {key : InstanceKey} {url : String} {g : Group}
    (hname : instanceName? url = some key.name.text) (hlocates : store.Locates key.parent g)
    (hreports : c.Reports g url) :
    (ensureInstance key url key.parent).Finds store c fun _ => True := by
  unfold ensureInstance
  refine (WritesNothing.lookup key).finds.bind (fun found _ => ?_) fun _ _ => trivial
  split
  · exact .done trivial
  refine (Finds.transact fun s _ version record value hdecision => ?_).within _ (fun _ _ => trivial)
    |>.bind (fun created _ => ?_) fun _ _ => trivial
  · obtain ⟨-, rfl⟩ := attempt_createIfMissing.1 version record value hdecision
    exact .create (i := .discovered key url key.parent) ⟨url, g, rfl, hname, hlocates, hreports⟩
  · split
    · exact ((WritesNothing.note _).bind fun _ => WritesNothing.send ..).finds
    · exact .done trivial

/-- Another list leaves the URL of a manager alone. -/
theorem setInstances_finds (key : ManagerKey) (instances : List InstanceKey) :
    (setInstances key instances).Finds store c fun _ => True := by
  have hchange : (Service.change (.updatingInstances key) key (Manager.list? instances)).Finds store c
      fun _ => True := by
    refine (Finds.transact fun s hs version record value hdecision => ?_).within _ (fun _ _ => trivial)
      |>.bind (fun _ _ => .done trivial) fun _ _ => trivial
    obtain ⟨m, hread, hlist, -⟩ := attempt_change_eq_write hdecision
    obtain ⟨m₀, hm₀, hurl⟩ := hs.managers key m hread
    simp only [Manager.list?] at hlist
    split at hlist
    · cases hlist
    · obtain rfl := Option.some.inj hlist
      exact .list hm₀ hurl
  refine hchange.bind (fun r _ => WritesNothing.finds ?_) fun _ _ => trivial
  obtain ⟨change, found⟩ := r
  cases change with
  | missing => exact (WritesNothing.note _).bind fun _ => .pure _
  | updated => exact (WritesNothing.note _).bind fun _ => .pure _
  | unchanged => exact .pure _

/-- **A discovery makes warranted writes only.** -/
theorem discover_finds (key : ManagerKey) (settings : DiscoverySettings) :
    (discover key settings).Finds store c fun _ => True := by
  unfold discover
  refine (listInstances_finds key _).bind (fun found hfound => ?_) fun _ _ => trivial
  simp only
  split
  · exact (setInstances_finds key []).bind (fun _ _ => .done trivial) fun _ _ => trivial
  cases hkeys : found.eraseDups.mapM key.instanceAt with
  | error f => exact .fail trivial
  | ok keys =>
    rw [lift_ok_bind]
    have hall := mapM_eq_ok hkeys
    intro s
    let aim (p : InstanceKey × String) : Aim (Dialogue.terms store c) Unit :=
      ⟨ensureInstance p.1 p.2 key, fun _ _ => True, fun _ _ => trivial⟩
    have hgather := gather_meets (fun _ => trivial) (max settings.maxConcurrent.toNat 1) (s := s)
      (fun _ _ r hr => by cases hr; exact founded_of_ne nofun)
      fun a (ha : a ∈ (keys.zip found.eraseDups).map aim) => by
        obtain ⟨⟨k, url⟩, hp, rfl⟩ := List.mem_map.1 ha
        obtain ⟨hparent, hname⟩ := ManagerKey.of_instanceAt ((List.forall₂_iff_zip.1 hall).2 hp)
        have hurl : url ∈ found := List.mem_eraseDups.1 (List.of_mem_zip hp).2
        obtain ⟨g, hlocates, hreports⟩ := hfound found rfl url hurl
        subst hparent
        exact ensureInstance_finds hname hlocates hreports s
    rw [List.map_map] at hgather
    refine hgather.bind (fun results t _ => ?_) fun _ _ _ => trivial
    cases firstFailure? results with
    | some f => exact fun _ _ => trivial
    | none => exact (setInstances_finds key keys).bind (fun _ _ => .done trivial) (fun _ _ => trivial) t

end Discovery

/-! ## Runs -/

/-- A discovery with its arguments and the order of turns inside it. -/
structure Discovery where
  key : ManagerKey
  settings : DiscoverySettings := {}
  order : List Nat := []

/-- The service of a discovery. -/
def Discovery.service (d : Discovery) : Service Unit := (discover d.key d.settings).inTurns d.order

/-- A founded request leaves an explored store explored. -/
theorem Explored.perform {store : MemoryStore} {c : Cloud σ} {session : Session σ}
    (h : Explored store c session.records) {r : Request} (hr : r.Founded store c) :
    Explored store c (session.perform c r).2.records := by
  cases r with
  | commit kind id version value =>
    simp only [Session.perform, MemoryStore.commit_eq, Session.records_withRecords]
    split
    · exact h.apply (hr kind id version value rfl)
    · exact h
  | save =>
    rw [Session.perform, Session.records_save]
    exact h
  | enqueue t =>
    rw [Session.perform, Session.records_enqueue]
    exact h
  | _ => exact h

namespace Crowd

/-- Discoveries at work on an explored store. -/
structure Exploring (store : MemoryStore) (c : Cloud σ) (s : Crowd σ Unit) : Prop where
  explored : Explored store c s.world.records
  finds : ∀ service ∈ s.services, service.Finds store c fun _ => True

theorem exploring_start (c : Cloud σ) (session : Session σ) {store : MemoryStore}
    (h : store.rows .machine = []) (discoveries : List Discovery) :
    (start session store (discoveries.map Discovery.service)).Exploring store c where
  explored := explored_start c h
  finds service hservice := by
    obtain ⟨d, -, rfl⟩ := List.mem_map.1 hservice
    exact (discover_finds d.key d.settings).inTurns d.order

theorem Exploring.turn {store : MemoryStore} {c : Cloud σ} {s : Crowd σ Unit}
    (h : s.Exploring store c) (a : Advance) : (s.turn c a.turn).Exploring store c := by
  cases a with
  | clock t => exact ⟨h.explored, h.finds⟩
  | serve place =>
    simp only [Advance.turn, Crowd.turn]
    split
    · rename_i r next hplace
      have hdialogue : Explored store c s.world.session.records := h.explored
      obtain ⟨hfounded, hnext⟩ :=
        (h.finds _ (List.mem_of_getElem? hplace)).next (.ofSession hdialogue)
      refine ⟨hdialogue.perform hfounded, fun service hservice => ?_⟩
      rcases List.mem_or_eq_of_mem_set hservice with hother | rfl
      · exact h.finds service hother
      · exact hnext
    · exact h

theorem Exploring.work {store : MemoryStore} {c : Cloud σ} {s : Crowd σ Unit}
    (h : s.Exploring store c) (advances : List Advance) :
    (s.work c advances).Exploring store c := by
  induction advances generalizing s with
  | nil => exact h
  | cons a advances ih => exact ih (h.turn a)

end Crowd

/-! ## Records with one URL -/

theorem Component.eq_of_text {a b : Component} (h : a.text = b.text) : a = b := by
  cases a
  cases b
  cases h
  rfl

/-- Two instances found with one URL are of one group and have one name. -/
theorem Instance.FoundBy.same_group {store : MemoryStore} {c : Cloud σ} (hc : c.ReportsApart)
    {i j : Instance} (hi : i.FoundBy store c) (hj : j.FoundBy store c) (h : i.url = j.url) :
    i.key.name = j.key.name ∧
      ∃ g, store.Locates i.key.parent g ∧ store.Locates j.key.parent g := by
  obtain ⟨url, g, heq, hname, hlocates, hreports⟩ := hi
  obtain ⟨url', g', heq', hname', hlocates', hreports'⟩ := hj
  obtain rfl : url = url' := by
    rw [heq, heq'] at h
    exact Option.some.inj h
  obtain rfl : g = g' := hc url g g' hreports hreports'
  exact ⟨Component.eq_of_text (Option.some.inj (hname.symm.trans hname')), g, hlocates, hlocates'⟩

/-- Where the base names have no dash, the name of a group tells the base name from the revision. -/
theorem ManagerKey.parent_eq_of_groupName {k k' : ManagerKey} (hdash : '-' ∉ k.baseName.text.toList)
    (hdash' : '-' ∉ k'.baseName.text.toList) (h : k.groupName = k'.groupName) :
    k.parent = k'.parent := by
  have hlists : k.baseName.text.toList ++ '-' :: k.revision.text.toList =
      k'.baseName.text.toList ++ '-' :: k'.revision.text.toList := by
    simpa [groupName] using congrArg String.toList h
  -- the base name is what stands before the first dash
  have htaken (base rest : List Char) (hbase : '-' ∉ base) :
      (base ++ '-' :: rest).takeWhile (· ≠ '-') = base := by
    rw [List.takeWhile_append_of_pos fun c hc => by
      simpa using fun heq : c = '-' => hbase (heq ▸ hc)]
    simp
  have hbase : k.baseName.text.toList = k'.baseName.text.toList := by
    rw [← htaken _ k.revision.text.toList hdash, hlists, htaken _ _ hdash']
  rw [hbase] at hlists
  have hrevision := (List.cons.inj (List.append_cancel_left hlists)).2
  have hparent : k.parent.parent = k'.parent.parent :=
    congrArg TemplateKey.mk (Component.eq_of_text (String.toList_injective hbase))
  exact congrArg₂ RevisionKey.mk hparent (Component.eq_of_text (String.toList_injective hrevision))

/-- Where no base name has a dash, no two managers stand for one group. -/
theorem MemoryStore.groupsApart_of_dashless {s : MemoryStore}
    (h : ∀ k g, s.Locates k g → '-' ∉ k.baseName.text.toList) : s.GroupsApart := by
  intro k k' g hk hk'
  have hdash := h k g hk
  have hdash' := h k' g hk'
  obtain ⟨-, -, project, -, -, -, -, rfl⟩ := hk
  obtain ⟨-, -, project', -, -, -, -, hsame⟩ := hk'
  obtain ⟨-, hname, hzone⟩ := Group.mk.inj hsame
  exact congrArg₂ ManagerKey.mk (ManagerKey.parent_eq_of_groupName hdash hdash' hname)
    (Component.eq_of_text hzone)

/-- **Records with one URL are of one group.** Discoveries of any managers work side by side on a
store without instances, the cloud reports no URL for two groups, and at any moment two records have
the same URL. Then both were found under it: they have one name, and their managers stand for one
group. Where no two managers do that, the records are one. -/
theorem records_of_one_url (c : Cloud σ) (hc : c.ReportsApart) (session : Session σ)
    {store : MemoryStore} (hempty : store.rows .machine = []) (discoveries : List Discovery)
    (advances : List Advance) :
    let s := (Crowd.start session store (discoveries.map Discovery.service)).work c advances
    s.world.records.Each Instance (Instance.FoundBy store c) ∧
    ∀ i j : Instance, s.world.records.read Instance i.key = .ok (some i) →
      s.world.records.read Instance j.key = .ok (some j) → i.url = j.url →
      (i.key.name = j.key.name ∧
        ∃ g, store.Locates i.key.parent g ∧ store.Locates j.key.parent g) ∧
      (store.GroupsApart → i.key = j.key) := by
  intro s
  have hexplored : Explored store c s.world.records :=
    ((Crowd.exploring_start c session hempty discoveries).work advances).explored
  refine ⟨hexplored.instances, fun i j hi hj hurl => ?_⟩
  obtain ⟨hname, g, hg, hg'⟩ := (hexplored.instances.of_read hi).same_group hc
    (hexplored.instances.of_read hj) hurl
  refine ⟨⟨hname, g, hg, hg'⟩, fun hapart => ?_⟩
  have hparent : i.key.parent = j.key.parent := hapart _ _ g hg hg'
  cases hkey : i.key
  cases hkey' : j.key
  rw [hkey, hkey'] at hname hparent
  exact InstanceKey.mk.injEq .. ▸ ⟨hparent, hname⟩

/-! ### Two managers of one group -/

namespace Sample

/-- The key of the manager of a template whose name has a dash. -/
def dashedBase : ManagerKey :=
  ⟨⟨⟨⟨"a-b", by decide⟩⟩, ⟨"c", by decide⟩⟩, managerKey.zone⟩

/-- The key of the manager of a revision whose name has a dash. -/
def dashedRevision : ManagerKey :=
  ⟨⟨⟨⟨"a", by decide⟩⟩, ⟨"b-c", by decide⟩⟩, managerKey.zone⟩

/-- A store with both managers, whose groups have one name. -/
def forked : MemoryStore :=
  [AnyRecord.revision { key := dashedBase.parent, project := some "p" },
    .revision { key := dashedRevision.parent, project := some "p" },
    .manager { key := dashedBase, url := some "https://x/one" },
    .manager { key := dashedRevision, url := some "https://x/two" }].foldl
    (fun s r => s.apply r.write) {}

/-- A cloud with one group of one machine. -/
def fleet : Cloud Unit where
  list call _ :=
    (.ok (if call.target = ⟨"p", "a-b-c", "zone"⟩ then { items := [{ url := "https://x/vm" }] }
      else {}), ())
  delete _ _ := (.ok CloudScript.doneOperation, ())
  pageBudget _ := 1

theorem reportsApart_fleet : fleet.ReportsApart := by
  have hone (g : Group) (url : String) (h : fleet.Reports g url) : g = ⟨"p", "a-b-c", "zone"⟩ := by
    obtain ⟨call, state, page, hpage, rfl, hurl⟩ := h
    simp only [fleet, Except.ok.injEq] at hpage
    split at hpage
    · assumption
    · subst hpage
      cases hurl
  exact fun url g g' h h' => (hone g url h).trans (hone g' url h').symm

/-- The two managers are discovered one after the other. -/
def forkedRun : Crowd Unit Unit :=
  (Crowd.start { backend := .memory {}, cloud := (), clock := midnight } forked
    ([{ key := dashedBase }, { key := dashedRevision }].map Discovery.service)).work fleet
      (List.replicate 20 (.serve 0) ++ List.replicate 20 (.serve 1))

/-- The record of the machine under a manager. -/
def vmOf (key : ManagerKey) : Instance :=
  .discovered ⟨key, machine.key.name⟩ "https://x/vm" key

theorem read_forkedRun :
    forkedRun.world.records.read Instance (vmOf dashedBase).key = .ok (some (vmOf dashedBase)) ∧
      forkedRun.world.records.read Instance (vmOf dashedRevision).key =
        .ok (some (vmOf dashedRevision)) := by
  decide +kernel

end Sample

/-- The two managers stand for one group. -/
theorem managers_of_one_group :
    Sample.fleet.ReportsApart ∧ Sample.forked.rows .machine = [] ∧
      ∃ g, Sample.forked.Locates Sample.dashedBase g ∧ Sample.forked.Locates Sample.dashedRevision g := by
  have hempty : Sample.forked.rows .machine = [] := by decide +kernel
  obtain ⟨-, hsame⟩ := records_of_one_url Sample.fleet Sample.reportsApart_fleet
    { backend := .memory {}, cloud := (), clock := Sample.midnight } hempty
    [{ key := Sample.dashedBase }, { key := Sample.dashedRevision }]
    (List.replicate 20 (.serve 0) ++ List.replicate 20 (.serve 1))
  obtain ⟨⟨-, hgroup⟩, -⟩ := hsame (Sample.vmOf Sample.dashedBase) (Sample.vmOf Sample.dashedRevision)
    Sample.read_forkedRun.1 Sample.read_forkedRun.2 rfl
  exact ⟨Sample.reportsApart_fleet, hempty, hgroup⟩

/-- The machine has two records with its URL, under different keys. -/
theorem one_url_under_two_keys :
    Sample.fleet.ReportsApart ∧ Sample.forked.rows .machine = [] ∧
      ∃ i j : Instance, Sample.forkedRun.world.records.read Instance i.key = .ok (some i) ∧
        Sample.forkedRun.world.records.read Instance j.key = .ok (some j) ∧
        i.url = j.url ∧ i.key ≠ j.key :=
  ⟨Sample.reportsApart_fleet, by decide +kernel, Sample.vmOf Sample.dashedBase,
    Sample.vmOf Sample.dashedRevision, Sample.read_forkedRun.1, Sample.read_forkedRun.2, rfl,
    by decide⟩

end FleetReconciler
