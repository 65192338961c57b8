import FleetReconciler.Proofs.DeletionDrain
import FleetReconciler.Proofs.DrainedGroups
import FleetReconciler.Proofs.FailedSaves
import FleetReconciler.Scan

/-!
# The scan for drained instances and their deletion

The scan decides from whole tables which groups are drained and goes over the lists of their
managers. The deletion of an instance goes up the chain of its own records. On a store in which the
chains are complete both come to the same.

* `exists_records` — in a sound store, the records of a type are those that are read one by one;
* `serve_scheduleListed`, `serve_scan` — what the scan queues of a list of keys, and of the lists of
  the managers;
* `MemoryStore.PassesDrainedChecks` — what a deletion checks of an instance and its group;
* `calls_of_passes`, `idle_of_not_passes` — the deletion makes its call just if the checks pass;
* `drained_scan_agrees_with_deletion` — **the scan queues those listed instances that pass**.
-/

namespace FleetReconciler

open Service

/-! ## Lists without repetitions -/

section Lists

variable {α : Type} [DecidableEq α]

theorem nodup_eraseDups : ∀ l : List α, l.eraseDups.Nodup
  | [] => by simp
  | a :: l => by
    rw [List.eraseDups_cons, List.nodup_cons]
    exact ⟨by simp [List.mem_eraseDups], nodup_eraseDups _⟩
termination_by l => l.length
decreasing_by exact Nat.lt_succ_of_le (List.length_filter_le _ l)

/-- What is left out does not matter to the order of the first occurrences. -/
theorem eraseDups_filter (p : α → Bool) : ∀ l : List α,
    (l.filter p).eraseDups = l.eraseDups.filter p
  | [] => rfl
  | a :: l => by
    have hrest := eraseDups_filter p (l.filter fun b => !b == a)
    rw [List.filter_filter] at hrest
    cases ha : p a with
    | true =>
      rw [List.filter_cons_of_pos ha, List.eraseDups_cons, List.eraseDups_cons,
        List.filter_cons_of_pos ha, List.filter_filter, ← hrest]
      simp only [Bool.and_comm]
    | false =>
      have hout : ∀ b ∈ l, (p b && !b == a) = p b := by
        intro b _
        by_cases hb : b = a
        · simp [hb, ha]
        · simp [hb]
      rw [List.filter_cons_of_neg (by simp [ha]), List.eraseDups_cons,
        List.filter_cons_of_neg (by simp [ha]), ← hrest]
      exact congrArg List.eraseDups (List.filter_congr hout).symm
termination_by l => l.length
decreasing_by exact Nat.lt_succ_of_le (List.length_filter_le _ l)

end Lists

/-! ## The records of a type -/

theorem Table.get?_of_mem {α : Type} {t : Table α} (h : t.Ascending) {name : String} {value : α}
    (hmem : (name, value) ∈ t) : get? name t = some value := by
  induction t with
  | nil => cases hmem
  | cons p t ih =>
    obtain ⟨hhead, htail⟩ := List.pairwise_cons.1 h
    rcases List.mem_cons.1 hmem with rfl | hmem
    · exact if_pos rfl
    · have hlt : p.1 < name := hhead _ hmem
      have hne : name ≠ p.1 := fun heq => String.lt_irrefl name (heq ▸ hlt)
      exact (if_neg hne).trans (ih htail hmem)

namespace MemoryStore

variable {ρ κ : Type} [Entity ρ κ] {s : MemoryStore}

/-- A row of a store whose tables are in order is what is found under its id. -/
theorem mem_rows_iff (hordered : s.snapshot.Ordered) {kind : Kind} {id : String} {value : Json} :
    (id, value) ∈ s.rows kind ↔ (s.find? kind id).map Stored.value = some value := by
  rw [← get?_rows]
  refine ⟨Table.get?_of_mem ?_, Table.mem_of_get?_eq_some⟩
  rw [← snapshot_table]
  exact hordered.table kind

/-- Rows that hold records under their keys are all decoded, in their order. -/
theorem exists_decoded {rows : List (String × Json)} (hascending : Table.Ascending rows)
    (hrows : ∀ row ∈ rows,
      ∃ r : ρ, Entity.decode row.2 = .ok r ∧ EntityKey.text (Entity.key r) = row.1) :
    ∃ rs : List ρ,
      rows.mapM (fun (id, value) => decodeRecord (EntityKey.kind κ) id value) = .ok rs ∧
      (∀ r, r ∈ rs ↔ ∃ row ∈ rows, Entity.decode row.2 = .ok r ∧
        EntityKey.text (Entity.key r) = row.1) ∧
      rs.Pairwise fun r r' => EntityKey.text (Entity.key r) < EntityKey.text (Entity.key r') := by
  induction rows with
  | nil => exact ⟨[], rfl, by simp, .nil⟩
  | cons row rows ih =>
    obtain ⟨hhead, htail⟩ := List.pairwise_cons.1 hascending
    obtain ⟨r, hdecode, hkey⟩ := hrows row List.mem_cons_self
    obtain ⟨rs, hrs, hmem, hpairwise⟩ := ih htail fun row' hrow' =>
      hrows row' (List.mem_cons_of_mem _ hrow')
    refine ⟨r :: rs, ?_, fun r' => ?_, List.pairwise_cons.2 ⟨fun r' hr' => ?_, hpairwise⟩⟩
    · have hread : decodeRecord (EntityKey.kind κ) row.1 row.2 = .ok r := by
        simp [decodeRecord, hdecode, Except.mapError]
      rw [List.mapM_cons, hrs]
      exact Except.bind_eq_ok.2 ⟨r, hread, rfl⟩
    · rw [List.mem_cons, hmem]
      constructor
      · rintro (rfl | ⟨row', hrow', hr'⟩)
        · exact ⟨row, List.mem_cons_self, hdecode, hkey⟩
        · exact ⟨row', List.mem_cons_of_mem _ hrow', hr'⟩
      · rintro ⟨row', hrow', hdecode', hkey'⟩
        rcases List.mem_cons.1 hrow' with rfl | hrow'
        · exact .inl (Except.ok.inj (hdecode'.symm.trans hdecode))
        · exact .inr ⟨row', hrow', hdecode', hkey'⟩
    · obtain ⟨row', hrow', -, hkey'⟩ := (hmem r').1 hr'
      rw [hkey, hkey']
      exact hhead row' hrow'

/-- **In a sound store, the records of a type are those that are read one by one**, in the order of
their ids. -/
theorem exists_records (hordered : s.snapshot.Ordered) (hsound : s.Holds ρ) :
    ∃ rs : List ρ,
      (s.rows (EntityKey.kind κ)).mapM (fun (id, value) =>
        decodeRecord (EntityKey.kind κ) id value) = .ok rs ∧
      (∀ r, r ∈ rs ↔ s.read ρ (Entity.key r) = .ok (some r)) ∧
      rs.Pairwise fun r r' => EntityKey.text (Entity.key r) < EntityKey.text (Entity.key r') := by
  have hascending : Table.Ascending (s.rows (EntityKey.kind κ)) := by
    rw [← snapshot_table]
    exact hordered.table _
  obtain ⟨rs, hrs, hmem, hpairwise⟩ := exists_decoded (ρ := ρ) hascending fun row hrow => by
    obtain ⟨x, hx, hvalue⟩ := Option.map_eq_some_iff.1 ((mem_rows_iff hordered).1 hrow)
    rw [← hvalue]
    exact hsound row.1 x hx
  refine ⟨rs, hrs, fun r => ?_, hpairwise⟩
  rw [hmem, read_eq_some]
  constructor
  · rintro ⟨⟨id, value⟩, hrow, hdecode, rfl⟩
    obtain ⟨x, hx, rfl⟩ := Option.map_eq_some_iff.1 ((mem_rows_iff hordered).1 hrow)
    exact ⟨x, hx, hdecode⟩
  · rintro ⟨x, hx, hdecode⟩
    refine ⟨(_, x.value), (mem_rows_iff hordered).2 ?_, hdecode, rfl⟩
    exact congrArg (Option.map Stored.value) hx

end MemoryStore

/-! ## What the scan queues -/

/-- Whether an instance has a record by which it may go when its group is drained. -/
def MemoryStore.awaitsDrainedDeletion (s : MemoryStore) (key : InstanceKey) : Bool :=
  match s.read Instance key with
  | .ok (some i) => i.awaitsDrainedDeletion
  | _ => false

/-- Where every record decodes, every key can be read. -/
theorem MemoryStore.Holds.readable {ρ κ : Type} [Entity ρ κ] {s : MemoryStore} (h : s.Holds ρ)
    (key : κ) : ∃ found, s.read ρ key = .ok found := by
  cases hx : s.find? (EntityKey.kind κ) (EntityKey.text key) with
  | none => exact ⟨none, read_eq_none.2 hx⟩
  | some x =>
    obtain ⟨r, hdecode, -⟩ := h _ x hx
    exact ⟨some r, read_eq_some.2 ⟨x, hx, hdecode⟩⟩

namespace Session

variable {σ α : Type} (c : Cloud σ) {s : Session σ}

/-- The session with more tasks in the queue. -/
def queueing (tasks : List Task) (s : Session σ) : Session σ :=
  { s with queued := s.queued ++ tasks }

theorem serve_lookup_bind {ρ κ : Type} [Entity ρ κ] (key : κ) (k : Option ρ → Service α) :
    s.serve c (lookup ρ key >>= k) =
      match s.records.read ρ key with
      | .ok found => s.serve c (k found)
      | .error f => (.error f, s) := by
  have hlookup := serve_lookup (ρ := ρ) c key s
  unfold serve at *
  rw [Service.run_bind, hlookup]
  cases s.records.read ρ key <;> rfl

theorem serve_records_bind {ρ κ : Type} [Entity ρ κ] {rs : List ρ} (k : List ρ → Service α)
    (h : (s.records.rows (EntityKey.kind κ)).mapM (fun (id, value) =>
      decodeRecord (EntityKey.kind κ) id value) = .ok rs) :
    s.serve c (Service.records ρ >>= k) = s.serve c (k rs) := by
  have hrecords := serve_records (ρ := ρ) c s
  rw [h] at hrecords
  unfold serve at *
  rw [Service.run_bind, hrecords]

/-- A queue without a bound takes every task. -/
theorem serve_enqueue_bind (hroom : s.room = none) (t : Task) (k : Unit → Service α) :
    s.serve c (Service.enqueue t >>= k) = (s.queueing [t]).serve c (k ()) := by
  have hqueue : s.enqueue t = (.ok (), s.queueing [t]) := by
    cases s
    cases hroom
    rfl
  show (Service.within (.enqueueing t) (lift (s.enqueue t).1) >>= k).run (perform c)
    (s.enqueue t).2 = _
  rw [hqueue]
  rfl

/-- **The scan of a list of keys queues the deletion of those that may go.** -/
theorem serve_scheduleListed (hroom : s.room = none) (hinstances : s.records.Holds Instance)
    (keys : List InstanceKey) :
    s.serve c (scheduleListed keys) =
      (.ok (keys.filter s.records.awaitsDrainedDeletion).length,
        s.queueing ((keys.filter s.records.awaitsDrainedDeletion).map .deleteDrained)) := by
  induction keys generalizing s with
  | nil => simp [scheduleListed, serve, queueing, Service.pure_eq_done]
  | cons key keys ih =>
    obtain ⟨found, hfound⟩ := hinstances.readable key
    have hawaits : s.records.awaitsDrainedDeletion key =
        found.elim false Instance.awaitsDrainedDeletion := by
      unfold MemoryStore.awaitsDrainedDeletion
      rw [hfound]
      cases found <;> rfl
    unfold scheduleListed
    rw [serve_lookup_bind, hfound]
    cases found with
    | none =>
      rw [List.filter_cons_of_neg (by simp [hawaits])]
      exact ih hroom hinstances
    | some i =>
      simp only
      cases hi : i.awaitsDrainedDeletion with
      | false =>
        rw [List.filter_cons_of_neg (by simp [hawaits, hi])]
        exact ih hroom hinstances
      | true =>
        have hkey : i.key = key := hinstances.key_eq hfound
        rw [List.filter_cons_of_pos (by simp [hawaits, hi]), if_pos rfl, hkey,
          serve_enqueue_bind c hroom]
        -- the queue has grown, the records are the same
        have hqueued := ih (s := s.queueing [.deleteDrained key]) hroom hinstances
        unfold serve at hqueued ⊢
        rw [Service.run_bind, hqueued]
        simp [queueing, Service.pure_eq_done, records]

/-- The scan reads the three tables above the instances, and goes over the lists of the managers
that they say are drained. -/
theorem serve_scan (hroom : s.room = none) (hinstances : s.records.Holds Instance)
    {templates : List Template} {revisions : List Revision} {managers : List Manager}
    (htemplates : (s.records.rows .template).mapM (fun (id, value) =>
      decodeRecord .template id value) = .ok templates)
    (hrevisions : (s.records.rows .revision).mapM (fun (id, value) =>
      decodeRecord .revision id value) = .ok revisions)
    (hmanagers : (s.records.rows .manager).mapM (fun (id, value) =>
      decodeRecord .manager id value) = .ok managers) :
    let drained := drainedManagers templates revisions managers
    let keys := (((managers.filter fun m => m.key ∈ drained).flatMap
      Manager.instances).eraseDups).filter s.records.awaitsDrainedDeletion
    s.serve c scheduleDrainedDeletions = (.ok keys.length, (s.queueing (keys.map .deleteDrained)).note
      (.drainedDeletionsScheduled keys.length drained.toList.length)) := by
  intro drained keys
  unfold scheduleDrainedDeletions
  rw [serve_records_bind c _ htemplates, serve_records_bind c _ hrevisions,
    serve_records_bind c _ hmanagers]
  have hscanned := serve_scheduleListed c hroom hinstances
    ((managers.filter fun m => m.key ∈ drained).flatMap Manager.instances).eraseDups
  unfold serve at hscanned ⊢
  rw [Service.run_bind, hscanned]
  rfl

end Session

/-! ## What the deletion checks -/

namespace MemoryStore

/-- What a deletion for a drained group checks of the records: the instance is there, neither deleted
nor in the catalog, and its group is drained by the records above it. -/
structure DrainedChecks (s : MemoryStore) (key : InstanceKey) (i : Instance) (manager : Manager)
    (revision : Revision) (template : Template) : Prop where
  found : s.read Instance key = .ok (some i)
  alive : i.deletionTime = none
  uncataloged : i.cataloged = false
  managed : s.read Manager i.instanceGroupManager = .ok (some manager)
  revised : s.read Revision manager.key.parent = .ok (some revision)
  templated : s.read Template revision.key.parent = .ok (some template)
  drained : isDrained manager.key revision template = true

/-- The checks succeed for an instance. -/
def PassesDrainedChecks (s : MemoryStore) (key : InstanceKey) : Prop :=
  ∃ i manager revision template, s.DrainedChecks key i manager revision template

end MemoryStore

section Deletion

variable {σ α : Type} (c : Cloud σ) {s : Session σ} {key : InstanceKey}

/-- What a service has called stays called. -/
theorem Session.calls_serve (service : Service α) (s : Session σ) :
    s.calls <+: (s.serve c service).2.calls := by
  refine Service.run_keeps (P := fun t : Session σ => s.calls <+: t.calls) ?_ service
    List.prefix_rfl
  intro r t ht
  rw [Session.calls_perform]
  exact ht.trans (List.prefix_append _ _)

/-- An instance that is not deleted and can be called for is called for. -/
theorem calls_deleteInstance {i : Instance} {manager : Manager} {revision : Revision}
    {call : DeleteCall} (halive : i.deletionTime = none)
    (hcall : deleteCall? revision manager i = some call) :
    s.calls ++ [.delete call] <+: (s.serve c (deleteInstance revision manager i)).2.calls := by
  unfold deleteInstance
  rw [halive, hcall]
  simp only [Option.isSome_none, Bool.false_eq_true, if_false]
  -- the clock is read, the call is made, and whatever follows keeps it
  exact Session.calls_serve c _ ((s.perform c .now).2.perform c (.deleteInstances call)).2

/-- **Where the checks pass, the deletion makes its call**, if there is a URL and a project to make it
with. -/
theorem calls_of_passes {i : Instance} {manager : Manager} {revision : Revision}
    {template : Template} {call : DeleteCall}
    (h : s.records.DrainedChecks key i manager revision template)
    (hcall : deleteCall? revision manager i = some call) :
    s.calls ++ [.delete call] <+: (s.serve c (deleteDrained key)).2.calls := by
  obtain ⟨project, url, hproject, hproject', hurl, hurl', -⟩ := deleteCall?_eq_some hcall
  have hproject : revision.project? = some project :=
    Text.nonEmpty?_eq_some.2 ⟨hproject, hproject'⟩
  have hurl : i.url? = some url := Text.nonEmpty?_eq_some.2 ⟨hurl, hurl'⟩
  have hrun : s.serve c (deleteDrained key) =
      s.serve c (deleteInstance revision manager i) := by
    unfold deleteDrained
    rw [Session.serve_lookup_bind, h.found]
    simp only [h.alive, h.uncataloged, hurl, Option.isSome_none, Option.isNone_some,
      Bool.false_eq_true, if_false, Instance.ancestors, Service.bind_assoc]
    rw [Session.serve_lookup_bind, h.managed]
    simp only [Service.bind_assoc]
    rw [Session.serve_lookup_bind, h.revised]
    simp only [hproject, Option.isNone_some, Bool.false_eq_true, if_false, Service.pure_eq_done,
      Service.bind_done]
    rw [Session.serve_lookup_bind, h.templated]
    simp only [h.drained, if_true]
  rw [hrun]
  exact calls_deleteInstance c h.alive hcall

/-- A service that calls nothing and writes nothing. -/
def Session.Idle (s : Session σ) (service : Service α) : Prop :=
  (s.serve c service).2.calls = s.calls ∧ (s.serve c service).2.records = s.records

theorem Session.Idle.lookup {ρ κ : Type} [Entity ρ κ] {key : κ} {k : Option ρ → Service α}
    (h : ∀ found, s.records.read ρ key = .ok found → s.Idle c (k found)) :
    s.Idle c (Service.lookup ρ key >>= k) := by
  unfold Session.Idle
  rw [Session.serve_lookup_bind]
  cases hread : s.records.read ρ key with
  | error f => exact ⟨rfl, rfl⟩
  | ok found => exact h found hread

/-- Without its ancestors nothing is done for an instance. -/
theorem Session.Idle.ancestors {i : Instance} {k : Option (Manager × Revision) → Service Unit}
    (hnone : k none = .done ())
    (hsome : ∀ manager revision,
      s.records.read Manager i.instanceGroupManager = .ok (some manager) →
      s.records.read Revision manager.key.parent = .ok (some revision) →
      s.Idle c (k (some (manager, revision)))) :
    s.Idle c (i.ancestors >>= k) := by
  simp only [Instance.ancestors, Service.bind_assoc]
  refine .lookup c fun found hmanager => ?_
  cases found with
  | none =>
    show s.Idle c (Service.note _ >>= fun _ => k none)
    rw [hnone]
    exact ⟨rfl, rfl⟩
  | some manager =>
    simp only [Service.bind_assoc]
    refine .lookup c fun found hrevision => ?_
    cases found with
    | none =>
      show s.Idle c (Service.note _ >>= fun _ => k none)
      rw [hnone]
      exact ⟨rfl, rfl⟩
    | some revision =>
      simp only
      split
      · show s.Idle c (Service.note _ >>= fun _ => k none)
        rw [hnone]
        exact ⟨rfl, rfl⟩
      · exact hsome manager revision hmanager hrevision

/-- **Where the checks do not pass, the deletion calls nothing and writes nothing.** -/
theorem idle_of_not_passes (h : ¬ s.records.PassesDrainedChecks key) :
    s.Idle c (deleteDrained key) := by
  unfold deleteDrained
  refine .lookup c fun found hfound => ?_
  cases found with
  | none => exact ⟨rfl, rfl⟩
  | some i =>
    simp only
    split
    · exact ⟨rfl, rfl⟩
    · split
      · exact ⟨rfl, rfl⟩
      · split
        · exact ⟨rfl, rfl⟩
        · rename_i halive hcataloged _
          have halive : i.deletionTime = none := by simpa using halive
          have hcataloged : i.cataloged = false := by simpa using hcataloged
          refine .ancestors c rfl fun manager revision hmanager hrevision => ?_
          refine .lookup c fun found htemplate => ?_
          cases found with
          | none => exact ⟨rfl, rfl⟩
          | some template =>
            simp only
            split
            · rename_i hdrained
              exact (h ⟨i, manager, revision, template, hfound, halive, hcataloged, hmanager,
                hrevision, htemplate, hdrained⟩).elim
            · exact ⟨rfl, rfl⟩

end Deletion

/-! ## The scan and the deletion -/

namespace MemoryStore

/-- The tables of a store that is filled with records are in order. -/
theorem ordered_fill {s : MemoryStore} (h : s.snapshot.Ordered) (records : List AnyRecord) :
    (records.foldl (fun s r => s.apply r.write) s).snapshot.Ordered := by
  induction records generalizing s with
  | nil => exact h
  | cons r records ih =>
    refine ih (s := s.apply r.write) ?_
    rw [apply, snapshot_put]
    exact h.put _ _ _

/-- A sound store in which every instance and every listed key is of the manager in its key, and
every manager has its revision and its template. -/
structure Chained (s : MemoryStore) : Prop where
  ordered : s.snapshot.Ordered
  sound : s.Sound
  instances : ∀ i : Instance, s.read Instance i.key = .ok (some i) →
    i.instanceGroupManager = i.key.parent
  lists : ∀ m : Manager, s.read Manager m.key = .ok (some m) → ∀ key ∈ m.instances, key.parent = m.key
  revisions : ∀ m : Manager, s.read Manager m.key = .ok (some m) →
    ∃ revision, s.read Revision m.key.parent = .ok (some revision)
  templates : ∀ m : Manager, s.read Manager m.key = .ok (some m) →
    ∃ template, s.read Template m.key.parent.parent = .ok (some template)

/-- An instance is listed by its manager. -/
def Lists (s : MemoryStore) (key : InstanceKey) : Prop :=
  ∃ m : Manager, s.read Manager key.parent = .ok (some m) ∧ key ∈ m.instances

variable {s : MemoryStore} {templates : List Template} {revisions : List Revision}
  {managers : List Manager}

/-- For a manager of the store, the tables say that it is drained just if its own records do. -/
theorem Chained.mem_drainedManagers_iff (h : s.Chained)
    (htemplates : ∀ t, t ∈ templates ↔ s.read Template t.key = .ok (some t))
    (hrevisions : ∀ r, r ∈ revisions ↔ s.read Revision r.key = .ok (some r))
    (hmanagers : ∀ m, m ∈ managers ↔ s.read Manager m.key = .ok (some m)) {m : Manager}
    {revision : Revision} {template : Template} (hm : s.read Manager m.key = .ok (some m))
    (hrevision : s.read Revision m.key.parent = .ok (some revision))
    (htemplate : s.read Template m.key.parent.parent = .ok (some template)) :
    m.key ∈ drainedManagers templates revisions managers ↔
      isDrained m.key revision template = true := by
  have hrevisionKey : revision.key = m.key.parent := h.sound.revisions.key_eq hrevision
  have htemplateKey : template.key = m.key.parent.parent := h.sound.templates.key_eq htemplate
  refine mem_drainedManagers_iff_isDrained ((hmanagers m).2 hm)
    ((hrevisions revision).2 (hrevisionKey ▸ hrevision))
    ((htemplates template).2 (htemplateKey ▸ htemplate)) hrevisionKey htemplateKey ?_ ?_
  · intro r hr hkey
    have hread := (hrevisions r).1 hr
    rw [hkey, hrevisionKey, hrevision] at hread
    cases hread
    rfl
  · intro t ht hkey
    have hread := (htemplates t).1 ht
    rw [hkey, htemplateKey, htemplate] at hread
    cases hread
    rfl

/-- The lists of some managers are those keys of all lists whose manager is among them. -/
theorem flatMap_instances_filter {keys : KeySet ManagerKey}
    (hlists : ∀ m ∈ managers, ∀ key ∈ m.instances, key.parent = m.key) :
    (managers.filter fun m => m.key ∈ keys).flatMap Manager.instances =
      (managers.flatMap Manager.instances).filter fun key => key.parent ∈ keys := by
  induction managers with
  | nil => rfl
  | cons m managers ih =>
    have hown : m.instances.filter (fun key => key.parent ∈ keys) =
        if m.key ∈ keys then m.instances else [] := by
      rw [List.filter_congr fun key hkey =>
        congrArg (fun k => decide (k ∈ keys)) (hlists m List.mem_cons_self key hkey)]
      by_cases hm : m.key ∈ keys <;> simp [hm]
    have hrest := ih fun m' hm' => hlists m' (List.mem_cons_of_mem _ hm')
    rw [List.flatMap_cons, List.filter_append, hown, ← hrest]
    by_cases hm : m.key ∈ keys <;> simp [hm]

/-- The keys of all lists are those of the instances that their managers list. -/
theorem Chained.mem_listed_iff (h : s.Chained)
    (hmanagers : ∀ m, m ∈ managers ↔ s.read Manager m.key = .ok (some m)) (key : InstanceKey) :
    key ∈ managers.flatMap Manager.instances ↔ s.Lists key := by
  rw [List.mem_flatMap]
  constructor
  · rintro ⟨m, hm, hkey⟩
    have hread := (hmanagers m).1 hm
    exact ⟨m, h.lists m hread key hkey ▸ hread, hkey⟩
  · rintro ⟨m, hm, hkey⟩
    have hmanagerKey : m.key = key.parent := h.sound.managers.key_eq hm
    exact ⟨m, (hmanagers m).2 (hmanagerKey ▸ hm), hkey⟩

/-- A listed instance passes the checks just if it may go and its group is among the drained ones. -/
theorem Chained.passes_iff (h : s.Chained)
    (htemplates : ∀ t, t ∈ templates ↔ s.read Template t.key = .ok (some t))
    (hrevisions : ∀ r, r ∈ revisions ↔ s.read Revision r.key = .ok (some r))
    (hmanagers : ∀ m, m ∈ managers ↔ s.read Manager m.key = .ok (some m)) {key : InstanceKey}
    {m : Manager} (hm : s.read Manager key.parent = .ok (some m)) :
    s.PassesDrainedChecks key ↔
      key.parent ∈ drainedManagers templates revisions managers ∧
        s.awaitsDrainedDeletion key = true := by
  have hmanagerKey : m.key = key.parent := h.sound.managers.key_eq hm
  have hm' : s.read Manager m.key = .ok (some m) := hmanagerKey ▸ hm
  obtain ⟨revision, hrevision⟩ := h.revisions m hm'
  obtain ⟨template, htemplate⟩ := h.templates m hm'
  have hrevisionKey : revision.key = m.key.parent := h.sound.revisions.key_eq hrevision
  have hdrained := h.mem_drainedManagers_iff htemplates hrevisions hmanagers hm' hrevision htemplate
  rw [← hmanagerKey, hdrained]
  unfold awaitsDrainedDeletion
  constructor
  · rintro ⟨i, manager, revision', template', hchecks⟩
    have hkey : i.key = key := h.sound.instances.key_eq hchecks.found
    have hparent : i.instanceGroupManager = key.parent :=
      (h.instances i (hkey ▸ hchecks.found)).trans (congrArg InstanceKey.parent hkey)
    -- the records above the instance are those of its manager
    obtain rfl : manager = m := by
      have hread := hchecks.managed
      rw [hparent, hm] at hread
      cases hread
      rfl
    obtain rfl : revision' = revision := by
      have hread := hchecks.revised
      rw [hrevision] at hread
      cases hread
      rfl
    obtain rfl : template' = template := by
      have hread := hchecks.templated
      rw [hrevisionKey, htemplate] at hread
      cases hread
      rfl
    rw [hchecks.found]
    exact ⟨hchecks.drained, by simp [Instance.awaitsDrainedDeletion, hchecks.alive,
      hchecks.uncataloged]⟩
  · rintro ⟨hdrained, hawaits⟩
    split at hawaits
    · rename_i i hfound
      have hkey : i.key = key := h.sound.instances.key_eq hfound
      have hparent : i.instanceGroupManager = key.parent :=
        (h.instances i (hkey ▸ hfound)).trans (congrArg InstanceKey.parent hkey)
      simp only [Instance.awaitsDrainedDeletion, Bool.and_eq_true, Option.isNone_iff_eq_none,
        Bool.not_eq_true'] at hawaits
      exact ⟨i, m, revision, template, hfound, hawaits.1, hawaits.2, hparent ▸ hm, hrevision,
        hrevisionKey ▸ htemplate, hdrained⟩
    · cases hawaits

end MemoryStore

/-- **The scan queues those listed instances that pass the checks of their deletion**, each once, in
the order of the managers and of the first listing, and nothing else; its result is their number. A
deletion for which the checks do not pass calls nothing and writes nothing, and one for which they
pass makes its call if there is a URL and a project for it. -/
theorem drained_scan_agrees_with_deletion {σ : Type} (c : Cloud σ) (session : Session σ)
    {store : MemoryStore} (h : store.Chained) :
    let s := { session with backend := .memory store, room := none }
    ∃ (managers : List Manager) (keys : List InstanceKey),
      ((∀ m, m ∈ managers ↔ store.read Manager m.key = .ok (some m)) ∧
        managers.Pairwise fun m m' => EntityKey.text m.key < EntityKey.text m'.key) ∧
      (keys.Nodup ∧ (∀ key, key ∈ keys ↔ store.Lists key ∧ store.PassesDrainedChecks key) ∧
        keys.Sublist (managers.flatMap Manager.instances).eraseDups) ∧
      ((s.serve c scheduleDrainedDeletions).1 = .ok keys.length ∧
        (s.serve c scheduleDrainedDeletions).2.queued = s.queued ++ keys.map .deleteDrained ∧
        (s.serve c scheduleDrainedDeletions).2.records = store) ∧
      ∀ key, (¬ store.PassesDrainedChecks key → s.Idle c (deleteDrained key)) ∧
        ∀ i manager revision template call, store.DrainedChecks key i manager revision template →
          deleteCall? revision manager i = some call →
            s.calls ++ [.delete call] <+: (s.serve c (deleteDrained key)).2.calls := by
  intro s
  have hrecords : s.records = store := rfl
  obtain ⟨templates, hreadTemplates, htemplates, -⟩ :=
    MemoryStore.exists_records h.ordered h.sound.templates
  obtain ⟨revisions, hreadRevisions, hrevisions, -⟩ :=
    MemoryStore.exists_records h.ordered h.sound.revisions
  obtain ⟨managers, hreadManagers, hmanagers, hascending⟩ :=
    MemoryStore.exists_records h.ordered h.sound.managers
  let drained := drainedManagers templates revisions managers
  let listed := managers.flatMap Manager.instances
  let keys := (((managers.filter fun m => m.key ∈ drained).flatMap
    Manager.instances).eraseDups).filter store.awaitsDrainedDeletion
  -- the keys that are gone over are those of all lists whose manager is drained
  have hlisted : (managers.filter fun m => m.key ∈ drained).flatMap Manager.instances =
      listed.filter fun key => key.parent ∈ drained :=
    MemoryStore.flatMap_instances_filter fun m hm => h.lists m ((hmanagers m).1 hm)
  have hkeys : keys = (listed.eraseDups.filter fun key => key.parent ∈ drained).filter
      store.awaitsDrainedDeletion := by
    simp only [keys, hlisted, eraseDups_filter]
  have hscan : s.serve c scheduleDrainedDeletions =
      (.ok keys.length, (s.queueing (keys.map .deleteDrained)).note
        (.drainedDeletionsScheduled keys.length drained.toList.length)) :=
    Session.serve_scan c (s := s) rfl h.sound.instances hreadTemplates hreadRevisions hreadManagers
  refine ⟨managers, keys, ⟨hmanagers, hascending⟩, ⟨?_, ?_, ?_⟩, ?_, fun key => ⟨?_, ?_⟩⟩
  · exact (nodup_eraseDups _).filter _
  · intro key
    rw [hkeys]
    simp only [List.mem_filter, List.mem_eraseDups, decide_eq_true_eq, listed, and_assoc,
      h.mem_listed_iff hmanagers]
    refine and_congr_right fun hkey => ?_
    obtain ⟨m, hm, -⟩ := hkey
    exact (h.passes_iff htemplates hrevisions hmanagers hm).symm
  · rw [hkeys]
    exact List.filter_sublist.trans List.filter_sublist
  · rw [hscan]
    exact ⟨rfl, rfl, rfl⟩
  · intro hnot
    exact idle_of_not_passes c (hrecords ▸ hnot)
  · intro i manager revision template call hchecks hcall
    exact calls_of_passes c (hrecords ▸ hchecks) hcall

/-! ### A scan of a list with a repetition -/

namespace Sample

/-- The manager with a list that names the instance twice. -/
def listing : Manager := { key := managerKey, instances := [machine.key, machine.key] }

/-- The small store with the list in it. -/
def listed : MemoryStore := [AnyRecord.manager listing].foldl (fun s r => s.apply r.write) store

theorem chained_listed : listed.Chained := by
  have hordered : listed.snapshot.Ordered :=
    MemoryStore.ordered_fill (MemoryStore.ordered_fill (s := {}) Snapshot.ordered_empty records) _
  have hsound : listed.Sound :=
    MemoryStore.sound_fill (MemoryStore.sound_fill MemoryStore.sound_empty records) _
  -- the store holds one instance and one manager
  have hmachine : ∀ i : Instance, listed.read Instance i.key = .ok (some i) → i = machine := by
    obtain ⟨instances, hrows, hmem, -⟩ := MemoryStore.exists_records hordered hsound.instances
    obtain rfl : [machine] = instances :=
      Except.ok.inj ((by decide +kernel : _ = Except.ok [machine]).symm.trans hrows)
    exact fun i hi => List.mem_singleton.1 ((hmem i).2 hi)
  have hmanager : ∀ m : Manager, listed.read Manager m.key = .ok (some m) → m = listing := by
    obtain ⟨managers, hrows, hmem, -⟩ := MemoryStore.exists_records hordered hsound.managers
    obtain rfl : [listing] = managers :=
      Except.ok.inj ((by decide +kernel : _ = Except.ok [listing]).symm.trans hrows)
    exact fun m hm => List.mem_singleton.1 ((hmem m).2 hm)
  exact {
    ordered := hordered
    sound := hsound
    instances := fun i hi => by
      obtain rfl := hmachine i hi
      rfl
    lists := fun m hm key hkey => by
      obtain rfl := hmanager m hm
      simp only [listing, List.mem_cons, List.not_mem_nil, or_false, or_self] at hkey
      rw [hkey]
      rfl
    revisions := fun m hm => by
      obtain rfl := hmanager m hm
      exact ⟨_, (by decide +kernel : _ = Except.ok (some
        { key := managerKey.parent, project := some "p", drained := .ofList [managerKey] }))⟩
    templates := fun m hm => by
      obtain rfl := hmanager m hm
      exact ⟨_, (by decide +kernel : _ = Except.ok (some { key := managerKey.parent.parent }))⟩ }

end Sample

/-- The instance that is listed twice is queued once, and its deletion gets past the checks. -/
theorem drained_scan_of_repeated_listing :
    Sample.listed.Chained ∧
    let s := { Sample.session with backend := .memory Sample.listed, room := none }
    (s.serve CloudScript.cloud scheduleDrainedDeletions).1 = .ok 1 ∧
      (s.serve CloudScript.cloud scheduleDrainedDeletions).2.queued =
        [.deleteDrained Sample.machine.key] ∧
      Sample.listed.PassesDrainedChecks Sample.machine.key := by
  obtain ⟨managers, keys, -, ⟨-, hmem, -⟩, ⟨hanswer, hqueued, -⟩, -⟩ :=
    drained_scan_agrees_with_deletion CloudScript.cloud Sample.session Sample.chained_listed
  have hone : (Session.serve CloudScript.cloud scheduleDrainedDeletions
      { Sample.session with backend := .memory Sample.listed, room := none }).2.queued =
      [.deleteDrained Sample.machine.key] := by decide +kernel
  have hkeys : keys.map Task.deleteDrained = [.deleteDrained Sample.machine.key] :=
    hqueued.symm.trans hone
  obtain ⟨key, rfl, hkey⟩ : ∃ key, keys = [key] ∧ Task.deleteDrained key = _ :=
    List.map_eq_singleton_iff.1 hkeys
  cases hkey
  exact ⟨Sample.chained_listed, hanswer, hone, ((hmem _).1 List.mem_cons_self).2⟩

end FleetReconciler
