import FleetReconciler.Discovery
import FleetReconciler.Lifecycle
import FleetReconciler.Proofs.ContestedTransaction
import FleetReconciler.Proofs.DrainedGroups
import Mathlib.Data.List.Sort

/-!
# What a change reports is what has happened

A service that changes one record learns inside the transaction what the change comes to, while the
store decides by comparing records whether anything is written. The two agree as long as a rule never
gives back the record it was given: then a change is reported as an update just when it was written,
whatever rivals write in the meantime.

* `Change.Edits` — a rule by its condition and its edit, one fact for each of the five rules;
* `Change.Conclusion` — what the last attempt of a change comes to;
* `World.Adds`, `Change.Announces` — what a service does after the change;
* `Change.Reports`, `changes_are_reported` — **what a service reports is what has happened**.
-/

namespace FleetReconciler

/-! ## Sets of keys -/

namespace KeySet

variable {κ : Type} [EntityKey κ] [LawfulKey κ]

/-- Sets of the same keys are the same. -/
theorem ofList_eq_iff {ks ls : List κ} : ofList ks = ofList ls ↔ ∀ k, k ∈ ks ↔ k ∈ ls := by
  constructor
  · intro h k
    rw [← mem_ofList, h, mem_ofList]
  · intro h
    have hirrefl : Std.Irrefl fun a b : κ => EntityKey.texts a < EntityKey.texts b :=
      ⟨fun a => List.lt_irrefl _⟩
    have hantisymm : Std.Antisymm fun a b : κ => EntityKey.texts a < EntityKey.texts b :=
      ⟨fun a b hab hba => (List.lt_irrefl _ (List.lt_trans hab hba)).elim⟩
    have hmem : ∀ k, k ∈ (ofList ks).toList ↔ k ∈ (ofList ls).toList := fun k =>
      (mem_ofList (x := k)).trans ((h k).trans mem_ofList.symm)
    have hlists := (ofList ks).ascending.eq_of_mem_iff (ofList ls).ascending hmem
    cases hk : ofList ks
    cases hl : ofList ls
    simp_all

end KeySet

/-! ## Rules -/

/-- A rule that leaves a record alone where a condition is met, and edits it everywhere else. -/
structure Change.Edits {ρ : Type} (rule : ρ → Option ρ) (met : ρ → Prop) (edit : ρ → ρ) : Prop where
  leaves : ∀ r, met r → rule r = none
  edits : ∀ r, ¬ met r → rule r = some (edit r)
  /-- An edit is seen by the comparison of records. -/
  changes : ∀ r, ¬ met r → edit r ≠ r

namespace Instance

theorem edits_mark : Change.Edits mark? (fun i => i.pendingDeletion = true)
    fun i => { i with leaseExpiration := none, pendingDeletion := true } where
  leaves i h := by simp [mark?, h]
  edits i h := by simp [mark?, h]
  changes i h heq := h (congrArg Instance.pendingDeletion heq).symm

theorem edits_lease (expiration : Option Timestamp) :
    Change.Edits (lease? expiration) (fun i => i.leaseExpiration = expiration)
      fun i => { i with leaseExpiration := expiration } where
  leaves i h := by simp [lease?, h]
  edits i h := by simp [lease?, h]
  changes i h heq := h (congrArg Instance.leaseExpiration heq).symm

theorem edits_subscribe (project subscription serviceAccount : String) :
    Change.Edits (subscribe? project subscription serviceAccount)
      (fun i => ∃ text, i.subscription = some text ∧ text ≠ "")
      fun i => { i with
        pendingMetadataUpdates :=
          i.pendingMetadataUpdates ++ [subscriptionUpdate project subscription serviceAccount]
        serviceAccount := some serviceAccount
        subscription := some (subscriptionPath project subscription) } where
  leaves i := by
    rintro ⟨text, htext, hne⟩
    simp [subscribe?, Text.nonEmpty?, htext, hne]
  edits i h := by
    have hnone : Text.nonEmpty? i.subscription = none := by
      refine Option.filter_eq_none_iff.2 fun text htext hne => h ⟨text, htext, ?_⟩
      simpa using hne
    simp [subscribe?, hnone]
  changes i _ heq := by
    have hlength := congrArg (fun i => i.pendingMetadataUpdates.length) heq
    simp at hlength

theorem edits_delete (time : Timestamp) :
    Change.Edits (delete? time) (fun i => i.deletionTime ≠ none)
      fun i => { i with deletionTime := some time } where
  leaves i h := by simp [delete?, Option.isSome_iff_ne_none, h]
  edits i h := by
    have hnone : i.deletionTime = none := not_not.1 h
    simp [delete?, hnone]
  changes i h heq :=
    Option.some_ne_none time ((congrArg Instance.deletionTime heq).trans (not_not.1 h))

end Instance

theorem Manager.edits_list (instances : List InstanceKey) :
    Change.Edits (Manager.list? instances) (fun m => ∀ k, k ∈ m.instances ↔ k ∈ instances)
      fun m => { m with instances } where
  leaves m h := by simp only [Manager.list?, KeySet.ofList_eq_iff.2 h, if_true]
  edits m h := by
    have hne : ¬ KeySet.ofList m.instances = KeySet.ofList instances := fun heq =>
      h (KeySet.ofList_eq_iff.1 heq)
    simp only [Manager.list?, if_neg hne]
  changes m h heq := by
    have hlist : instances = m.instances := congrArg Manager.instances heq
    exact h fun k => hlist ▸ Iff.rfl

/-! ## What a change comes to -/

section Conclusions

open Service

variable {ρ κ : Type} [Entity ρ κ]

/-- The transaction of a change, and what its rivals write. -/
def Change.contest (key : κ) (rule : ρ → Option ρ) (store : MemoryStore)
    (rivals : Nat → List AnyRecord) : Contest ρ (Change × Option ρ) Unit where
  key
  mutate _ current := (Change.mutation rule current, ())
  memory := ()
  store
  rivals

/-- What the last attempt of a change comes to, from what it has read and whether a rival has written
the record before its commit. -/
inductive Change.Conclusion (key : κ) (met : ρ → Prop) (edit : ρ → ρ)
    (reading : Except Failure (Option ρ)) (overtaken : Prop) :
    Except Failure (Committed (Change × Option ρ)) → List Write → Prop
  | failed {f : Failure} (found : reading ≠ .ok none)
      (wanted : ∀ r, reading = .ok (some r) → ¬ met r) :
      Change.Conclusion key met edit reading overtaken (.error f) []
  | missing (found : reading = .ok none) :
      Change.Conclusion key met edit reading overtaken (.ok ⟨(.missing, none), false⟩) []
  | unchanged {r : ρ} (found : reading = .ok (some r)) (already : met r) :
      Change.Conclusion key met edit reading overtaken (.ok ⟨(.unchanged, some r), false⟩) []
  | updated {r : ρ} (found : reading = .ok (some r)) (wanted : ¬ met r) (first : ¬ overtaken) :
      Change.Conclusion key met edit reading overtaken (.ok ⟨(.updated, some r), true⟩)
        [⟨EntityKey.kind κ, EntityKey.text key, Entity.stored (edit r)⟩]

variable {key : κ} {rule : ρ → Option ρ} {met : ρ → Prop} {edit : ρ → ρ} {store : MemoryStore}
  {rivals : Nat → List AnyRecord} {n : Nat}

theorem Change.Edits.mutation_eq (h : Change.Edits rule met edit) {r r' : ρ}
    {value : Change × Option ρ} (hcall : Change.mutation rule (some r) = (some r', value)) :
    (met r ∧ r' = r ∧ value = (.unchanged, some r)) ∨
      (¬ met r ∧ r' = edit r ∧ value = (.updated, some r)) := by
  unfold Change.mutation at hcall
  by_cases hmet : met r
  · simp only [h.leaves r hmet] at hcall
    cases hcall
    exact .inl ⟨hmet, rfl, rfl⟩
  · simp only [h.edits r hmet] at hcall
    cases hcall
    exact .inr ⟨hmet, rfl, rfl⟩

/-- A record that a change gives instead of the one it has found is an edit of it. -/
theorem Change.Edits.of_changed (h : Change.Edits rule met edit) {current : Option ρ} {r' : ρ}
    {value : Change × Option ρ} (hcall : Change.mutation rule current = (some r', value))
    (hchanged : some r' ≠ current) :
    ∃ r, current = some r ∧ ¬ met r ∧ r' = edit r ∧ value = (.updated, some r) := by
  cases current with
  | none => cases hcall
  | some r =>
    rcases h.mutation_eq hcall with ⟨-, rfl, -⟩ | ⟨hunmet, rfl, rfl⟩
    · exact (hchanged rfl).elim
    · exact ⟨r, rfl, hunmet, rfl, rfl⟩

theorem Change.Edits.failed_of_changed (h : Change.Edits rule met edit) {current : Option ρ} {r' : ρ}
    {value : Change × Option ρ} {f : Failure}
    (hcall : (Change.contest key rule store rivals).Calls n current (some r') value)
    (hchanged : some r' ≠ current) :
    Change.Conclusion key met edit ((Change.contest key rule store rivals).reading n)
      ((Change.contest key rule store rivals).Overtaken n) (.error f) [] := by
  obtain ⟨hread, hcall⟩ := hcall
  obtain ⟨r, rfl, hunmet, -⟩ := h.of_changed hcall hchanged
  refine .failed (by simp [hread]) fun r₁ hr₁ => ?_
  cases hread.symm.trans hr₁
  exact hunmet

/-- An attempt that ends a change. -/
theorem Change.Edits.conclusion_of_ending (h : Change.Edits rule met edit)
    {result : Except Failure (Committed (Change × Option ρ))} {written : List Write}
    (hend : (Change.contest key rule store rivals).Ending n result written) :
    Change.Conclusion key met edit ((Change.contest key rule store rivals).reading n)
      ((Change.contest key rule store rivals).Overtaken n) result written := by
  cases hend with
  | unreadable failed => exact .failed (by simp [failed]) (by simp [failed])
  | @unchanged current value call =>
    obtain ⟨hread, hcall⟩ := call
    cases current with
    | none =>
      cases hcall
      exact .missing hread
    | some r =>
      rcases h.mutation_eq hcall with ⟨hmet, -, rfl⟩ | ⟨hunmet, heq, -⟩
      · exact .unchanged hread hmet
      · exact (h.changes r hunmet heq.symm).elim
  | @removed r value call =>
    have hcall : (Change.mutation rule (some r)).1 = none := congrArg Prod.fst call.2
    by_cases hmet : met r
    · simp [Change.mutation, h.leaves r hmet] at hcall
    · simp [Change.mutation, h.edits r hmet] at hcall
  | rekeyed call changed _ => exact h.failed_of_changed call changed
  | wrote offer first =>
    obtain ⟨current, ⟨hread, hcall⟩, hchanged, -⟩ := offer
    obtain ⟨r, rfl, hunmet, rfl, rfl⟩ := h.of_changed hcall hchanged
    exact .updated hread hunmet first

/-- The transaction of a change comes to a conclusion in one of its four attempts. -/
theorem Change.Edits.conclusion (h : Change.Edits rule met edit) {attempts : Nat}
    {result : Except Failure (Committed (Change × Option ρ))} {written : List Write}
    (houtcome : (Change.contest key rule store rivals).Outcome attempts result written) :
    ∃ n < 4, attempts = n + 1 ∧
      Change.Conclusion key met edit ((Change.contest key rule store rivals).reading n)
        ((Change.contest key rule store rivals).Overtaken n) result written := by
  cases houtcome with
  | @ended n _ _ tries _ ending => exact ⟨n, tries, rfl, h.conclusion_of_ending ending⟩
  | contention before =>
    -- the last attempt has changed the record too
    obtain ⟨⟨r, value, current, hcall, hchanged, -⟩, -⟩ := before 3 (by decide)
    exact ⟨3, by decide, rfl, h.failed_of_changed hcall hchanged⟩

end Conclusions

/-! ## After the change -/

namespace World

variable {σ : Type}

/-- Nothing but events is added to a world, as far as the records and the readings go. -/
structure Adds (w w' : World σ) (events : List (MachineEvent × String)) : Prop where
  readings : w'.readings = w.readings
  writes : w'.writes = w.writes
  records : w'.records = w.records
  events : w'.session.events = w.session.events ++ events

theorem Adds.refl (w : World σ) : w.Adds w [] := ⟨rfl, rfl, rfl, (List.append_nil _).symm⟩

theorem Adds.trans {w w' w'' : World σ} {events events' : List (MachineEvent × String)}
    (h : w.Adds w' events) (h' : w'.Adds w'' events') : w.Adds w'' (events ++ events') where
  readings := h'.readings.trans h.readings
  writes := h'.writes.trans h.writes
  records := h'.records.trans h.records
  events := by rw [h'.events, h.events, List.append_assoc]

variable (c : Cloud σ) (rivals : Nat → List AnyRecord) (w : World σ)

theorem adds_note (n : Notice) : w.Adds (w.contested c rivals (.note n)).2 [] where
  readings := (readings_contested ..).trans (List.append_nil _)
  writes := (writes_contested ..).trans (List.append_nil _)
  records := rfl
  events := (List.append_nil _).symm

theorem adds_send (event : MachineEvent) (hostname : String) :
    w.Adds (w.contested c rivals (.send event hostname)).2 [(event, hostname)] where
  readings := (readings_contested ..).trans (List.append_nil _)
  writes := (writes_contested ..).trans (List.append_nil _)
  records := rfl
  events := rfl

/-- A service gives a result, and adds events. -/
def Gives {α : Type} (service : Service α) (a : α) (events : List (MachineEvent × String)) : Prop :=
  ∃ w', service.run (contested c rivals) w = (.ok a, w') ∧ w.Adds w' events

end World

/-- What a service does after a change of a record: it gives what the change came to, and reports
events only of an update. -/
structure Change.Announces {ρ : Type} (next : Change × Option ρ → Service Change)
    (events : ρ → List (MachineEvent × String)) : Prop where
  missing : ∀ {σ : Type} (c : Cloud σ) (rivals : Nat → List AnyRecord) (w : World σ),
    w.Gives c rivals (next (.missing, none)) .missing []
  unchanged : ∀ {σ : Type} (c : Cloud σ) (rivals : Nat → List AnyRecord) (w : World σ) (r : ρ),
    w.Gives c rivals (next (.unchanged, some r)) .unchanged []
  updated : ∀ {σ : Type} (c : Cloud σ) (rivals : Nat → List AnyRecord) (w : World σ) (r : ρ),
    w.Gives c rivals (next (.updated, some r)) .updated (events r)

/-! ## Reports -/

section Reports

variable {ρ κ : Type} [Entity ρ κ]

/-- A store has come from another by the replacement of a record with what an edit makes of it. -/
structure Change.Replaced (key : κ) (edit : ρ → ρ) (r : ρ) (before after : MemoryStore) : Prop where
  found : before.read ρ key = .ok (some r)
  changed : edit r ≠ r
  written : after = before.put (EntityKey.kind κ) (EntityKey.text key) (Entity.stored (edit r))
  holds : after.read ρ key = .ok (some (edit r))

/-- What a service reports of a change is what has happened. The last store that it has read is
`last`, and its rivals have left `left`. -/
structure Change.Reported {σ : Type} (key : κ) (met : ρ → Prop) (edit : ρ → ρ)
    (events : ρ → List (MachineEvent × String)) (session : Session σ) (last left : MemoryStore)
    (result : Except Failure Change) (w : World σ) : Prop where
  /-- It is an update just when the service has written. -/
  updated_iff : result = .ok .updated ↔ w.writes ≠ []
  /-- The record is missing just when the last reading found none. -/
  missing_iff : result = .ok .missing ↔ last.read ρ key = .ok none
  /-- It is unchanged just when the last reading found it as it was wanted. -/
  unchanged_iff : result = .ok .unchanged ↔ ∃ r, last.read ρ key = .ok (some r) ∧ met r
  /-- An update edits the record that was stored until then, and is the only write. -/
  updated : result = .ok .updated → ∃ r, ¬ met r ∧ Change.Replaced key edit r left w.records ∧
    w.writes = [⟨EntityKey.kind κ, EntityKey.text key, Entity.stored (edit r)⟩] ∧
    w.session.events = session.events ++ events r
  /-- Without an update the store is what the rivals have left, and no event is reported. -/
  otherwise : result ≠ .ok .updated → w.records = left ∧ w.session.events = session.events

/-- A service reports what has happened, on every store and against all rivals. It makes at most four
attempts, and each of them reads what the rivals of those before it have left. -/
def Change.Reports (service : Service Change) (key : κ) (met : ρ → Prop) (edit : ρ → ρ)
    (events : ρ → List (MachineEvent × String)) : Prop :=
  ∀ (σ : Type) (c : Cloud σ) (session : Session σ) (store : MemoryStore)
    (rivals : Nat → List AnyRecord),
    ∃ n result w, n < 4 ∧
      service.run (World.contested c rivals) (World.ofStore session store) = (result, w) ∧
      w.readings = (List.range (n + 1)).map (store.underRivals rivals) ∧
      Change.Reported key met edit events session (store.underRivals rivals n)
        (store.underRivals rivals (n + 1)) result w

open Service

variable [DecidableEq ρ] [LawfulEntity ρ]

/-- A change among rivals comes to a conclusion. -/
theorem Change.Edits.run_change {rule : ρ → Option ρ} {met : ρ → Prop} {edit : ρ → ρ}
    (h : Change.Edits rule met edit) (context : Context) (key : κ) {σ : Type} (c : Cloud σ)
    (session : Session σ) (store : MemoryStore) (rivals : Nat → List AnyRecord) :
    let t := Change.contest key rule store rivals
    ∃ n result written w, n < 4 ∧
      Change.Conclusion key met edit (t.reading n) (t.Overtaken n) result written ∧
      (Service.change context key rule).run (World.contested c rivals)
          (World.ofStore session store) =
        ((inContext context result).map Committed.value, w) ∧
      w.readings = (List.range (n + 1)).map (store.underRivals rivals) ∧ w.writes = written ∧
      w.session = (World.ofStore session store).session.withRecords
        (written.foldl MemoryStore.apply (store.underRivals rivals (n + 1))) := by
  intro t
  obtain ⟨attempts, result, memory, written, w, hrun, hran⟩ := t.run_ofStore c session
  obtain ⟨n, hn, rfl, hconclusion⟩ := h.conclusion hran.outcome
  refine ⟨n, result, written, w, hn, hconclusion, ?_, hran.readings, hran.writes, hran.session⟩
  have htransact : (transact key (Change.mutation rule)).run (World.contested c rivals)
      (World.ofStore session store) = (result, w) := by
    have hforgetful : (transactWith key (fun (_ : Unit) current =>
        (Change.mutation rule current, ())) 0 maxTransactionAttempts ()).run
          (World.contested c rivals) (World.ofStore session store) =
            (.ok (result, memory), w) := hrun
    unfold transact transactFrom
    rw [run_bind, hforgetful]
    exact run_lift _ result w
  unfold Service.change
  rw [run_bind, run_within, htransact]
  cases result <;> rfl

/-- A service that makes a change by a rule and then announces it reports what has happened. -/
theorem Change.Edits.reports {rule : ρ → Option ρ} {met : ρ → Prop} {edit : ρ → ρ}
    (h : Change.Edits rule met edit) {context : Context} {key : κ}
    {next : Change × Option ρ → Service Change} {events : ρ → List (MachineEvent × String)}
    (hnext : Change.Announces next events) :
    Change.Reports (Service.change context key rule >>= next) key met edit events := by
  intro σ c session store rivals
  obtain ⟨n, result, written, w, hn, hconclusion, hrun, hreadings, hwrites, hsession⟩ :=
    h.run_change context key c session store rivals
  have hrecords :
      w.records = written.foldl MemoryStore.apply (store.underRivals rivals (n + 1)) := by
    rw [World.records, hsession, Session.records_withRecords]
  have hevents : w.session.events = session.events := by
    rw [hsession]
    rfl
  cases hconclusion with
  | @failed f found wanted =>
    refine ⟨n, .error (f.within context), w, hn, by rw [run_bind, hrun]; rfl, hreadings, ?_⟩
    exact {
      updated_iff := ⟨nofun, fun hne => (hne hwrites).elim⟩
      missing_iff := ⟨nofun, fun hnone => (found hnone).elim⟩
      unchanged_iff := ⟨nofun, fun ⟨r, hr, hmet⟩ => (wanted r hr hmet).elim⟩
      updated := nofun
      otherwise := fun _ => ⟨hrecords, hevents⟩ }
  | missing found =>
    obtain ⟨w', hnext', hadds⟩ := hnext.missing c rivals w
    refine ⟨n, .ok .missing, w', hn, by rw [run_bind, hrun]; exact hnext',
      hadds.readings.trans hreadings, ?_⟩
    exact {
      updated_iff := ⟨nofun, fun hne => (hne (hadds.writes.trans hwrites)).elim⟩
      missing_iff := ⟨fun _ => found, fun _ => rfl⟩
      unchanged_iff := ⟨nofun, fun ⟨r, hr, _⟩ => nomatch found.symm.trans hr⟩
      updated := nofun
      otherwise := fun _ => ⟨hadds.records.trans hrecords, by simp [hadds.events, hevents]⟩ }
  | @unchanged r found already =>
    obtain ⟨w', hnext', hadds⟩ := hnext.unchanged c rivals w r
    refine ⟨n, .ok .unchanged, w', hn, by rw [run_bind, hrun]; exact hnext',
      hadds.readings.trans hreadings, ?_⟩
    exact {
      updated_iff := ⟨nofun, fun hne => (hne (hadds.writes.trans hwrites)).elim⟩
      missing_iff := ⟨nofun, fun hnone => nomatch found.symm.trans hnone⟩
      unchanged_iff := ⟨fun _ => ⟨r, found, already⟩, fun _ => rfl⟩
      updated := nofun
      otherwise := fun _ => ⟨hadds.records.trans hrecords, by simp [hadds.events, hevents]⟩ }
  | @updated r found wanted first =>
    obtain ⟨w', hnext', hadds⟩ := hnext.updated c rivals w r
    have hleft : (store.underRivals rivals (n + 1)).read ρ key = .ok (some r) :=
      (Contest.reading_succ_of_first first).trans found
    have hput := hadds.records.trans hrecords
    refine ⟨n, .ok .updated, w', hn, by rw [run_bind, hrun]; exact hnext',
      hadds.readings.trans hreadings, ?_⟩
    exact {
      updated_iff := ⟨fun _ => by simp [hadds.writes, hwrites], fun _ => rfl⟩
      missing_iff := ⟨nofun, fun hnone => nomatch found.symm.trans hnone⟩
      unchanged_iff := ⟨nofun, fun ⟨r', hr', hmet⟩ => by
        cases found.symm.trans hr'
        exact (wanted hmet).elim⟩
      updated := fun _ => ⟨r, wanted,
        ⟨hleft, h.changes r wanted, hput, hput ▸ MemoryStore.read_put_self _ key (edit r)⟩,
        hadds.writes.trans hwrites, by rw [hadds.events, hevents]⟩
      otherwise := fun hne => (hne rfl).elim }

end Reports

/-! ## The five changes -/

/-- **What a service reports of a change is what has happened**: each of the five replaces the record
by an edit of its own members when its condition is not met, reports that as an update, and only then;
and only a mark for deletion reports an event, with the hostname that is stored. -/
theorem changes_are_reported :
    (∀ key, Change.Reports (markForDeletion key) key (fun i : Instance => i.pendingDeletion = true)
      (fun i : Instance => { i with leaseExpiration := none, pendingDeletion := true })
      fun i => [(.deletionProposed, i.hostname)]) ∧
    (∀ key expiration, Change.Reports (setLease key expiration) key
      (fun i : Instance => i.leaseExpiration = expiration)
      (fun i : Instance => { i with leaseExpiration := expiration }) fun _ => []) ∧
    (∀ key project subscription serviceAccount,
      Change.Reports (addSubscription key project subscription serviceAccount) key
        (fun i : Instance => ∃ text, i.subscription = some text ∧ text ≠ "")
        (fun i : Instance => { i with
          pendingMetadataUpdates := i.pendingMetadataUpdates ++
            [Instance.subscriptionUpdate project subscription serviceAccount]
          serviceAccount := some serviceAccount
          subscription := some (subscriptionPath project subscription) }) fun _ => []) ∧
    (∀ key time, Change.Reports (setDeletionTime key time) key
      (fun i : Instance => i.deletionTime ≠ none)
      (fun i : Instance => { i with deletionTime := some time }) fun _ => []) ∧
    (∀ key instances, Change.Reports (setInstances key instances) key
      (fun m : Manager => ∀ k, k ∈ m.instances ↔ k ∈ instances) (fun m => { m with instances })
      fun _ => []) := by
  refine ⟨fun key => ?_, fun key expiration => ?_, fun key project subscription serviceAccount => ?_,
    fun key time => ?_, fun key instances => ?_⟩
  · refine Instance.edits_mark.reports ⟨fun c rivals w => ?_, fun c rivals w i => ?_,
      fun c rivals w i => ?_⟩
    · exact ⟨_, rfl, w.adds_note c rivals (.instanceMissing key)⟩
    · exact ⟨w, rfl, .refl w⟩
    · exact ⟨_, rfl, (w.adds_note c rivals (.markedForDeletion key)).trans
        (World.adds_send c rivals _ .deletionProposed i.hostname)⟩
  · refine (Instance.edits_lease expiration).reports ⟨fun c rivals w => ?_, fun c rivals w i => ?_,
      fun c rivals w i => ?_⟩
    · exact ⟨_, rfl, w.adds_note c rivals (.instanceMissing key)⟩
    · exact ⟨w, rfl, .refl w⟩
    · exact ⟨_, rfl, w.adds_note c rivals (.leaseChanged key i.leaseExpiration expiration)⟩
  · refine (Instance.edits_subscribe project subscription serviceAccount).reports
      ⟨fun c rivals w => ?_, fun c rivals w i => ?_, fun c rivals w i => ?_⟩
    · exact ⟨_, rfl, w.adds_note c rivals (.instanceMissing key)⟩
    · exact ⟨w, rfl, .refl w⟩
    · exact ⟨_, rfl, w.adds_note c rivals (.subscriptionReceived key)⟩
  · refine (Instance.edits_delete time).reports ⟨fun c rivals w => ?_, fun c rivals w i => ?_,
      fun c rivals w i => ?_⟩
    · exact ⟨_, rfl, w.adds_note c rivals (.instanceMissing key)⟩
    · exact ⟨w, rfl, .refl w⟩
    · exact ⟨w, rfl, .refl w⟩
  · refine (Manager.edits_list instances).reports ⟨fun c rivals w => ?_, fun c rivals w m => ?_,
      fun c rivals w m => ?_⟩
    · exact ⟨_, rfl, w.adds_note c rivals (.managerMissing key)⟩
    · exact ⟨w, rfl, .refl w⟩
    · exact ⟨_, rfl, w.adds_note c rivals (.instancesUpdated key instances.length)⟩

end FleetReconciler
