import FleetReconciler.Proofs.Consistency
import FleetReconciler.Proofs.Gather

/-!
# Faults of the store

A service fails with a fault of the store when it meets a value that is no record, makes a record
with another key than that of its transaction, or leaves none where there was one. On a consistent
store none of this happens, whatever the cloud answers and in whatever order the services work.

* `Failure.IsFault` — the failures in question;
* `Request.Sane`, `Replies` — what a consistent store in memory may answer;
* `Service.Faultless` — a service that meets no fault as long as the answers are such;
* `KeepsKey`, `transact_faultless` — **a transaction whose mutation keeps the key is faultless**;
-/

namespace FleetReconciler

open Service

/-- Whether a failure is a fault of the store. -/
def Failure.IsFault (f : Failure) : Prop :=
  match f.cause with
  | .store (.keyMismatch ..) | .store (.corrupt ..) | .removal .. => True
  | _ => False

/-! ## Answers -/

/-- An answer that a consistent store in memory may give. What others answer may be anything. -/
def Request.Sane : (r : Request) → r.Reply → Prop
  | .read _ kind id, reply => ∃ s : MemoryStore, s.Consistent ∧ reply = .ok (s.find? kind id)
  | .scan kind, reply => ∃ s : MemoryStore, s.Consistent ∧ reply = .ok (s.rows kind)
  | .save, reply => reply = .ok ()
  | .enqueue _, reply => ∀ f, reply = .error f → ¬ f.IsFault
  | _, _ => True

/-- Answers to all requests. -/
structure Replies where
  answer : (r : Request) → r.Reply
  sane : ∀ r : Request, r.Sane (answer r)

/-- The terms on which a service gets sane answers, and others to every request. -/
def Replies.terms : Terms Replies where
  perform r s := (s.answer r, s)
  rely _ _ := True
  guarantee _ _ := True
  refl _ := trivial
  trans _ _ := trivial

/-- A session in memory with a consistent store gives sane answers. -/
theorem Session.sane_perform {σ : Type} (c : Cloud σ) {session : Session σ}
    (hm : session.InMemory) (h : session.records.Consistent) (r : Request) :
    r.Sane (session.perform c r).1 := by
  cases r with
  | read purpose kind id => exact ⟨session.records, h, rfl⟩
  | scan kind => exact ⟨session.records, h, rfl⟩
  | save => exact congrArg Prod.fst hm.save
  | enqueue t =>
    intro f hf
    simp only [Session.perform, Session.enqueue] at hf
    split at hf
    · cases hf
      exact id
    · cases hf
  | _ => trivial

/-- The answers of a session in memory with a consistent store. -/
def Replies.ofSession {σ : Type} (c : Cloud σ) {session : Session σ} (hm : session.InMemory)
    (h : session.records.Consistent) : Replies :=
  ⟨fun r => (session.perform c r).1, session.sane_perform c hm h⟩

/-! ## Faultless services -/

namespace Service

variable {α β : Type}

/-- As long as the answers are sane, the service meets no fault of the store. -/
def Faultless (service : Service α) : Prop :=
  ∀ s : Replies, service.Meets Replies.terms (fun r _ => ∀ f, r = .error f → ¬ f.IsFault) s

namespace Faultless

theorem done (a : α) : (Service.done a).Faultless := fun _ _ _ _ => nofun

theorem pure (a : α) : (Pure.pure a : Service α).Faultless := done a

theorem fail {f : Failure} (h : ¬ f.IsFault) : (Service.fail f : Service α).Faultless := by
  intro _ _ _ g hg
  cases hg
  exact h

theorem lift {r : Except Failure α} (h : ∀ f, r = .error f → ¬ f.IsFault) :
    (Service.lift r).Faultless := by
  cases r with
  | ok a => exact done a
  | error f => exact fail (h f rfl)

theorem ask {r : Request} {next : r.Reply → Service α}
    (h : ∀ reply, r.Sane reply → (next reply).Faultless) : (Service.ask r next).Faultless :=
  fun _ t _ => ⟨trivial, h _ (t.sane r) t⟩

theorem bind {service : Service α} {k : α → Service β} (h : service.Faultless)
    (hk : ∀ a, (k a).Faultless) : (service >>= k).Faultless :=
  fun s => (h s).bind (fun a t _ => hk a t) fun f _ hf t ht => by
    cases ht
    exact hf f rfl

theorem within {service : Service α} (h : service.Faultless) (context : Context) :
    (service.within context).Faultless :=
  fun s => (h s).within (fun _ _ _ => nofun) fun f _ hf t ht => by
    cases ht
    exact hf f rfl

/-- What comes after a sane answer is faultless. -/
theorem next {r : Request} {k : r.Reply → Service α} (h : (Service.ask r k).Faultless)
    (t : Replies) : (k (t.answer r)).Faultless :=
  fun _ => Meets.later (s := t) ((h t t trivial).2) trivial

theorem enqueue (t : Task) : (Service.enqueue t).Faultless :=
  ask fun _ hreply => (lift hreply).within _

end Faultless

/-! ### Reading -/

/-- A type of records of which a consistent store holds what decodes and lies under its own key. -/
class Filed (ρ : Type) {κ : Type} [Entity ρ κ] : Prop extends LawfulKey κ where
  each : ∀ {s : MemoryStore}, s.Consistent → s.Each ρ fun _ => True

instance : Filed Template := ⟨fun h => h.templates⟩

instance : Filed Revision := ⟨fun h => h.revisions⟩

instance : Filed Manager := ⟨fun h => h.managers.mono fun _ _ => trivial⟩

instance : Filed Instance := ⟨fun h => h.instances.mono fun _ _ => trivial⟩

section Records

variable {ρ κ : Type} [Entity ρ κ] [Filed ρ] {s : MemoryStore}

/-- In a consistent store every reading succeeds and gives a record with the key. -/
theorem decodeStored_of_consistent (h : s.Consistent) (key : κ) :
    ∃ version current, decodeStored (EntityKey.kind κ) (EntityKey.text key)
        (s.find? (EntityKey.kind κ) (EntityKey.text key)) = .ok (version, current) ∧
      ∀ r : ρ, current = some r → Entity.key r = key := by
  cases hx : s.find? (EntityKey.kind κ) (EntityKey.text key) with
  | none => exact ⟨0, none, rfl, nofun⟩
  | some x =>
    have heach : s.Each ρ fun _ => True := Filed.each h
    obtain ⟨r, hdecode, hkey, -⟩ := heach.find? hx
    refine ⟨x.version, some r, ?_, fun r' hr' => Option.some.inj hr' ▸ hkey⟩
    simp [decodeStored, decodeRecord, hdecode, Except.mapError, pure, Except.pure]

theorem lookup_faultless (key : κ) : (lookup ρ key).Faultless := by
  rw [lookup_eq, request_bind]
  refine .ask fun reply hreply => ?_
  obtain ⟨s, hs, rfl⟩ := hreply
  obtain ⟨version, current, hdecode, -⟩ := decodeStored_of_consistent (ρ := ρ) hs key
  simp only [lift_ok_bind, hdecode, Except.map]
  exact .done current

omit [Filed ρ] in
theorem mapM_decodeRecord {kind : Kind} {rows : List (String × Json)}
    (h : ∀ row ∈ rows, ∃ r : ρ, Entity.decode row.2 = .ok r) :
    ∃ rs : List ρ, rows.mapM (fun (id, value) => decodeRecord kind id value) = .ok rs := by
  induction rows with
  | nil => exact ⟨[], rfl⟩
  | cons row rows ih =>
    obtain ⟨r, hr⟩ := h row List.mem_cons_self
    obtain ⟨rs, hrs⟩ := ih fun row' hrow' => h row' (List.mem_cons_of_mem _ hrow')
    refine ⟨r :: rs, ?_⟩
    rw [List.mapM_cons, hrs]
    simp [decodeRecord, hr, Except.mapError, pure, Except.pure]

theorem records_faultless : (records ρ : Service (List ρ)).Faultless := by
  refine .ask fun reply hreply => ?_
  obtain ⟨s, hs, rfl⟩ := hreply
  have heach : s.Each ρ fun _ => True := Filed.each hs
  obtain ⟨rs, hrs⟩ : ∃ rs : List ρ, (s.rows (EntityKey.kind κ)).mapM (fun (id, value) =>
      decodeRecord (EntityKey.kind κ) id value) = .ok rs := mapM_decodeRecord fun row hrow => by
    obtain ⟨r, hr, -⟩ := heach row hrow
    exact ⟨r, hr⟩
  show (lift ((s.rows (EntityKey.kind κ)).mapM fun (id, value) =>
    decodeRecord (EntityKey.kind κ) id value) : Service (List ρ)).Faultless
  rw [hrs]
  exact .done rs

end Records

/-! ### Transactions -/

section Transactions

variable {ρ κ : Type} [Entity ρ κ] [DecidableEq ρ]

/-- A mutation that leaves a record where there is one, and gives records with the key only. -/
def KeepsKey (key : κ) (mutate : Option ρ → Option ρ × β) : Prop :=
  ∀ current, (∀ r, current = some r → Entity.key r = key) →
    ((mutate current).1 = none → current = none) ∧
      ∀ r, (mutate current).1 = some r → Entity.key r = key

/-- An attempt on what a consistent store holds does not fail. -/
theorem attempt_ne_error [Filed ρ] {key : κ} {mutate : Option ρ → Option ρ × β}
    (keeps : KeepsKey key mutate) {s : MemoryStore} (h : s.Consistent) (f : Failure) :
    attempt key mutate (s.find? (EntityKey.kind κ) (EntityKey.text key)) ≠ .stop (.error f) := by
  obtain ⟨version, current, hdecode, hkey⟩ := decodeStored_of_consistent (ρ := ρ) h key
  obtain ⟨hnone, hsome⟩ := keeps current hkey
  simp only [attempt, hdecode, nextRecord]
  by_cases hsame : (mutate current).1 = current
  · simp [hsame]
  · cases hnext : (mutate current).1 with
    | none => exact (hsame (hnext.trans (hnone hnext).symm)).elim
    | some r =>
      have hr := hsome r hnext
      rw [hnext] at hsame
      simp [hsame, hr]

theorem transactFrom_faultless [Filed ρ] {key : κ} {mutate : Option ρ → Option ρ × β}
    (keeps : KeepsKey key mutate) :
    ∀ left overtaken, (transactFrom key mutate overtaken left).Faultless
  | 0, overtaken => .fail id
  | left + 1, overtaken => by
    rw [transactFrom_succ, request_bind]
    refine .ask fun reply hreply => ?_
    obtain ⟨s, hs, rfl⟩ := hreply
    rw [lift_ok_bind]
    cases hattempt : attempt key mutate (s.find? (EntityKey.kind κ) (EntityKey.text key)) with
    | stop result =>
      exact .lift fun f hf => (attempt_ne_error keeps hs f (hf ▸ hattempt)).elim
    | write version record value =>
      refine .ask fun done _ => ?_
      show (if done = true then _ else _ : Service (Committed β)).Faultless
      split
      · refine .ask fun saved hsaved => ?_
        rw [show saved = .ok () from hsaved]
        exact .done _
      · exact transactFrom_faultless keeps left (overtaken + 1)

/-- **A transaction whose mutation keeps the key is faultless.** -/
theorem transact_faultless [Filed ρ] {key : κ} {mutate : Option ρ → Option ρ × β}
    (keeps : KeepsKey key mutate) : (transact key mutate).Faultless :=
  transactFrom_faultless keeps maxTransactionAttempts 0

/-- A change whose rule leaves the key alone is faultless. -/
theorem change_faultless [Filed ρ] (context : Context) (key : κ) {rule : ρ → Option ρ}
    (hrule : ∀ r r', rule r = some r' → Entity.key r' = Entity.key r) :
    (Service.change context key rule).Faultless := by
  have hkeeps : KeepsKey key (Change.mutation rule) := by
    intro current hkey
    cases current with
    | none => exact ⟨fun _ => rfl, nofun⟩
    | some r =>
      have hr := hkey r rfl
      cases hnext : rule r with
      | none => simp [Change.mutation, hnext, hr]
      | some r' => simp [Change.mutation, hnext, hrule r r' hnext, hr]
  exact ((transact_faultless hkeeps).within context).bind fun _ => .pure _

end Transactions

end Service

end FleetReconciler
