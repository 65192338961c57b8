import FleetReconciler.Proofs.Rely
import FleetReconciler.Store.Transaction

/-!
# Transactions under interference

A transaction reads, decides, and writes on the condition that the version is the one it has read.
As the store only grows, a write that goes through finds the record on which the decision was made,
whatever others have done in between.

* `MemoryStore.read`, `lookup_eq` — the record with a key, and a look-up as one request;
* `Service.attempt`, `transactWith_succ`, `transactFrom_succ` — what one attempt decides from what it
  reads, and a transaction as a loop over attempts;
* `Service.Overtaken` — so many attempts wanted to write and came too late;
* `Service.Outcome`, `transact_meets` — **how a transaction ends among others**: it writes once, on
  the record that is stored at that moment, or not at all.
-/

namespace FleetReconciler

/-! ## Reading -/

/-- The record with a key: none if there is none, a failure if it cannot be decoded. -/
def MemoryStore.read (ρ : Type) {κ : Type} [Entity ρ κ] (s : MemoryStore) (key : κ) :
    Except Failure (Option ρ) :=
  (Service.decodeStored (EntityKey.kind κ) (EntityKey.text key)
    (s.find? (EntityKey.kind κ) (EntityKey.text key))).map Prod.snd

namespace Service

section Reading

variable {ρ κ : Type} [Entity ρ κ]

/-- A value that is not found to be a record is the only reason why a reading fails. -/
theorem decodeStored_error {kind : Kind} {id : String} {found : Option Stored} {f : Failure}
    (h : decodeStored (ρ := ρ) kind id found = .error f) :
    ∃ e, f = .of (.store (.corrupt kind id e)) := by
  cases found with
  | none => cases h
  | some x =>
    simp only [decodeStored, decodeRecord] at h
    cases hd : (Entity.decode x.value : Except DecodeError ρ) with
    | error e =>
      rw [hd] at h
      cases h
      exact ⟨e, rfl⟩
    | ok r =>
      rw [hd] at h
      cases h

theorem read_eq_ok {s : MemoryStore} {key : κ} {current : Option ρ} :
    s.read ρ key = .ok current ↔
      ∃ version, decodeStored (EntityKey.kind κ) (EntityKey.text key)
        (s.find? (EntityKey.kind κ) (EntityKey.text key)) = .ok (version, current) := by
  unfold MemoryStore.read
  cases decodeStored (ρ := ρ) (EntityKey.kind κ) (EntityKey.text key)
      (s.find? (EntityKey.kind κ) (EntityKey.text key)) with
  | error f => simp [Except.map]
  | ok p =>
    obtain ⟨version, found⟩ := p
    simp [Except.map]

theorem read_error {s : MemoryStore} {key : κ} {f : Failure} (h : s.read ρ key = .error f) :
    ∃ e, f = .of (.store (.corrupt (EntityKey.kind κ) (EntityKey.text key) e)) := by
  unfold MemoryStore.read at h
  cases hd : decodeStored (ρ := ρ) (EntityKey.kind κ) (EntityKey.text key)
      (s.find? (EntityKey.kind κ) (EntityKey.text key)) with
  | error g =>
    rw [hd] at h
    cases h
    exact decodeStored_error hd
  | ok p =>
    rw [hd] at h
    cases h

/-- A look-up is one request, and decodes its reply. -/
theorem lookup_eq (key : κ) :
    lookup ρ key =
      (request (.read .lookup (EntityKey.kind κ) (EntityKey.text key)) >>= fun reply =>
        lift reply >>= fun found =>
          lift ((decodeStored (EntityKey.kind κ) (EntityKey.text key) found).map Prod.snd)) := by
  unfold lookup readRecord
  simp only [request, bind_ask, bind_done, bind_assoc]
  congr 1
  funext reply
  cases reply with
  | error f => rfl
  | ok found =>
    simp only [lift_ok_bind]
    cases decodeStored (ρ := ρ) (EntityKey.kind κ) (EntityKey.text key) found <;> rfl

variable {α σ : Type} {c : Cloud σ} {place : Nat} {keep : Nat → List Exchange → Prop}
  {post : Except Failure α → World σ → Prop} {w : World σ}

theorem quiet_lift (r : Except Failure α) : (lift r).Quiet := by
  cases r <;> trivial

theorem quiet_note (n : Notice) : (note n).Quiet := ⟨fun _ _ => rfl, fun _ => trivial⟩

theorem quiet_lookup (key : κ) : (lookup ρ key).Quiet := by
  rw [lookup_eq, request_bind]
  exact ⟨fun _ _ => rfl, fun _ => (quiet_lift _).bind fun _ => quiet_lift _⟩

/-- A look-up among others sees the record of one moment. -/
theorem MeetsAt.lookup {key : κ} {k : Option ρ → Service α} (hkeep : keep place (w.deeds place))
    (h : ∀ w', World.Others place w w' →
      (lift (w'.records.read ρ key) >>= k).MeetsAt c place keep post w') :
    (Service.lookup ρ key >>= k).MeetsAt c place keep post w := by
  rw [lookup_eq, bind_assoc, request_bind]
  refine MeetsAt.ask_quiet (fun _ => rfl) hkeep fun w' hw => ?_
  have := h w' hw
  exact this

end Reading

section Attempts

variable {ρ κ β : Type} [Entity ρ κ] [DecidableEq ρ]

/-- What an attempt of a transaction decides: to end, or to write on the condition of a version. -/
inductive Attempt (ρ β : Type) where
  | stop (result : Except Failure (Committed β))
  | write (version : Nat) (record : ρ) (value : β)

/-- The decision of an attempt from what it has read. -/
def attempt (key : κ) (mutate : Option ρ → Option ρ × β) (found : Option Stored) : Attempt ρ β :=
  match decodeStored (EntityKey.kind κ) (EntityKey.text key) found with
  | .error f => .stop (.error f)
  | .ok (version, current) =>
    match nextRecord key current (mutate current).1 with
    | .error f => .stop (.error f)
    | .ok none => .stop (.ok ⟨(mutate current).2, false⟩)
    | .ok (some r) => .write version r (mutate current).2

/-- What a mutation remembers after an attempt: it is applied only where the reading succeeds. -/
def remembered {γ : Type} (mutate : γ → Option ρ → (Option ρ × β) × γ) (memory : γ) :
    Except Failure (Option ρ) → γ
  | .error _ => memory
  | .ok current => (mutate memory current).2

/-- **A transaction is a loop over attempts**, each with what the last ones remember. -/
theorem transactWith_succ {γ : Type} (key : κ) (mutate : γ → Option ρ → (Option ρ × β) × γ)
    (overtaken left : Nat) (memory : γ) :
    transactWith key mutate overtaken (left + 1) memory =
      (request (.read (.transaction overtaken) (EntityKey.kind κ) (EntityKey.text key)) >>=
        fun reply => match reply with
        | .error f => done (.error f, memory)
        | .ok found =>
          let reading := (decodeStored (EntityKey.kind κ) (EntityKey.text key) found).map Prod.snd
          let memory' := remembered mutate memory reading
          match attempt key (fun current => (mutate memory current).1) found with
          | .stop r => done (r, memory')
          | .write version record value =>
            request (.commit (EntityKey.kind κ) (EntityKey.text key) version
              (Entity.stored record)) >>= fun reply =>
                if reply then request .save >>= fun saved =>
                  done (saved.map fun _ => ⟨value, true⟩, memory')
                else transactWith key mutate (overtaken + 1) left memory') := by
  rw [transactWith]
  simp only [readRecord, request, bind_ask, bind_done, result]
  congr 1
  funext reply
  cases reply with
  | error f => rfl
  | ok found =>
    simp only [attempt, lift_ok_bind]
    cases decodeStored (ρ := ρ) (EntityKey.kind κ) (EntityKey.text key) found with
    | error f => rfl
    | ok p =>
      obtain ⟨version, current⟩ := p
      simp only [lift, result, bind_done, Except.map, remembered]
      cases nextRecord key current (mutate memory current).1.1 with
      | error f => rfl
      | ok next =>
        cases next with
        | none => rfl
        | some r => rfl

/-- The same for a mutation that remembers nothing. -/
theorem transactFrom_succ (key : κ) (mutate : Option ρ → Option ρ × β) (overtaken left : Nat) :
    transactFrom key mutate overtaken (left + 1) =
      (request (.read (.transaction overtaken) (EntityKey.kind κ) (EntityKey.text key)) >>=
        fun reply => lift reply >>= fun found =>
          match attempt key mutate found with
          | .stop r => lift r
          | .write version record value =>
            request (.commit (EntityKey.kind κ) (EntityKey.text key) version
              (Entity.stored record)) >>= fun reply =>
                if reply then request .save >>= fun saved => lift saved >>= fun _ =>
                  done ⟨value, true⟩
                else transactFrom key mutate (overtaken + 1) left) := by
  rw [transactFrom, transactWith_succ]
  simp only [bind_assoc]
  congr 1
  funext reply
  cases reply with
  | error f => rfl
  | ok found =>
    simp only [lift_ok_bind]
    cases attempt key mutate found with
    | stop r => rfl
    | write version record value =>
      simp only [bind_assoc]
      congr 1
      funext reply
      cases reply with
      | false => rfl
      | true =>
        simp only [if_true, bind_assoc]
        congr 1
        funext saved
        cases saved <;> rfl

/-- An attempt writes when it has decoded what it read and the mutation gives another record with
the key of the transaction. -/
theorem attempt_eq_write {key : κ} {mutate : Option ρ → Option ρ × β} {found : Option Stored}
    {version : Nat} {record : ρ} {value : β} :
    attempt key mutate found = .write version record value ↔
      ∃ current,
        decodeStored (EntityKey.kind κ) (EntityKey.text key) found = .ok (version, current) ∧
        mutate current = (some record, value) ∧ some record ≠ current ∧
        EntityKey.components (Entity.key record) = EntityKey.components key := by
  constructor
  · intro h
    unfold attempt at h
    split at h
    · cases h
    · rename_i version' current hdecode
      cases hm : mutate current with
      | mk next value' =>
        simp only [hm, nextRecord] at h
        by_cases hn : next = current
        · simp [hn] at h
        · cases next with
          | none => simp [hn] at h
          | some r =>
            by_cases hk : EntityKey.components (Entity.key r) = EntityKey.components key
            · simp only [if_neg hn, if_pos hk, Attempt.write.injEq] at h
              obtain ⟨rfl, rfl, rfl⟩ := h
              exact ⟨current, hdecode, hm, hn, hk⟩
            · simp [hn, hk] at h
  · rintro ⟨current, hdecode, hm, hn, hk⟩
    simp [attempt, hdecode, hm, nextRecord, hn, hk]

/-- An attempt ends well when the mutation leaves what it has decoded as it is. -/
theorem attempt_eq_stop_ok {key : κ} {mutate : Option ρ → Option ρ × β} {found : Option Stored}
    {result : Committed β} :
    attempt key mutate found = .stop (.ok result) ↔
      ∃ version current,
        decodeStored (EntityKey.kind κ) (EntityKey.text key) found = .ok (version, current) ∧
          (mutate current).1 = current ∧ result = ⟨(mutate current).2, false⟩ := by
  constructor
  · intro h
    unfold attempt at h
    split at h
    · cases h
    · rename_i version current hdecode
      by_cases hn : (mutate current).1 = current
      · simp only [nextRecord, if_pos hn, Attempt.stop.injEq, Except.ok.injEq] at h
        exact ⟨version, current, hdecode, hn, h.symm⟩
      · simp only [nextRecord, if_neg hn] at h
        cases hnext : (mutate current).1 with
        | none => simp [hnext] at h
        | some r =>
          by_cases hk : EntityKey.components (Entity.key r) = EntityKey.components key
          · simp [hnext, hk] at h
          · simp [hnext, hk] at h
  · rintro ⟨version, current, hdecode, hn, rfl⟩
    simp [attempt, hdecode, nextRecord, hn]

/-- The version with which an attempt wants to write is that of the record it has read. -/
theorem version_of_attempt {key : κ} {mutate : Option ρ → Option ρ × β} {s : MemoryStore}
    {version : Nat} {record : ρ} {value : β}
    (h : attempt key mutate (s.find? (EntityKey.kind κ) (EntityKey.text key)) =
      .write version record value) :
    version = s.version (EntityKey.kind κ) (EntityKey.text key) := by
  obtain ⟨current, hdecode, -⟩ := attempt_eq_write.1 h
  unfold MemoryStore.version
  cases hf : s.find? (EntityKey.kind κ) (EntityKey.text key) with
  | none =>
    rw [hf] at hdecode
    cases hdecode
    rfl
  | some x =>
    rw [hf] at hdecode
    simp only [decodeStored] at hdecode
    cases hd : decodeRecord (ρ := ρ) (EntityKey.kind κ) (EntityKey.text key) x.value with
    | error f => rw [hd] at hdecode; cases hdecode
    | ok r =>
      rw [hd] at hdecode
      cases hdecode
      rfl

/-- The exchange of a commit that goes through. -/
def committed (key : κ) (s : MemoryStore) (version : Nat) (record : ρ) : Exchange :=
  ⟨s, .commit (EntityKey.kind κ) (EntityKey.text key) version (Entity.stored record), true⟩

/-- Between two moments so many attempts wanted to write and found that another had written. -/
inductive Overtaken (key : κ) (mutate : Option ρ → Option ρ × β) :
    Nat → MemoryStore → MemoryStore → Prop
  | start {s t : MemoryStore} (grows : s.Grows t) : Overtaken key mutate 0 s t
  | again {n : Nat} {s t u : MemoryStore} {version : Nat} {record : ρ} {value : β}
      (before : Overtaken key mutate n s t)
      (decision : attempt key mutate (t.find? (EntityKey.kind κ) (EntityKey.text key)) =
        .write version record value)
      (grows : t.Grows u)
      (late : t.version (EntityKey.kind κ) (EntityKey.text key) <
        u.version (EntityKey.kind κ) (EntityKey.text key)) :
      Overtaken key mutate (n + 1) s u

theorem Overtaken.later {key : κ} {mutate : Option ρ → Option ρ × β} {n : Nat}
    {s t u : MemoryStore} (h : Overtaken key mutate n s t) (grows : t.Grows u) :
    Overtaken key mutate n s u := by
  cases h with
  | start h => exact .start (h.trans grows)
  | again before decision h late =>
    exact .again before decision (h.trans grows) (Nat.lt_of_lt_of_le late (grows _ _).1)

theorem Overtaken.grows {key : κ} {mutate : Option ρ → Option ρ × β} {n : Nat} {s t : MemoryStore}
    (h : Overtaken key mutate n s t) : s.Grows t := by
  induction h with
  | start h => exact h
  | again _ _ h _ ih => exact ih.trans h

/-- How a transaction that starts on a store with some deeds behind it ends among others. -/
inductive Outcome (key : κ) (mutate : Option ρ → Option ρ × β) (s : MemoryStore)
    (deeds : List Exchange) :
    Except Failure (Committed β) → MemoryStore → List Exchange → Prop
  /-- An attempt has nothing to write or fails. -/
  | stopped {n : Nat} {t u : MemoryStore} {result : Except Failure (Committed β)}
      (tries : n < maxTransactionAttempts) (before : Overtaken key mutate n s t)
      (decision : attempt key mutate (t.find? (EntityKey.kind κ) (EntityKey.text key)) =
        .stop result)
      (grows : t.Grows u) : Outcome key mutate s deeds result u deeds
  /-- An attempt writes on the record that is stored at that moment. -/
  | wrote {n : Nat} {t u : MemoryStore} {version : Nat} {record : ρ} {value : β}
      (tries : n < maxTransactionAttempts) (before : Overtaken key mutate n s t)
      (decision : attempt key mutate (t.find? (EntityKey.kind κ) (EntityKey.text key)) =
        .write version record value)
      (grows : (t.put (EntityKey.kind κ) (EntityKey.text key) (Entity.stored record)).Grows u) :
      Outcome key mutate s deeds (.ok ⟨value, true⟩) u (deeds ++ [committed key t version record])
  /-- Every attempt was overtaken. -/
  | gaveUp {t : MemoryStore} (before : Overtaken key mutate maxTransactionAttempts s t) :
      Outcome key mutate s deeds
        (.error (.of (.store (.contention (EntityKey.kind κ) (EntityKey.text key)
          maxTransactionAttempts)))) t deeds

theorem Outcome.later {key : κ} {mutate : Option ρ → Option ρ × β} {s t u : MemoryStore}
    {deeds deeds' : List Exchange} {result : Except Failure (Committed β)}
    (h : Outcome key mutate s deeds result t deeds') (grows : t.Grows u) :
    Outcome key mutate s deeds result u deeds' := by
  cases h with
  | stopped tries before decision h => exact .stopped tries before decision (h.trans grows)
  | wrote tries before decision h => exact .wrote tries before decision (h.trans grows)
  | gaveUp before => exact .gaveUp (before.later grows)

end Attempts

/-! ## Transactions at a place of a crowd -/

section Crowds

variable {ρ κ β σ : Type} [Entity ρ κ] [DecidableEq ρ] {c : Cloud σ} {place : Nat}
  {keep : Nat → List Exchange → Prop}

/-- What a place meets that has come to the end of a transaction. -/
def Ended (place : Nat) (key : κ) (mutate : Option ρ → Option ρ × β) (s : MemoryStore)
    (deeds : List Exchange) (result : Except Failure (Committed β)) (w : World σ) : Prop :=
  w.session.InMemory ∧ Outcome key mutate s deeds result w.records (w.deeds place)

theorem Ended.later {key : κ} {mutate : Option ρ → Option ρ × β} {s : MemoryStore}
    {deeds : List Exchange} {result : Except Failure (Committed β)} {w w' : World σ}
    (h : Ended place key mutate s deeds result w) (hw : World.Others place w w') :
    Ended place key mutate s deeds result w' :=
  ⟨hw.inMemory h.1, hw.deeds ▸ h.2.later hw.grows⟩

/-- In memory a save succeeds. -/
theorem MeetsAt.save {α : Type} {a : α} {post : Except Failure α → World σ → Prop} {w : World σ}
    (hm : w.session.InMemory) (hkeep : keep place (w.deeds place))
    (h : ∀ w', World.Others place w w' → post (.ok a) w') :
    (request .save >>= fun reply => lift reply >>= fun _ => done a).MeetsAt c place keep post
      w := by
  rw [request_bind]
  refine MeetsAt.ask_quiet (fun _ => rfl) hkeep fun w₁ hw₁ => ?_
  have hsave : (w₁.serve c place .save).1 = .ok () := by
    show w₁.session.save.1 = _
    rw [(hw₁.inMemory hm).save]
  rw [hsave, lift_ok_bind]
  exact fun w₂ hw₂ => h w₂ (hw₁.trans hw₂)

theorem transactFrom_meets (key : κ) (mutate : Option ρ → Option ρ × β) {s : MemoryStore}
    {deeds : List Exchange} (hkeep : keep place deeds)
    (hwrite : ∀ t version record value,
      attempt key mutate (t.find? (EntityKey.kind κ) (EntityKey.text key)) =
        .write version record value →
      keep place (deeds ++ [committed key t version record])) :
    ∀ (left n : Nat) (w : World σ), n + left = maxTransactionAttempts → w.session.InMemory →
      w.deeds place = deeds → Overtaken key mutate n s w.records →
      (transactFrom key mutate n left).MeetsAt c place keep (Ended place key mutate s deeds) w
  | 0, n, w, hn, hm, hd, ho => by
    intro w' hw
    obtain rfl : n = maxTransactionAttempts := by omega
    exact ⟨hw.inMemory hm, by rw [hw.deeds, hd]; exact .gaveUp (ho.later hw.grows)⟩
  | left + 1, n, w, hn, hm, hd, ho => by
    rw [transactFrom_succ, request_bind]
    refine MeetsAt.ask_quiet (fun _ => rfl) (hd ▸ hkeep) fun w₁ hw₁ => ?_
    have ho₁ := ho.later hw₁.grows
    have hd₁ : w₁.deeds place = deeds := hw₁.deeds.trans hd
    -- the reply is what is stored at this moment
    show (lift (.ok (w₁.records.find? _ _)) >>= _ : Service _).MeetsAt c place keep _ w₁
    rw [lift_ok_bind]
    split
    · rename_i result hstop
      have hend : ∀ w₂, World.Others place w₁ w₂ → Ended place key mutate s deeds result w₂ :=
        fun w₂ hw₂ => ⟨hw₂.inMemory (hw₁.inMemory hm), by
          rw [hw₂.deeds, hd₁]; exact .stopped (by omega) ho₁ hstop hw₂.grows⟩
      cases result with
      | ok v => exact hend
      | error f => exact hend
    · rename_i version record value hdecision
      rw [request_bind]
      refine MeetsAt.ask_deed fun w₂ hw₂ => ?_
      have hm₂ := hw₂.inMemory (hw₁.inMemory hm)
      have hd₂ : w₂.deeds place = deeds := hw₂.deeds.trans hd₁
      have hversion := version_of_attempt hdecision
      by_cases hv : w₂.records.version (EntityKey.kind κ) (EntityKey.text key) = version
      · -- nobody has written since, so the decision is that of the record stored now
        have hfound := hw₂.grows.find?_eq (hv.trans hversion)
        rw [← hfound] at hdecision
        obtain ⟨hreply, hdeeds, hrecords⟩ :=
          World.serve_commit_in_time c place (Entity.stored record) hv
        rw [hd₂] at hdeeds
        have hkeep' := hwrite w₂.records version record value hdecision
        rw [hreply, if_pos rfl, hdeeds]
        have hm₃ := World.inMemory_serve hm₂ c place
          (.commit (EntityKey.kind κ) (EntityKey.text key) version (Entity.stored record))
        refine ⟨hkeep', MeetsAt.save hm₃ (hdeeds ▸ hkeep') fun w₃ hw₃ => ⟨hw₃.inMemory hm₃, ?_⟩⟩
        rw [hw₃.deeds, hdeeds]
        exact .wrote (by omega) (ho₁.later hw₂.grows) hdecision (hrecords ▸ hw₃.grows)
      · obtain ⟨hreply, hothers⟩ := World.serve_commit_late c place (Entity.stored record) hv
        rw [hreply, if_neg (by simp), hothers.deeds, hd₂]
        have hlate : w₁.records.version (EntityKey.kind κ) (EntityKey.text key) <
            w₂.records.version (EntityKey.kind κ) (EntityKey.text key) := by
          have := (hw₂.grows (EntityKey.kind κ) (EntityKey.text key)).1
          omega
        have hagain : Overtaken key mutate (n + 1) s w₂.records :=
          .again ho₁ hdecision hw₂.grows hlate
        exact ⟨hkeep, transactFrom_meets key mutate hkeep hwrite left (n + 1) _ (by omega)
          (hothers.inMemory hm₂) (hothers.deeds.trans hd₂) (hagain.later hothers.grows)⟩

/-- **How a transaction ends among others.** -/
theorem transact_meets (key : κ) (mutate : Option ρ → Option ρ × β) {w : World σ}
    (hm : w.session.InMemory) (hkeep : keep place (w.deeds place))
    (hwrite : ∀ t version record value,
      attempt key mutate (t.find? (EntityKey.kind κ) (EntityKey.text key)) =
        .write version record value →
      keep place (w.deeds place ++ [committed key t version record])) :
    (transact key mutate).MeetsAt c place keep
      (Ended place key mutate w.records (w.deeds place)) w :=
  transactFrom_meets key mutate hkeep hwrite maxTransactionAttempts 0 w (by omega) hm rfl
    (.start (.refl _))

/-- What follows a transaction goes on from its end. -/
theorem MeetsAt.transact {α : Type} {context : Context} {key : κ}
    {mutate : Option ρ → Option ρ × β} {k : Committed β → Service α}
    {post : Except Failure α → World σ → Prop} {w : World σ} (hm : w.session.InMemory)
    (hkeep : keep place (w.deeds place))
    (hwrite : ∀ t version record value,
      attempt key mutate (t.find? (EntityKey.kind κ) (EntityKey.text key)) =
        .write version record value →
      keep place (w.deeds place ++ [committed key t version record]))
    (h : ∀ result w', Ended place key mutate w.records (w.deeds place) result w' →
      (lift (inContext context result) >>= k).MeetsAt c place keep post w') :
    (within context (Service.transact key mutate) >>= k).MeetsAt c place keep post w := by
  have hwithin : (within context (Service.transact key mutate)).MeetsAt c place keep
      (fun result w' => (lift result >>= k).MeetsAt c place keep post w') w :=
    (transact_meets key mutate hm hkeep hwrite).within (fun v w' hend => h (.ok v) w' hend)
      (fun f w' hend => h (.error f) w' hend)
  exact hwithin.bind (fun v w' hv => hv) (fun f w' hf => hf w' (.refl place w'))

end Crowds

end Service

end FleetReconciler
