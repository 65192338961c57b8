import FleetReconciler.Proofs.Journal

/-!
# What a service goes through

A service that has ended has asked for one thing after another and was answered each time. Among
others these exchanges are spread over the history of a crowd, and anybody may write between two of
them. What the exchanges of a service tell about it, they tell wherever it has run.

* `Service.Yields` — a service ends with a result after some exchanges; `Yields.of_bind` parts those
  of one service after another;
* `Service.Asks` — all requests of a service are of some sort;
* `Exchange.Genuine`, `Amid`, `Unbroken` — exchanges with sessions in memory, on a store to which
  others write, and on one to which they do not;
* `MeetsAt.of_yields` — what a service meets at a place of any crowd, it meets after its exchanges;
* `Service.Closing`, `Service.closing_of_yields` — **how the exchanges of a transaction end**;
* `Session.exists_yields` — every service that has run alone has gone through exchanges;
* `Crowd.Traced`, `Crowd.exists_whole` — **what a service of a crowd has gone through is the
  beginning of its exchanges to the end**, and all of them where it has ended.
-/

namespace FleetReconciler

variable {σ α β : Type}

namespace Service

/-! ## Exchanges and results -/

/-- The service asks for these things one after another, is answered so, and ends with the result.
-/
inductive Yields : Service α → List Exchange → Except Failure α → Prop
  | done (a : α) : Yields (done a) [] (.ok a)
  | fail (f : Failure) : Yields (fail f) [] (.error f)
  | ask {r : Request} {next : r.Reply → Service α} {records : MemoryStore} {reply : r.Reply}
      {es : List Exchange} {result : Except Failure α} (rest : (next reply).Yields es result) :
      Yields (ask r next) (⟨records, r, reply⟩ :: es) result

variable {service : Service α} {es : List Exchange}

/-- One service after another: the first has failed, or the second has followed it. -/
theorem Yields.of_bind {k : α → Service β} {result : Except Failure β}
    (h : (service >>= k).Yields es result) :
    (∃ before after a, es = before ++ after ∧ service.Yields before (.ok a) ∧
      (k a).Yields after result) ∨
    ∃ f, service.Yields es (.error f) ∧ result = .error f := by
  induction service generalizing es with
  | done a => exact .inl ⟨[], es, a, rfl, .done a, h⟩
  | fail f =>
    rw [bind_fail] at h
    cases h
    exact .inr ⟨f, .fail f, rfl⟩
  | ask r next ih =>
    rw [bind_ask] at h
    cases h with
    | ask rest =>
      rcases ih _ rest with ⟨before, after, a, rfl, hfirst, hsecond⟩ | ⟨f, hfirst, hresult⟩
      · exact .inl ⟨_ :: before, after, a, rfl, .ask hfirst, hsecond⟩
      · exact .inr ⟨f, .ask hfirst, hresult⟩

/-- A service whose value only changes its form. -/
theorem Yields.of_map {f : α → β} {result : Except Failure β}
    (h : (service >>= fun a => pure (f a)).Yields es result) :
    ∃ inner, service.Yields es inner ∧ result = inner.map f := by
  rcases Yields.of_bind h with ⟨before, after, a, rfl, hfirst, hlast⟩ | ⟨e, hfirst, rfl⟩
  · cases hlast
    rw [List.append_nil]
    exact ⟨.ok a, hfirst, rfl⟩
  · exact ⟨.error e, hfirst, rfl⟩

theorem Yields.error_of_map {g : α → β} {f : Failure}
    (h : (service >>= fun a => pure (g a)).Yields es (.error f)) :
    service.Yields es (.error f) := by
  obtain ⟨inner, hservice, hinner⟩ := Yields.of_map h
  cases inner with
  | ok a => cases hinner
  | error e =>
    cases hinner
    exact hservice

theorem Yields.of_within {context : Context} {result : Except Failure α}
    (h : (service.within context).Yields es result) :
    ∃ inner, service.Yields es inner ∧ result = inContext context inner := by
  induction service generalizing es with
  | done a =>
    cases h
    exact ⟨_, .done a, rfl⟩
  | fail f =>
    cases h
    exact ⟨_, .fail f, rfl⟩
  | ask r next ih =>
    cases h with
    | ask rest =>
      obtain ⟨inner, hinner, hresult⟩ := ih _ rest
      exact ⟨inner, .ask hinner, hresult⟩

/-- A service whose result is taken as a value. -/
theorem Yields.of_result {result : Except Failure (Except Failure α)}
    (h : service.result.Yields es result) :
    ∃ inner, service.Yields es inner ∧ result = .ok inner := by
  induction service generalizing es with
  | done a =>
    cases h
    exact ⟨_, .done a, rfl⟩
  | fail f =>
    cases h
    exact ⟨_, .fail f, rfl⟩
  | ask r next ih =>
    cases h with
    | ask rest =>
      obtain ⟨inner, hinner, hresult⟩ := ih _ rest
      exact ⟨inner, .ask hinner, hresult⟩

theorem Yields.of_lift {r result : Except Failure α} (h : (lift r).Yields es result) :
    es = [] ∧ result = r := by
  cases r <;> cases h <;> exact ⟨rfl, rfl⟩

/-- A change is the transaction with its mutation. -/
theorem Yields.of_change {ρ κ : Type} [Entity ρ κ] [DecidableEq ρ] {context : Context} {key : κ}
    {rule : ρ → Option ρ} {result : Except Failure (Change × Option ρ)}
    (h : (change context key rule).Yields es result) :
    ∃ inner, (transact key (Change.mutation rule)).Yields es inner ∧
      result = (inContext context inner).map Committed.value := by
  obtain ⟨outer, hwithin, rfl⟩ := Yields.of_map h
  obtain ⟨inner, htransact, rfl⟩ := Yields.of_within hwithin
  exact ⟨inner, htransact, rfl⟩

/-- A look-up is one exchange, whose reply is decoded. -/
theorem Yields.of_lookup {ρ κ : Type} [Entity ρ κ] {key : κ} {result : Except Failure (Option ρ)}
    (h : (lookup ρ key).Yields es result) :
    ∃ records reply,
      es = [⟨records, .read .lookup (EntityKey.kind κ) (EntityKey.text key), reply⟩] ∧
      result = reply >>= fun found =>
        (decodeStored (EntityKey.kind κ) (EntityKey.text key) found).map Prod.snd := by
  rw [lookup_eq, request_bind] at h
  cases h with
  | @ask _ _ records reply _ _ rest =>
    refine ⟨records, reply, ?_⟩
    cases reply with
    | error f =>
      obtain ⟨rfl, rfl⟩ := Yields.of_lift (r := .error f) rest
      exact ⟨rfl, rfl⟩
    | ok found =>
      obtain ⟨rfl, rfl⟩ := Yields.of_lift rest
      exact ⟨rfl, rfl⟩

/-! ## Sorts of requests -/

/-- All requests of the service are of a sort. -/
def Asks (p : Request → Prop) : Service α → Prop
  | done _ | fail _ => True
  | ask r next => p r ∧ ∀ reply, (next reply).Asks p

namespace Asks

variable {p : Request → Prop}

theorem bind {k : α → Service β} (h : service.Asks p) (hk : ∀ a, (k a).Asks p) :
    (service >>= k).Asks p := by
  induction service with
  | done a => exact hk a
  | fail f => trivial
  | ask r next ih => exact ⟨h.1, fun reply => ih reply (h.2 reply)⟩

theorem within (h : service.Asks p) (context : Context) : (service.within context).Asks p := by
  induction service with
  | done a => trivial
  | fail f => trivial
  | ask r next ih => exact ⟨h.1, fun reply => ih reply (h.2 reply)⟩

theorem request {r : Request} (h : p r) : (Service.request r).Asks p := ⟨h, fun _ => trivial⟩

theorem lift (r : Except Failure α) : (Service.lift r).Asks p := by
  cases r <;> trivial

theorem lookup {ρ κ : Type} [Entity ρ κ] {key : κ}
    (h : p (.read .lookup (EntityKey.kind κ) (EntityKey.text key))) :
    (Service.lookup ρ key).Asks p := by
  rw [lookup_eq, request_bind]
  exact ⟨h, fun reply => (lift reply).bind fun _ => lift _⟩

theorem transact {ρ κ : Type} [Entity ρ κ] [DecidableEq ρ] {key : κ}
    {mutate : Option ρ → Option ρ × β}
    (hread : ∀ attempt, p (.read (.transaction attempt) (EntityKey.kind κ) (EntityKey.text key)))
    (hcommit : ∀ version value, p (.commit (EntityKey.kind κ) (EntityKey.text key) version value))
    (hsave : p .save) : (Service.transact key mutate).Asks p := by
  have hloop (left overtaken : Nat) : (transactFrom key mutate overtaken left).Asks p := by
    induction left generalizing overtaken with
    | zero => trivial
    | succ left ih =>
      rw [transactFrom_succ, request_bind]
      refine ⟨hread overtaken, fun reply => (lift reply).bind fun found => ?_⟩
      split
      · exact lift _
      · rw [request_bind]
        refine ⟨hcommit _ _, fun written => ?_⟩
        cases written with
        | true => exact ⟨hsave, fun saved => (lift saved).bind fun _ => trivial⟩
        | false => exact ih _
  exact hloop maxTransactionAttempts 0

/-- The exchanges of a service are about such requests. -/
theorem of_yields {result : Except Failure α} (h : service.Asks p) (hy : service.Yields es result) :
    ∀ e ∈ es, p e.request := by
  induction hy with
  | done a => exact List.forall_mem_nil _
  | fail f => exact List.forall_mem_nil _
  | ask rest ih =>
    intro e he
    rcases List.mem_cons.1 he with rfl | he
    · exact h.1
    · exact ih (h.2 _) e he

end Asks

end Service

/-! ## Exchanges on one store -/

namespace Exchange

/-- An exchange with a session whose records are in memory. -/
def Genuine (c : Cloud σ) (e : Exchange) : Prop :=
  ∃ session : Session σ, session.InMemory ∧ session.records = e.records ∧
    (session.perform c e.request).1 = e.reply

theorem genuine {session : Session σ} (h : session.InMemory) (c : Cloud σ) (r : Request) :
    (session.exchange c r).Genuine c := ⟨session, h, rfl, rfl⟩

namespace Genuine

variable {c : Cloud σ} {s : MemoryStore}

theorem read {purpose : Purpose} {kind : Kind} {id : String}
    {reply : Except Failure (Option Stored)}
    (h : (Exchange.mk s (.read purpose kind id) reply).Genuine c) :
    reply = .ok (s.find? kind id) := by
  obtain ⟨session, -, rfl, hreply⟩ := h
  exact hreply.symm

/-- A commit that goes through has come in time. -/
theorem commit {kind : Kind} {id : String} {version : Nat} {value : Json}
    (h : (Exchange.mk s (.commit kind id version value) true).Genuine c) :
    s.version kind id = version := by
  obtain ⟨session, -, rfl, hreply⟩ := h
  have hreply : (session.records.commit kind id version value).1 = true := hreply
  rw [MemoryStore.commit_eq] at hreply
  split at hreply
  · assumption
  · cases hreply

theorem save {reply : Except Failure Unit} (h : (Exchange.mk s .save reply).Genuine c) :
    reply = .ok () := by
  obtain ⟨session, hm, -, hreply⟩ := h
  have hreply : session.save.1 = reply := hreply
  rw [← hreply, hm.save]

end Genuine

/-- An exchange that has neither written nor reported anything. -/
def IsStill (e : Exchange) : Prop := e.write? = none ∧ e.event? = none

theorem isDeed_of_event {e : Exchange} {event : MachineEvent × String} (h : e.event? = some event) :
    e.isDeed = true := by
  obtain ⟨records, request, reply⟩ := e
  cases request with
  | send kind hostname => rfl
  | _ => cases h

/-- What is no deed is still. -/
theorem isStill_of_not_deed {e : Exchange} (h : ¬ e.isDeed) : e.IsStill :=
  ⟨Option.not_isSome_iff_eq_none.1 fun hwrite => h (isDeed_of_write hwrite),
    Option.eq_none_iff_forall_not_mem.2 fun _ hevent => h (isDeed_of_event hevent)⟩

theorem forall_isStill {es : List Exchange} (h : ∀ e ∈ es, ¬ e.isDeed) : ∀ e ∈ es, e.IsStill :=
  fun e he => isStill_of_not_deed (h e he)

theorem IsStill.not_write {e : Exchange} (h : e.IsStill) : ¬ e.write?.isSome := by
  rw [h.1]
  exact Bool.false_ne_true

/-- An exchange that is no commit and sends nothing. -/
theorem isStill {e : Exchange}
    (hcommit : ∀ kind id version value, e.request ≠ .commit kind id version value)
    (hsend : ∀ event hostname, e.request ≠ .send event hostname) : e.IsStill := by
  obtain ⟨records, request, reply⟩ := e
  cases request with
  | commit kind id version value => exact (hcommit kind id version value rfl).elim
  | send event hostname => exact (hsend event hostname rfl).elim
  | _ => exact ⟨rfl, rfl⟩

theorem after_of_still {e : Exchange} (h : e.write? = none) : e.after = e.records := by
  have hwrite : (Happening.served 0 e).write? = none := h
  simp [after, Happening.after, hwrite, Happening.records]

end Exchange

/-- The exchanges follow one another on a store to which others may write before, between and after
them. -/
def Amid : MemoryStore → List Exchange → MemoryStore → Prop
  | s, [], t => s.Grows t
  | s, e :: es, t => s.Grows e.records ∧ Amid e.after es t

namespace Amid

variable {s s' t u : MemoryStore} {es es' : List Exchange}

theorem grows (h : Amid s es t) : s.Grows t := by
  induction es generalizing s with
  | nil => exact h
  | cons e es ih => exact (h.1.trans e.grows_after).trans (ih h.2)

theorem earlier (h : Amid s es t) (hs : s'.Grows s) : Amid s' es t := by
  cases es with
  | nil => exact hs.trans h
  | cons e es => exact ⟨hs.trans h.1, h.2⟩

/-- Some of the exchanges; the others count as those of others. -/
theorem sublist (h : Amid s es t) (hsub : es'.Sublist es) : Amid s es' t := by
  induction hsub generalizing s with
  | slnil => exact h
  | cons e _ ih => exact (ih h.2).earlier (h.1.trans e.grows_after)
  | cons_cons e _ ih => exact ⟨h.1, ih h.2⟩

theorem of_append (h : Amid s (es ++ es') t) : ∃ u, Amid s es u ∧ Amid u es' t := by
  induction es generalizing s with
  | nil => exact ⟨s, .refl s, h⟩
  | cons e es ih =>
    obtain ⟨u, hfirst, hsecond⟩ := ih h.2
    exact ⟨u, ⟨h.1, hfirst⟩, hsecond⟩

theorem append (h : Amid s es u) (h' : Amid u es' t) : Amid s (es ++ es') t := by
  induction es generalizing s with
  | nil => exact h'.earlier h
  | cons e es ih => exact ⟨h.1, ih h.2⟩

/-- What an exchange has left is what the store has grown from. -/
theorem grows_of_mem (h : Amid s es t) {e : Exchange} (he : e ∈ es) :
    s.Grows e.records ∧ e.after.Grows t := by
  induction es generalizing s with
  | nil => cases he
  | cons e' es ih =>
    rcases List.mem_cons.1 he with rfl | he
    · exact ⟨h.1, h.2.grows⟩
    · obtain ⟨hfrom, hto⟩ := ih h.2 he
      exact ⟨(h.1.trans e'.grows_after).trans hfrom, hto⟩

end Amid

/-- The exchanges follow one another on a store to which nobody else writes. -/
def Unbroken : MemoryStore → List Exchange → MemoryStore → Prop
  | s, [], t => t = s
  | s, e :: es, t => e.records = s ∧ Unbroken e.after es t

namespace Unbroken

variable {s t : MemoryStore} {es : List Exchange}

theorem amid (h : Unbroken s es t) : Amid s es t := by
  induction es generalizing s with
  | nil => exact h ▸ .refl s
  | cons e es ih =>
    obtain ⟨rfl, hrest⟩ := h
    exact ⟨.refl _, ih hrest⟩

/-- Exchanges that are still meet the records as they were. -/
theorem records_of_still (h : Unbroken s es t) (hstill : ∀ e ∈ es, e.IsStill) {e : Exchange}
    (he : e ∈ es) : e.records = s := by
  induction es generalizing s with
  | nil => cases he
  | cons x es ih =>
    obtain ⟨hfirst, hothers⟩ := List.forall_mem_cons.1 hstill
    obtain ⟨rfl, hrest⟩ := h
    rcases List.mem_cons.1 he with rfl | he
    · rfl
    · exact (ih hrest hothers he).trans (Exchange.after_of_still hfirst.1)

/-- Exchanges that are still leave the records as they are. -/
theorem of_still (h : Unbroken s es t) (hstill : ∀ e ∈ es, e.IsStill) : t = s := by
  induction es generalizing s with
  | nil => exact h
  | cons e es ih =>
    obtain ⟨hfirst, hothers⟩ := List.forall_mem_cons.1 hstill
    obtain ⟨rfl, hrest⟩ := h
    exact (ih hrest hothers).trans (Exchange.after_of_still hfirst.1)

end Unbroken

/-- The exchange that a happening was at a place. -/
def Happening.exchangeAt? (place : Nat) : Happening → Option Exchange
  | served p e => if p = place then some e else none
  | put .. => none

/-- The exchanges of one place of a history. -/
theorem Follows.amid {history : List Happening} {s t : MemoryStore} (h : Follows s history t)
    (place : Nat) : Amid s (history.filterMap (Happening.exchangeAt? place)) t := by
  induction history generalizing s with
  | nil =>
    obtain rfl : t = s := h
    exact .refl t
  | cons x history ih =>
    obtain ⟨rfl, hrest⟩ := h
    have hother : Amid x.records (history.filterMap (Happening.exchangeAt? place)) t :=
      (ih hrest).earlier x.grows_after
    cases x with
    | put records r => exact hother
    | served p e =>
      by_cases hp : p = place
      · simp only [List.filterMap_cons, Happening.exchangeAt?, if_pos hp]
        exact ⟨.refl _, ih hrest⟩
      · simpa only [List.filterMap_cons, Happening.exchangeAt?, if_neg hp] using hother

/-! ## From a place of a crowd -/

/-- **What a service meets at a place of any crowd, it meets after its exchanges**, on the store
that others have left and with the deeds that are among the exchanges. -/
theorem Service.MeetsAt.of_yields {c : Cloud σ} {place : Nat} {keep : Nat → List Exchange → Prop}
    {post : Except Failure α → World σ → Prop} {service : Service α} {es : List Exchange}
    {result : Except Failure α} {t : MemoryStore} (final : Session σ)
    (hy : service.Yields es result) {w : World σ} (h : service.MeetsAt c place keep post w)
    (hgenuine : ∀ e ∈ es, e.Genuine c) (hamid : Amid w.records es t) :
    ∃ w', post result w' ∧ w'.records = t ∧
      w'.deeds place = w.deeds place ++ es.filter Exchange.isDeed := by
  -- at the end the others have left the store `t`
  have hend {w : World σ} (hst : w.records.Grows t) :
      World.Others place w { w with session := { final with backend := .memory t } } :=
    ⟨hst, rfl, fun _ => ⟨t, rfl⟩⟩
  induction hy generalizing w with
  | done a => exact ⟨_, h _ (hend hamid), rfl, (List.append_nil _).symm⟩
  | fail f => exact ⟨_, h _ (hend hamid), rfl, (List.append_nil _).symm⟩
  | @ask r next records reply es result rest ih =>
    obtain ⟨session, hm, hrecords, hreply⟩ := hgenuine _ List.mem_cons_self
    simp only at hrecords hreply
    subst hrecords hreply
    let w₁ : World σ := { w with session }
    have hothers : World.Others place w w₁ := ⟨hamid.1, rfl, fun _ => hm⟩
    have hafter : (w₁.serve c place r).2.records = (session.exchange c r).after :=
      World.records_serve c place r w₁
    obtain ⟨w', hpost, hrecords, hdeeds⟩ := ih (h w₁ hothers).2
      (fun e he => hgenuine e (List.mem_cons_of_mem _ he)) (hafter ▸ hamid.2)
    refine ⟨w', hpost, hrecords, ?_⟩
    have hserved : (w₁.serve c place r).2.deeds place =
        w.deeds place ++ if (session.exchange c r).isDeed then [session.exchange c r] else [] := by
      rw [World.deeds_serve]
      simp only [true_and]
      rfl
    refine hdeeds.trans ?_
    rw [show (((Crowd.Accord.keeping keep).terms c place).perform r w₁).2 = (w₁.serve c place r).2
      from rfl, hserved, List.append_assoc]
    congr 1
    show _ = (session.exchange c r :: es).filter Exchange.isDeed
    rw [List.filter_cons]
    split <;> rfl

namespace Service

section Readings

variable {ρ κ : Type} [Entity ρ κ] {c : Cloud σ} {key : κ} {es : List Exchange}

/-- The exchange of a reading: the reply is what the records hold. -/
def reading {κ : Type} [EntityKey κ] (purpose : Purpose) (key : κ) (s : MemoryStore) : Exchange :=
  ⟨s, .read purpose (EntityKey.kind κ) (EntityKey.text key),
    .ok (s.find? (EntityKey.kind κ) (EntityKey.text key))⟩

/-- A look-up is one exchange, in which the record is read. -/
theorem lookup_of_yields {result : Except Failure (Option ρ)} (hy : (lookup ρ key).Yields es result)
    (hgenuine : ∀ e ∈ es, e.Genuine c) :
    ∃ s : MemoryStore, es = [reading .lookup key s] ∧ result = s.read ρ key := by
  obtain ⟨s, reply, rfl, rfl⟩ := Yields.of_lookup hy
  obtain rfl := (hgenuine _ List.mem_cons_self).read
  exact ⟨s, rfl, rfl⟩

variable [DecidableEq ρ] {mutate : Option ρ → Option ρ × β}
  {result : Except Failure (Committed β)} {s t : MemoryStore}

/-- How the exchanges of a transaction end. The last reading decides, or the commit that goes
through does, and what comes before it is no deed. -/
inductive Closing (key : κ) (mutate : Option ρ → Option ρ × β) :
    List Exchange → Except Failure (Committed β) → Prop
  | stopped {lead : List Exchange} {overtaken : Nat} {s : MemoryStore}
      {result : Except Failure (Committed β)} (idle : ∀ e ∈ lead, ¬ e.isDeed)
      (decision : attempt key mutate (s.find? (EntityKey.kind κ) (EntityKey.text key)) =
        .stop result) :
      Closing key mutate (lead ++ [reading (.transaction overtaken) key s]) result
  | wrote {lead : List Exchange} {s t : MemoryStore} {version : Nat} {record : ρ} {value : β}
      (idle : ∀ e ∈ lead, ¬ e.isDeed)
      (decision : attempt key mutate (s.find? (EntityKey.kind κ) (EntityKey.text key)) =
        .write version record value) :
      Closing key mutate (lead ++ [committed key s version record, ⟨t, .save, .ok ()⟩])
        (.ok ⟨value, true⟩)
  | gaveUp {es : List Exchange} {overtaken : Nat} (idle : ∀ e ∈ es, ¬ e.isDeed) :
      Closing key mutate es
        (.error (.of (.store (.contention (EntityKey.kind κ) (EntityKey.text key) overtaken))))

theorem Closing.cons {e : Exchange} (h : Closing key mutate es result) (he : ¬ e.isDeed) :
    Closing key mutate (e :: es) result := by
  cases h with
  | stopped idle decision =>
    rw [← List.cons_append]
    exact .stopped (List.forall_mem_cons.2 ⟨he, idle⟩) decision
  | wrote idle decision =>
    rw [← List.cons_append]
    exact .wrote (List.forall_mem_cons.2 ⟨he, idle⟩) decision
  | gaveUp idle => exact .gaveUp (List.forall_mem_cons.2 ⟨he, idle⟩)

/-- A transaction that has failed has done nothing. -/
theorem Closing.not_deed {f : Failure} (h : Closing key mutate es (.error f)) :
    ∀ e ∈ es, ¬ e.isDeed := by
  cases h with
  | stopped idle decision =>
    exact List.forall_mem_append.2 ⟨idle, List.forall_mem_singleton.2 Bool.false_ne_true⟩
  | gaveUp idle => exact idle

theorem closing_of_transactFrom {left overtaken : Nat}
    (hy : (transactFrom key mutate overtaken left).Yields es result)
    (hgenuine : ∀ e ∈ es, e.Genuine c) (hamid : Amid s es t) : Closing key mutate es result := by
  induction left generalizing overtaken es s with
  | zero =>
    have hy : (fail (.of (.store (.contention (EntityKey.kind κ) (EntityKey.text key) overtaken))) :
        Service (Committed β)).Yields es result := hy
    cases hy
    exact .gaveUp (List.forall_mem_nil _)
  | succ left ih =>
    rw [transactFrom_succ, request_bind] at hy
    cases hy with
    | @ask _ _ u reply _ _ rest =>
      obtain ⟨hread, hothers⟩ := List.forall_mem_cons.1 hgenuine
      obtain rfl := hread.read
      have hidle : ∀ e ∈ [reading (.transaction overtaken) key u], ¬ e.isDeed :=
        List.forall_mem_singleton.2 Bool.false_ne_true
      simp only [lift_ok_bind] at rest
      split at rest
      · rename_i decision
        obtain ⟨rfl, rfl⟩ := Yields.of_lift rest
        exact .stopped (List.forall_mem_nil _) decision
      · rename_i version record value decision
        rw [request_bind] at rest
        cases rest with
        | @ask _ _ v written _ _ rest =>
          obtain ⟨hcommit, hmore⟩ := List.forall_mem_cons.1 hothers
          cases written with
          | true =>
            -- nobody has written since, so the decision is that of the record stored now
            have hversion := hcommit.commit.trans (version_of_attempt decision)
            have hfound := hamid.2.1.find?_eq hversion
            simp only [if_true] at rest
            cases rest with
            | @ask _ _ w saved _ _ rest =>
              obtain rfl := (hmore _ List.mem_cons_self).save
              cases rest
              exact .wrote hidle (hfound ▸ decision)
          | false =>
            simp only [if_neg Bool.false_ne_true] at rest
            have hlater := ih rest hmore hamid.2.2
            exact .cons (.cons hlater Bool.false_ne_true) Bool.false_ne_true

/-- **How the exchanges of a transaction end.** -/
theorem closing_of_yields (hy : (transact key mutate).Yields es result)
    (hgenuine : ∀ e ∈ es, e.Genuine c) (hamid : Amid s es t) : Closing key mutate es result :=
  closing_of_transactFrom hy hgenuine hamid

/-- How a transaction has ended, from its exchanges. -/
theorem outcome_of_yields (session : Session σ) (hy : (transact key mutate).Yields es result)
    (hgenuine : ∀ e ∈ es, e.Genuine c) (hamid : Amid s es t) :
    Outcome key mutate s [] result t (es.filter Exchange.isDeed) := by
  have hmeets : (transact key mutate).MeetsAt c 0 (fun _ _ => True) (Ended 0 key mutate s [])
      (.ofStore session s) :=
    transact_meets key mutate ⟨s, rfl⟩ trivial fun _ _ _ _ _ => trivial
  obtain ⟨w, ⟨-, hend⟩, hrecords, hdeeds⟩ := hmeets.of_yields session hy hgenuine hamid
  rw [hrecords, hdeeds] at hend
  exact hend

end Readings

/-- A service that only looks has no deed among its exchanges. -/
theorem Quiet.not_deed {service : Service α} {es : List Exchange} {result : Except Failure α}
    (h : service.Quiet) (hy : service.Yields es result) : ∀ e ∈ es, ¬ e.isDeed := by
  induction hy with
  | done a => exact List.forall_mem_nil _
  | fail f => exact List.forall_mem_nil _
  | ask rest ih =>
    refine List.forall_mem_cons.2 ⟨?_, ih (h.2 _)⟩
    rw [h.1]
    exact Bool.false_ne_true

end Service

/-! ## Services alone -/

/-- **A service that has run alone has gone through exchanges**, each on the records that the one
before it has left. -/
theorem Session.exists_yields (c : Cloud σ) (service : Service α) {s : Session σ}
    (hm : s.InMemory) :
    ∃ es, service.Yields es (s.serve c service).1 ∧ (∀ e ∈ es, e.Genuine c) ∧
      Unbroken s.records es (s.serve c service).2.records ∧
      (s.serve c service).2.events = s.events ++ es.filterMap Exchange.event? ∧
      (s.serve c service).2.InMemory := by
  induction service generalizing s with
  | done a => exact ⟨[], .done a, List.forall_mem_nil _, rfl, (List.append_nil _).symm, hm⟩
  | fail f => exact ⟨[], .fail f, List.forall_mem_nil _, rfl, (List.append_nil _).symm, hm⟩
  | ask r next ih =>
    obtain ⟨es, hy, hgenuine, hunbroken, hevents, hm'⟩ := ih (s.perform c r).1 (hm.perform c r)
    refine ⟨s.exchange c r :: es, .ask hy, ?_, ⟨rfl, ?_⟩, ?_, hm'⟩
    · exact List.forall_mem_cons.2 ⟨Exchange.genuine hm c r, hgenuine⟩
    · have hafter : (s.exchange c r).after = (s.perform c r).2.records :=
        (s.records_perform c r).symm
      rw [hafter]
      exact hunbroken
    · have hserve : s.serve c (.ask r next) =
          (s.perform c r).2.serve c (next (s.perform c r).1) := rfl
      rw [hserve, hevents, Session.events_perform, List.append_assoc, List.filterMap_cons]
      cases (s.exchange c r).event? <;> rfl

/-- A service alone whose exchanges are all still leaves records and events as they are. -/
theorem Session.unchanged_of_still (c : Cloud σ) {service : Service α} {s : Session σ}
    (hm : s.InMemory) (hstill : ∀ es result, service.Yields es result → ∀ e ∈ es, e.IsStill) :
    (s.serve c service).2.records = s.records ∧ (s.serve c service).2.events = s.events ∧
      (s.serve c service).2.InMemory := by
  obtain ⟨es, hy, -, hunbroken, hevents, hm'⟩ := exists_yields c service hm
  have hes := hstill es _ hy
  have hnone : es.filterMap Exchange.event? = [] :=
    List.filterMap_eq_nil_iff.2 fun e he => (hes e he).2
  rw [hnone, List.append_nil] at hevents
  exact ⟨hunbroken.of_still hes, hevents, hm'⟩

/-! ## Services of a crowd -/

namespace World

/-- The exchanges of the service at a place, in order. -/
def exchangesAt (place : Nat) (w : World σ) : List Exchange :=
  w.history.filterMap (Happening.exchangeAt? place)

theorem exchangesAt_serve (c : Cloud σ) (place other : Nat) (r : Request) (w : World σ) :
    (w.serve c place r).2.exchangesAt other =
      w.exchangesAt other ++ if place = other then [w.session.exchange c r] else [] := by
  by_cases h : place = other
  · simp [exchangesAt, serve, Happening.exchangeAt?, h]
  · simp only [exchangesAt, serve, List.filterMap_append, List.filterMap_cons, List.filterMap_nil,
      Happening.exchangeAt?, if_neg h]

@[simp]
theorem exchangesAt_put (place : Nat) (r : AnyRecord) (w : World σ) :
    (w.put r).exchangesAt place = w.exchangesAt place := by
  simp [exchangesAt, put, Happening.exchangeAt?]

theorem mem_exchangesAt {w : World σ} {place : Nat} {e : Exchange} :
    e ∈ w.exchangesAt place ↔ .served place e ∈ w.history := by
  constructor
  · intro he
    obtain ⟨x, hx, hexchange⟩ := List.mem_filterMap.1 he
    cases x with
    | put records r => cases hexchange
    | served p e' =>
      simp only [Happening.exchangeAt?] at hexchange
      split at hexchange
      · rename_i hp
        cases hexchange
        exact hp ▸ hx
      · cases hexchange
  · intro he
    exact List.mem_filterMap.2 ⟨_, he, if_pos rfl⟩

/-- The events of a place are those of its exchanges. -/
theorem events_eq (place : Nat) (w : World σ) :
    w.events place = (w.exchangesAt place).filterMap Exchange.event? := by
  simp only [events, deeds, exchangesAt, List.filterMap_filterMap]
  congr 1
  funext x
  cases x with
  | put records r => rfl
  | served p e =>
    by_cases hp : p = place
    · by_cases he : e.isDeed
      · simp [Happening.deedOf?, Happening.exchangeAt?, hp, he]
      · simp [Happening.deedOf?, Happening.exchangeAt?, hp, he, (Exchange.isStill_of_not_deed he).2]
    · simp [Happening.deedOf?, Happening.exchangeAt?, hp]

end World

namespace Crowd

/-- What has become of some services. What each of them still goes through continues the exchanges
of its place, and all exchanges are with sessions in memory. -/
structure Traced (c : Cloud σ) (services : List (Service α)) (s : Crowd σ α) : Prop where
  inMemory : s.world.session.InMemory
  genuine : ∀ place, ∀ e ∈ s.world.exchangesAt place, e.Genuine c
  continues : ∀ (place : Nat) (first current : Service α), services[place]? = some first →
    s.services[place]? = some current → ∀ es result, current.Yields es result →
      first.Yields (s.world.exchangesAt place ++ es) result

variable {c : Cloud σ} {services : List (Service α)} {s : Crowd σ α}

theorem traced_start (c : Cloud σ) (session : Session σ) (store : MemoryStore)
    (services : List (Service α)) : (start session store services).Traced c services where
  inMemory := ⟨store, rfl⟩
  genuine _ := List.forall_mem_nil _
  continues place first current hfirst hcurrent es result hy := by
    obtain rfl : first = current := Option.some.inj (hfirst.symm.trans hcurrent)
    exact hy

theorem Traced.turn (h : s.Traced c services) (t : Turn) : (s.turn c t).Traced c services := by
  cases t with
  | clock t => exact ⟨h.inMemory, h.genuine, h.continues⟩
  | put r =>
    refine ⟨h.inMemory.withRecords _, fun place => ?_, fun place => ?_⟩
    · simpa only [Crowd.turn, World.exchangesAt_put] using h.genuine place
    · simpa only [Crowd.turn, World.exchangesAt_put] using h.continues place
  | serve place =>
    unfold Crowd.turn
    simp only
    split
    · rename_i r next hplace
      refine ⟨h.inMemory.perform c r, fun other e he => ?_, fun other first current => ?_⟩
      · rw [World.exchangesAt_serve] at he
        rcases List.mem_append.1 he with he | he
        · exact h.genuine other e he
        · split at he
          · obtain rfl := List.mem_singleton.1 he
            exact Exchange.genuine h.inMemory c r
          · cases he
      · intro hfirst hcurrent es result hy
        rw [World.exchangesAt_serve]
        by_cases ho : place = other
        · subst ho
          rw [List.getElem?_set_self (List.getElem?_eq_some_iff.1 hplace).1] at hcurrent
          obtain rfl := Option.some.inj hcurrent
          rw [if_pos rfl, List.append_assoc]
          exact h.continues place first _ hfirst hplace _ result (.ask hy)
        · rw [List.getElem?_set_ne ho] at hcurrent
          rw [if_neg ho, List.append_nil]
          exact h.continues other first current hfirst hcurrent es result hy
    · exact h

theorem length_run (c : Cloud σ) (turns : List Turn) (s : Crowd σ α) :
    (s.run c turns).services.length = s.services.length := by
  induction turns generalizing s with
  | nil => rfl
  | cons t turns ih =>
    refine (ih (s.turn c t)).trans ?_
    cases t with
    | put r => rfl
    | clock t => rfl
    | serve place =>
      unfold Crowd.turn
      simp only
      split
      · exact List.length_set
      · rfl

theorem Traced.run (h : s.Traced c services) (turns : List Turn) :
    (s.run c turns).Traced c services := by
  induction turns generalizing s with
  | nil => exact h
  | cons t turns ih => exact ih (h.turn t)

/-- **A service that has failed has gone through the exchanges of its place.** -/
theorem Traced.failed (h : s.Traced c services) {place : Nat} {service : Service α} {f : Failure}
    (hplace : services[place]? = some service) (hfailed : s.services[place]? = some (.fail f)) :
    service.Yields (s.world.exchangesAt place) (.error f) := by
  have hy := h.continues place service _ hplace hfailed [] _ (.fail f)
  rwa [List.append_nil] at hy

/-- **What a service of a crowd has gone through is the beginning of a course to its end**, which it
takes if the others stop. A service that has ended is at the end of it. -/
theorem exists_whole (c : Cloud σ) (session : Session σ) (store : MemoryStore)
    (services : List (Service α)) (turns : List Turn) {place : Nat} {service : Service α}
    (hplace : services[place]? = some service) :
    let s := (start session store services).run c turns
    ∃ more result t, service.Yields (s.world.exchangesAt place ++ more) result ∧
      (∀ e ∈ s.world.exchangesAt place ++ more, e.Genuine c) ∧
      Amid store (s.world.exchangesAt place ++ more) t ∧
      ∀ r, s.services[place]? = some (.lift r) → more = [] ∧ result = r := by
  intro s
  have htraced : s.Traced c services := (traced_start c session store services).run turns
  have hamid : Amid store (s.world.exchangesAt place) s.world.records :=
    (follows_run c turns (follows_start session store services)).amid place
  have hlength : s.services.length = services.length :=
    length_run c turns (start session store services)
  obtain ⟨current, hcurrent⟩ : ∃ current, s.services[place]? = some current :=
    ⟨_, List.getElem?_eq_getElem (hlength ▸ (List.getElem?_eq_some_iff.1 hplace).1)⟩
  obtain ⟨more, hy, hgenuine, hunbroken, -⟩ := Session.exists_yields c current htraced.inMemory
  refine ⟨more, _, _, htraced.continues place service current hplace hcurrent more _ hy, ?_,
    hamid.append hunbroken.amid, fun r hr => ?_⟩
  · exact List.forall_mem_append.2 ⟨htraced.genuine place, hgenuine⟩
  · obtain rfl : Service.lift r = current := Option.some.inj (hr.symm.trans hcurrent)
    exact Service.Yields.of_lift hy

end Crowd

end FleetReconciler
