import FleetReconciler.Proofs.FileAndMemory
import FleetReconciler.Proofs.Savers

/-!
# Saves of one file by many writers

The records are copied under the lock under which the file is replaced. So a later replacement
carries later records, and a writer that comes to save after others saves their writes too. Whatever
a call has written is in the file when the call returns.

* `Service.SavesCommits`, `Service.UnlessWritten` — a service that saves whatever it has committed,
  and what a service reports unless it has written;
* `FileShows` — what a file holds;
* `Savers.Recorded` — the file shows the state of the records that was last copied to it;
* `Savers.Orderly`, `Orderly.turn` — what every step keeps as long as no save fails;
* `concurrent_saves` — **the file never goes back, holds what a call has written when it returns,
  and holds all records when all have returned.**
-/

namespace FleetReconciler

open Service

variable {σ α β : Type}

/-! ## Services that save what they commit -/

namespace Service

/-- If a request is a commit, what follows when it has gone through is a save. -/
def SavesAfter : (r : Request) → (r.Reply → Service α) → Prop
  | .commit .., next => ∃ after, next true = .ask .save after
  | _, _ => True

/-- A service that saves whatever it has committed before it asks for anything else. -/
def SavesCommits : Service α → Prop
  | .done _ | .fail _ => True
  | .ask r next => SavesAfter r next ∧ ∀ reply, (next reply).SavesCommits

theorem SavesAfter.bind {r : Request} {next : r.Reply → Service α} (h : SavesAfter r next)
    (k : α → Service β) : SavesAfter r fun reply => next reply >>= k := by
  cases r with
  | commit kind id version value =>
    obtain ⟨after, hnext⟩ := h
    exact ⟨fun reply => after reply >>= k, by simp only [hnext, bind_ask]⟩
  | _ => trivial

theorem SavesCommits.bind {service : Service α} {k : α → Service β} (h : service.SavesCommits)
    (hk : ∀ a, (k a).SavesCommits) : (service >>= k).SavesCommits := by
  induction service with
  | done a => exact hk a
  | fail f => trivial
  | ask r next ih => exact ⟨h.1.bind k, fun reply => ih reply (h.2 reply)⟩

theorem savesCommits_lift (r : Except Failure α) : (lift r).SavesCommits := by
  cases r <;> trivial

theorem savesCommits_savingPut : savingPut.SavesCommits :=
  ⟨trivial, fun saved => savesCommits_lift (saved.map fun _ => true)⟩

/-- What holds of the value of a service unless it has written. -/
def UnlessWritten (post : α → Prop) : Service α → Prop
  | .done a => post a
  | .fail _ => True
  | .ask r next => ∀ records reply, Exchange.write? ⟨records, r, reply⟩ = none →
    (next reply).UnlessWritten post

theorem UnlessWritten.bind {service : Service α} {k : α → Service β} {mid : α → Prop}
    {post : β → Prop} (h : service.UnlessWritten mid) (hk : ∀ a, mid a → (k a).UnlessWritten post) :
    (service >>= k).UnlessWritten post := by
  induction service with
  | done a => exact hk a h
  | fail f => trivial
  | ask r next ih => exact fun records reply hreply => ih reply (h records reply hreply)

theorem unlessWritten_lift {post : α → Prop} {r : Except Failure α} (h : ∀ a, r = .ok a → post a) :
    (lift r).UnlessWritten post := by
  cases r with
  | error f => trivial
  | ok a => exact h a rfl

section Transactions

variable {ρ κ : Type} [Entity ρ κ] [DecidableEq ρ]

/-- A transaction that has not written says so. -/
theorem unlessWritten_transactFrom (key : κ) (mutate : Option ρ → Option ρ × β)
    (overtaken left : Nat) :
    (transactFrom key mutate overtaken left).UnlessWritten fun v => v.wrote = false := by
  induction left generalizing overtaken with
  | zero => trivial
  | succ left ih =>
    rw [transactFrom_succ]
    intro _ reply _
    have hreply : (lift reply).UnlessWritten fun _ => True := unlessWritten_lift fun _ _ => trivial
    refine hreply.bind fun found _ => ?_
    cases hattempt : attempt key mutate found with
    | stop r =>
      refine unlessWritten_lift ?_
      rintro v rfl
      obtain ⟨version, current, -, -, rfl⟩ := attempt_eq_stop_ok.1 hattempt
      rfl
    | write version record value =>
      intro records done hnot
      cases done with
      | true => cases hnot
      | false => exact ih (overtaken + 1)

theorem unlessWritten_transaction (t : Transaction) : t.service.UnlessWritten (· = false) :=
  (unlessWritten_transactFrom t.key t.mutate 0 maxTransactionAttempts).bind fun _ h => h

theorem savesCommits_transactFrom (key : κ) (mutate : Option ρ → Option ρ × β)
    (overtaken left : Nat) : (transactFrom key mutate overtaken left).SavesCommits := by
  induction left generalizing overtaken with
  | zero => trivial
  | succ left ih =>
    rw [transactFrom_succ]
    refine ⟨trivial, fun reply => (savesCommits_lift reply).bind fun found => ?_⟩
    cases attempt key mutate found with
    | stop r => exact savesCommits_lift r
    | write version record value =>
      refine ⟨⟨_, rfl⟩, fun done => ?_⟩
      cases done with
      | true => exact ⟨trivial, fun saved => (savesCommits_lift saved).bind fun _ => trivial⟩
      | false => exact ih (overtaken + 1)

/-- **A transaction saves what it has committed.** -/
theorem savesCommits_transaction (t : Transaction) : t.service.SavesCommits :=
  SavesCommits.bind (savesCommits_transactFrom t.key t.mutate 0 maxTransactionAttempts)
    fun _ => trivial

end Transactions

end Service

/-! ## What the file shows -/

/-- The file at a path shows a snapshot if it has its text, or is opened with it. -/
def FileShows (path : String) (snapshot : Snapshot) (files : FileTree) : Prop :=
  files.find path = .ok (.file (FileStore.text snapshot) FileStore.mode) ∨
    FileStore.load path files = .ok ⟨path, .ofSnapshot snapshot⟩

/-- A file that shows a snapshot that can be read back is opened with it. -/
theorem FileShows.load {path : String} {snapshot : Snapshot} {files : FileTree}
    (h : FileShows path snapshot files) (hsnapshot : snapshot.Storable) :
    FileStore.load path files = .ok ⟨path, .ofSnapshot snapshot⟩ :=
  h.elim (FileStore.load_of_find hsnapshot) id

namespace Session

variable {s : Session σ} {path : String}

theorem files_withRecords (s : Session σ) (records : MemoryStore) :
    (s.withRecords records).files = s.files := rfl

theorem backend_withRecords (h : s.backend = .file ⟨path, s.records⟩) (records : MemoryStore) :
    (s.withRecords records).backend = .file ⟨path, (s.withRecords records).records⟩ := by
  rw [records_withRecords, withRecords, h]
  rfl

/-- Only a save touches the files. -/
theorem files_perform (c : Cloud σ) {r : Request} (hr : r ≠ .save) (s : Session σ) :
    (s.perform c r).2.files = s.files := by
  cases r with
  | save => exact absurd rfl hr
  | enqueue t =>
    simp only [perform, enqueue]
    split <;> rfl
  | _ => rfl

/-- A store in a file stays in its file. -/
theorem backend_perform (h : s.backend = .file ⟨path, s.records⟩) (c : Cloud σ) {r : Request}
    (hr : r ≠ .save) :
    (s.perform c r).2.backend = .file ⟨path, (s.perform c r).2.records⟩ := by
  cases r with
  | save => exact absurd rfl hr
  | commit kind id version value => exact backend_withRecords h _
  | enqueue t =>
    simp only [perform, enqueue]
    split <;> exact h
  | _ => exact h

/-- A save of copied records, spelled out. -/
theorem save_withRecords (h : s.backend = .file ⟨path, s.records⟩) (records : MemoryStore) :
    (s.withRecords records).save =
      ((FileStore.replaceFile path records.snapshot none s.files).1,
        { s.withRecords records with
          files := (FileStore.replaceFile path records.snapshot none s.files).2 }) := by
  rw [save_eq (backend_withRecords h records), records_withRecords, files_withRecords]

end Session

/-! ## The record of a run -/

namespace SaveStage

/-- A call that has a write of a moment still to save: it waits for the lock, holds it, or has
copied the records after the write. -/
def Owes (moment : Nat) : SaveStage → Prop
  | .working (.ask .save _) | .locked _ => True
  | .copied copy _ _ => moment ≤ copy
  | _ => False

/-- A call that reports no write unless it still writes. -/
def Unwritten : SaveStage → Prop
  | .putting _ => True
  | .working service => service.UnlessWritten (· = false)
  | .locked next | .copied _ _ next | .replaced _ next =>
    ∀ r, (next r).UnlessWritten (· = false)

theorem not_owes_of_ended {stage : SaveStage} (h : stage.ended = true) (moment : Nat) :
    ¬ stage.Owes moment := by
  unfold ended at h
  split at h
  · exact id
  · exact id
  · cases h

/-- After a request that has written, a service that saves its commits owes a save. -/
theorem owes_of_write {session : Session σ} {c : Cloud σ} {r : Request}
    {next : r.Reply → Service Bool} (h : SavesAfter r next) {w : Write}
    (hw : (session.exchange c r).write? = some w) (moment : Nat) :
    (working (next (session.perform c r).1)).Owes moment := by
  cases r with
  | commit kind id version value =>
    obtain ⟨after, hnext⟩ := h
    unfold Session.exchange at hw
    generalize (session.perform c (.commit kind id version value)).1 = done at hw ⊢
    cases done with
    | true =>
      rw [hnext]
      trivial
    | false => cases hw
  | _ => cases hw

end SaveStage

namespace Savers

variable {c : Cloud σ} {s t : Savers σ} {place : Nat} {path : String}

/-- The states and the writes are entered in order, and the file shows the state that was last
copied to it. -/
structure Recorded (path : String) (s : Savers σ) : Prop where
  backend : s.session.backend = .file ⟨path, s.session.records⟩
  count : s.history.length = s.wrote.length + 1
  last : s.history[s.wrote.length]? = some s.session.records
  notes : ∀ (i : Nat) (w : WriteNote), s.wrote[i]? = some w → w.moment = i + 1 ∧
    ∃ before, s.history[i]? = some before ∧ s.history[i + 1]? = some (before.apply w.write)
  latest : ∀ x ∈ s.saves, x.1 ≤ s.fileMoment
  shown : ∃ shown, s.history[s.fileMoment]? = some shown ∧
    FileShows path shown.snapshot s.session.files

/-- A list that goes on has what it had. -/
theorem getElem?_of_prefix {γ : Type} {l l' : List γ} (h : l <+: l') {i : Nat} {x : γ}
    (hi : l[i]? = some x) : l'[i]? = some x := by
  obtain ⟨hlt, hx⟩ := List.getElem?_eq_some_iff.1 hi
  rw [List.prefix_iff_getElem?.1 h i hlt, hx]

/-- What holds of the call at a place at each stage. Who copies or replaces holds the lock, and the
file is not newer than the copy. -/
def Fits (s : Savers σ) (place : Nat) : SaveStage → Prop
  | .putting _ => True
  | .working service => service.SavesCommits
  | .locked next | .replaced _ next => s.lock = some place ∧ ∀ r, (next r).SavesCommits
  | .copied moment records next => s.lock = some place ∧ (∀ r, (next r).SavesCommits) ∧
    s.history[moment]? = some records ∧ s.fileMoment ≤ moment

/-- What every step keeps as long as no save fails. -/
structure Orderly (path : String) (s : Savers σ) : Prop where
  recorded : s.Recorded path
  fits : ∀ place stage, s.stages[place]? = some stage → s.Fits place stage
  /-- A write that is not in the file yet is about to be saved by its call. -/
  owed : ∀ w ∈ s.wrote, w.moment ≤ s.fileMoment ∨
    ∃ stage, s.stages[w.place]? = some stage ∧ stage.Owes w.moment

/-! ### What a step keeps -/

theorem fileMoment_le {n : Nat} (h : ∀ x ∈ s.saves, x.1 ≤ n) : s.fileMoment ≤ n := by
  unfold fileMoment
  cases hlast : s.saves.getLast? with
  | none => exact Nat.zero_le n
  | some x => exact h x (List.mem_of_getLast? hlast)

/-- The moment of the file after another replacement. -/
theorem fileMoment_saving (moment : Nat) (result : Except Failure Unit) (files : FileTree)
    (s : Savers σ) : (s.saving moment result files).fileMoment = moment := by
  simp [saving, fileMoment]

namespace Recorded

/-- The file is not newer than the records. -/
theorem fileMoment_le_length (h : s.Recorded path) : s.fileMoment ≤ s.wrote.length := by
  obtain ⟨shown, hmoment, -⟩ := h.shown
  have hlt := (List.getElem?_eq_some_iff.1 hmoment).1
  rw [h.count] at hlt
  exact Nat.le_of_lt_succ hlt

theorem advance (h : s.Recorded path) (place : Nat) (stage : SaveStage) :
    (s.advance place stage).Recorded path :=
  ⟨h.backend, h.count, h.last, h.notes, h.latest, h.shown⟩

theorem locking (h : s.Recorded path) (lock : Option Nat) : { s with lock }.Recorded path :=
  ⟨h.backend, h.count, h.last, h.notes, h.latest, h.shown⟩

/-- Another session with the same records and files. -/
theorem asking (h : s.Recorded path) {session : Session σ}
    (hbackend : session.backend = .file ⟨path, session.records⟩)
    (hrecords : session.records = s.session.records) (hfiles : session.files = s.session.files) :
    { s with session }.Recorded path := by
  obtain ⟨shown, hmoment, hshows⟩ := h.shown
  exact ⟨hbackend, h.count, hrecords ▸ h.last, h.notes, h.latest, shown, hmoment, hfiles ▸ hshows⟩

/-- A write is entered with the state that it leaves. -/
theorem writing (h : s.Recorded path) (place : Nat) {w : Write} {session : Session σ}
    (hbackend : session.backend = .file ⟨path, session.records⟩)
    (hrecords : session.records = s.session.records.apply w)
    (hfiles : session.files = s.session.files) : (s.writing place w session).Recorded path := by
  have hold {i : Nat} {r : MemoryStore} (hi : s.history[i]? = some r) :
      (s.history ++ [session.records])[i]? = some r :=
    getElem?_of_prefix (List.prefix_append _ _) hi
  have hnew : (s.history ++ [session.records])[s.wrote.length + 1]? = some session.records := by
    rw [← h.count, List.getElem?_concat_length]
  refine ⟨hbackend, ?_, ?_, ?_, h.latest, ?_⟩
  · simp [Savers.writing, h.count]
  · simpa [Savers.writing] using hnew
  · intro i note hi
    rcases Nat.lt_trichotomy i s.wrote.length with hlt | rfl | hgt
    · rw [Savers.writing, List.getElem?_append_left hlt] at hi
      obtain ⟨hmoment, before, hbefore, hafter⟩ := h.notes i note hi
      exact ⟨hmoment, before, hold hbefore, hold hafter⟩
    · rw [Savers.writing, List.getElem?_concat_length] at hi
      cases hi
      exact ⟨h.count, s.session.records, hold h.last, hrecords ▸ hnew⟩
    · have hlength := (List.getElem?_eq_some_iff.1 hi).1
      simp only [Savers.writing, List.length_append, List.length_singleton] at hlength
      omega
  · obtain ⟨shown, hmoment, hshows⟩ := h.shown
    exact ⟨shown, hold hmoment, hfiles ▸ hshows⟩

/-- A save that succeeds shows the records that were copied. -/
theorem saving (h : s.Recorded path) {moment : Nat} {records : MemoryStore} {files : FileTree}
    (hcopy : s.history[moment]? = some records) (hfile : s.fileMoment ≤ moment)
    (hsave : FileStore.replaceFile path records.snapshot none s.session.files = (.ok (), files)) :
    (s.saving moment (.ok ()) files).Recorded path := by
  have hmoment := fileMoment_saving moment (.ok ()) files s
  refine ⟨h.backend, h.count, h.last, h.notes, ?_, ?_⟩
  · rw [hmoment]
    intro x hx
    rcases List.mem_append.1 hx with hx | hx
    · exact Nat.le_trans (h.latest x hx) hfile
    · exact Nat.le_of_eq (congrArg Prod.fst (List.mem_singleton.1 hx))
  · rw [hmoment]
    exact ⟨records, hcopy, .inl (FileStore.find_of_ok hsave).1⟩

end Recorded

/-- Who holds the lock holds it alone. -/
theorem lock_ne (hholds : s.lock = some place) {q : Nat} (hq : q ≠ place) : s.lock ≠ some q := by
  rw [hholds]
  exact fun h => hq (Option.some.inj h).symm

/-- What fits a call still fits it when nothing that was entered is lost and, if the call holds the
lock, it keeps the lock and the file is left alone. -/
theorem Fits.kept {q : Nat} {stage : SaveStage} (h : s.Fits q stage)
    (hhistory : s.history <+: t.history)
    (hlock : s.lock = some q → t.lock = some q ∧ t.fileMoment = s.fileMoment) :
    t.Fits q stage := by
  cases stage with
  | putting w => trivial
  | working service => exact h
  | locked next => exact ⟨(hlock h.1).1, h.2⟩
  | replaced result next => exact ⟨(hlock h.1).1, h.2⟩
  | copied moment records next =>
    obtain ⟨hholds, hnext, hcopy, hfile⟩ := h
    obtain ⟨hholds', hmoment⟩ := hlock hholds
    exact ⟨hholds', hnext, getElem?_of_prefix hhistory hcopy, hmoment ▸ hfile⟩

/-- A step of the call at a place leads to an orderly state if it is recorded, leaves the others
what they rely on, and the writes of the call are in the file or still owed. -/
theorem Orderly.advance (h : s.Orderly path) {old new : SaveStage}
    (hplace : s.stages[place]? = some old) (hstages : t.stages = s.stages)
    (hrecorded : t.Recorded path) (hhistory : s.history <+: t.history)
    (hlock : ∀ q ≠ place, s.lock = some q → t.lock = some q ∧ t.fileMoment = s.fileMoment)
    (hfits : t.Fits place new) (hfile : s.fileMoment ≤ t.fileMoment)
    (hwrote : ∀ w ∈ t.wrote, w ∈ s.wrote ∨ w.place = place ∧ new.Owes w.moment)
    (howes : ∀ w ∈ s.wrote, old.Owes w.moment → w.moment ≤ t.fileMoment ∨ new.Owes w.moment) :
    (t.advance place new).Orderly path := by
  have hget (q : Nat) : (t.advance place new).stages[q]? =
      if q = place then some new else s.stages[q]? := by
    rw [getElem?_advance (by simp [hstages, hplace]), hstages]
  refine ⟨hrecorded.advance place new, ?_, ?_⟩
  · intro q stage hq
    rw [hget] at hq
    by_cases hqp : q = place
    · rw [if_pos hqp] at hq
      cases hq
      subst hqp
      exact hfits.kept (List.prefix_refl _) fun hholds => ⟨hholds, rfl⟩
    · rw [if_neg hqp] at hq
      exact (h.fits q stage hq).kept hhistory (hlock q hqp)
  · intro w hw
    rcases hwrote w hw with hw | ⟨hwplace, howes⟩
    · rcases h.owed w hw with hin | ⟨stage, hstage, hstageOwes⟩
      · exact .inl (Nat.le_trans hin hfile)
      · by_cases hwp : w.place = place
        · rw [hwp, hplace] at hstage
          cases hstage
          exact (howes w hw hstageOwes).imp_right fun hnew =>
            ⟨new, by rw [hget, if_pos hwp], hnew⟩
        · exact .inr ⟨stage, by rw [hget, if_neg hwp, hstage], hstageOwes⟩
    · exact .inr ⟨new, by rw [hget, if_pos hwplace], howes⟩

/-- A call that owes no save writes, and owes one then. -/
theorem Orderly.writing (h : s.Orderly path) {old new : SaveStage}
    (hplace : s.stages[place]? = some old) {w : Write} {session : Session σ}
    (hbackend : session.backend = .file ⟨path, session.records⟩)
    (hrecords : session.records = s.session.records.apply w)
    (hfiles : session.files = s.session.files) (hfits : (s.writing place w session).Fits place new)
    (hidle : ∀ moment, ¬ old.Owes moment) (howes : ∀ moment, new.Owes moment) :
    ((s.writing place w session).advance place new).Orderly path := by
  refine h.advance hplace rfl (h.recorded.writing place hbackend hrecords hfiles)
    (List.prefix_append _ _) (fun q _ hq => ⟨hq, rfl⟩) hfits (Nat.le_refl _) ?_
    fun w _ hold => absurd hold (hidle w.moment)
  intro note hnote
  rcases List.mem_append.1 hnote with hnote | hnote
  · exact .inl hnote
  · rw [List.mem_singleton.1 hnote]
    exact .inr ⟨rfl, howes _⟩

/-- A request other than a save. -/
theorem Orderly.asking (h : s.Orderly path) {r : Request} {next : r.Reply → Service Bool}
    (hplace : s.stages[place]? = some (.working (.ask r next))) (hr : r ≠ .save) :
    (s.turn c place).Orderly path := by
  obtain ⟨hafter, hnext⟩ := h.fits place _ hplace
  have hbackend := Session.backend_perform h.recorded.backend c hr
  have hrecords := Session.records_perform c r s.session
  have hfiles := Session.files_perform c hr s.session
  have hidle (moment : Nat) : ¬ (SaveStage.working (.ask r next)).Owes moment := by
    cases r <;> first | exact id | exact absurd rfl hr
  rw [turn_ask hr hplace]
  cases hwrite : (s.session.exchange c r).write? with
  | none =>
    rw [hwrite] at hrecords
    exact h.advance hplace rfl (h.recorded.asking hbackend hrecords hfiles)
      (List.prefix_refl _) (fun q _ hq => ⟨hq, rfl⟩) (hnext _) (Nat.le_refl _)
      (fun w hw => .inl hw) fun w _ howes => absurd howes (hidle w.moment)
  | some w =>
    rw [hwrite] at hrecords
    exact h.writing hplace hbackend hrecords hfiles (hnext _) hidle
      (SaveStage.owes_of_write hafter hwrite)

/-- Under the lock a call copies the records of the last moment, which no saved moment is after. -/
theorem Orderly.copying (h : s.Orderly path) {next : Except Failure Unit → Service Bool}
    (hplace : s.stages[place]? = some (.locked next)) : (s.turn c place).Orderly path := by
  obtain ⟨hholds, hnext⟩ := h.fits place _ hplace
  have hnow : s.history.length - 1 = s.wrote.length := by rw [h.recorded.count, Nat.add_sub_cancel]
  rw [turn_locked hplace, hnow]
  refine h.advance hplace rfl h.recorded (List.prefix_refl _) (fun q _ hq => ⟨hq, rfl⟩)
    ⟨hholds, hnext, h.recorded.last, h.recorded.fileMoment_le_length⟩ (Nat.le_refl _)
    (fun w hw => .inl hw) ?_
  intro w hw _
  obtain ⟨i, hi⟩ := List.mem_iff_getElem?.1 hw
  obtain ⟨hmoment, -⟩ := h.recorded.notes i w hi
  have hlt := (List.getElem?_eq_some_iff.1 hi).1
  exact .inr (hmoment ▸ hlt)

/-- The file is replaced by the copy: everything that its writer has written is in it. -/
theorem Orderly.replacing (h : s.Orderly path) {moment : Nat} {records : MemoryStore}
    {next : Except Failure Unit → Service Bool}
    (hplace : s.stages[place]? = some (.copied moment records next))
    (hsaved : (s.turn c place).AllSaved) : (s.turn c place).Orderly path := by
  obtain ⟨hholds, hnext, hcopy, hfile⟩ := h.fits place _ hplace
  have hsave := Session.save_withRecords h.recorded.backend records
  cases hreplaced : FileStore.replaceFile path records.snapshot none s.session.files with
  | mk result files =>
    rw [hreplaced] at hsave
    rw [turn_copied hplace, hsave] at hsaved ⊢
    have hok : result = .ok () :=
      hsaved (moment, result) (List.mem_append_right _ (List.mem_singleton_self _))
    subst hok
    have hmoment := Nat.le_of_eq (fileMoment_saving moment (.ok ()) files s).symm
    exact h.advance hplace rfl (h.recorded.saving hcopy hfile hreplaced) (List.prefix_refl _)
      (fun q hq hlock => absurd hlock (lock_ne hholds hq)) ⟨hholds, hnext⟩
      (Nat.le_trans hfile hmoment) (fun w hw => .inl hw)
      fun w _ howes => .inl (Nat.le_trans howes hmoment)

/-- **One step keeps order** unless it fails to replace the file. -/
theorem Orderly.turn (h : s.Orderly path) (c : Cloud σ) (place : Nat)
    (hsaved : (s.turn c place).AllSaved) : (s.turn c place).Orderly path := by
  cases hplace : s.stages[place]? with
  | none => rwa [Savers.turn, hplace]
  | some stage =>
    cases stage with
    | putting w =>
      rw [turn_putting hplace]
      exact h.writing hplace (Session.backend_withRecords h.recorded.backend _)
        (Session.records_withRecords _ _) rfl savesCommits_savingPut (fun _ => id) fun _ => trivial
    | working service =>
      cases service with
      | done a => rwa [Savers.turn, hplace]
      | fail f => rwa [Savers.turn, hplace]
      | ask r next =>
        by_cases hr : r = .save
        · subst hr
          obtain ⟨-, hnext⟩ := h.fits place _ hplace
          rw [turn_save hplace]
          split
          · rename_i hfree
            exact h.advance hplace rfl (h.recorded.locking (some place)) (List.prefix_refl _)
              (fun q _ hq => by rw [hfree] at hq; cases hq) ⟨rfl, hnext⟩ (Nat.le_refl _)
              (fun w hw => .inl hw) fun w _ _ => .inr trivial
          · exact h
        · exact h.asking hplace hr
    | locked next => exact h.copying hplace
    | copied moment records next => exact h.replacing hplace hsaved
    | replaced result next =>
      obtain ⟨hholds, hnext⟩ := h.fits place _ hplace
      rw [turn_replaced hplace]
      exact h.advance hplace rfl (h.recorded.locking none) (List.prefix_refl _)
        (fun q hq hlock => absurd hlock (lock_ne hholds hq)) (hnext result) (Nat.le_refl _)
        (fun w hw => .inl hw) fun _ _ howes => False.elim howes

/-! ### Runs -/

/-- Calls that are about to start on a store that was just opened are in order. -/
theorem orderly_start {session : Session σ} {store : FileStore}
    (hload : FileStore.load path session.files = .ok store) (calls : List SaveCall) :
    (start { session with backend := .file store } calls).Orderly path := by
  obtain ⟨snapshot, hstore, -⟩ := FileStore.eq_of_load hload
  have hrecords : store.memory = .ofSnapshot snapshot := by rw [hstore]
  refine ⟨⟨by rw [hstore]; rfl, rfl, rfl, nofun, fun _ hx => absurd hx List.not_mem_nil,
    store.memory, rfl, .inr ?_⟩, ?_, nofun⟩
  · rw [hrecords, MemoryStore.snapshot_ofSnapshot]
    exact hstore ▸ hload
  · intro place stage hstage
    obtain ⟨call, -, rfl⟩ := List.mem_map.1 (List.mem_of_getElem? hstage)
    cases call with
    | put r => trivial
    | transact t => exact savesCommits_transaction t

/-- A later state of a run: what was entered is still there. -/
structure Later (s t : Savers σ) : Prop where
  history : s.history <+: t.history
  saves : s.saves <+: t.saves

theorem later_turn (c : Cloud σ) (place : Nat) (s : Savers σ) : s.Later (s.turn c place) := by
  unfold turn
  split
  · exact ⟨List.prefix_append _ _, List.prefix_refl _⟩
  · split <;> exact ⟨List.prefix_refl _, List.prefix_refl _⟩
  · simp only
    split
    · exact ⟨List.prefix_append _ _, List.prefix_refl _⟩
    · exact ⟨List.prefix_refl _, List.prefix_refl _⟩
  · exact ⟨List.prefix_refl _, List.prefix_refl _⟩
  · exact ⟨List.prefix_refl _, List.prefix_append _ _⟩
  all_goals exact ⟨List.prefix_refl _, List.prefix_refl _⟩

theorem later_run (c : Cloud σ) (turns : List Nat) (s : Savers σ) : s.Later (s.run c turns) := by
  induction turns generalizing s with
  | nil => exact ⟨List.prefix_refl _, List.prefix_refl _⟩
  | cons place turns ih =>
    have hturn := later_turn c place s
    have hrun := ih (s.turn c place)
    exact ⟨hturn.history.trans hrun.history, hturn.saves.trans hrun.saves⟩

theorem Later.allSaved (h : s.Later t) (hsaved : t.AllSaved) : s.AllSaved :=
  fun x hx => hsaved x (h.saves.subset hx)

/-- **Every run keeps order** in which no save fails. -/
theorem Orderly.run (h : s.Orderly path) (c : Cloud σ) (turns : List Nat)
    (hsaved : (s.run c turns).AllSaved) : (s.run c turns).Orderly path := by
  induction turns generalizing s with
  | nil => exact h
  | cons place turns ih =>
    exact ih (h.turn c place ((later_run c turns _).allSaved hsaved)) hsaved

/-! ### What a call reports -/

/-- Every call has written, or reports no write if it goes on without one. -/
def Reporting (s : Savers σ) : Prop :=
  ∀ place stage, s.stages[place]? = some stage →
    (∃ w ∈ s.wrote, w.place = place) ∨ stage.Unwritten

theorem reporting_start (session : Session σ) (calls : List SaveCall) :
    (start session calls).Reporting := by
  intro place stage hstage
  obtain ⟨call, -, rfl⟩ := List.mem_map.1 (List.mem_of_getElem? hstage)
  cases call with
  | put r => exact .inr trivial
  | transact t => exact .inr (unlessWritten_transaction t)

theorem Reporting.advance (h : s.Reporting) {old new : SaveStage}
    (hplace : s.stages[place]? = some old) (hstages : t.stages = s.stages)
    (hwrote : s.wrote <+: t.wrote)
    (hnew : (∃ w ∈ t.wrote, w.place = place) ∨ (old.Unwritten → new.Unwritten)) :
    (t.advance place new).Reporting := by
  have hearlier {q : Nat} : (∃ w ∈ s.wrote, w.place = q) → ∃ w ∈ t.wrote, w.place = q :=
    fun ⟨w, hw, hq⟩ => ⟨w, hwrote.subset hw, hq⟩
  intro q stage hq
  rw [getElem?_advance (by simp [hstages, hplace]), hstages] at hq
  by_cases hqp : q = place
  · rw [if_pos hqp] at hq
    cases hq
    subst hqp
    rcases hnew with hwritten | hnew
    · exact .inl hwritten
    · exact (h q old hplace).imp hearlier hnew
  · rw [if_neg hqp] at hq
    exact (h q stage hq).imp_left hearlier

theorem Reporting.turn (h : s.Reporting) (c : Cloud σ) (place : Nat) :
    (s.turn c place).Reporting := by
  have hnoted (w : Write) (session : Session σ) :
      ∃ note ∈ (s.writing place w session).wrote, note.place = place :=
    ⟨_, List.mem_append_right _ (List.mem_singleton_self _), rfl⟩
  cases hplace : s.stages[place]? with
  | none => rwa [Savers.turn, hplace]
  | some stage =>
    cases stage with
    | putting w =>
      rw [turn_putting hplace]
      exact h.advance hplace rfl (List.prefix_append _ _) (.inl (hnoted _ _))
    | working service =>
      cases service with
      | done a => rwa [Savers.turn, hplace]
      | fail f => rwa [Savers.turn, hplace]
      | ask r next =>
        by_cases hr : r = .save
        · subst hr
          rw [turn_save hplace]
          split
          · exact h.advance hplace rfl (List.prefix_refl _) (.inr fun hold r => hold {} r rfl)
          · exact h
        · rw [turn_ask hr hplace]
          cases hwrite : (s.session.exchange c r).write? with
          | none =>
            exact h.advance hplace rfl (List.prefix_refl _) (.inr fun hold => hold _ _ hwrite)
          | some w => exact h.advance hplace rfl (List.prefix_append _ _) (.inl (hnoted _ _))
    | locked next =>
      rw [turn_locked hplace]
      exact h.advance hplace rfl (List.prefix_refl _) (.inr id)
    | copied moment records next =>
      rw [turn_copied hplace]
      exact h.advance hplace rfl (List.prefix_refl _) (.inr id)
    | replaced result next =>
      rw [turn_replaced hplace]
      exact h.advance hplace rfl (List.prefix_refl _) (.inr fun hold => hold result)

theorem Reporting.run (h : s.Reporting) (c : Cloud σ) (turns : List Nat) :
    (s.run c turns).Reporting := by
  induction turns generalizing s with
  | nil => exact h
  | cons place turns ih => exact ih (h.turn c place)

/-! ### What the file holds -/

namespace Recorded

/-- A state after the start is what a write has left of the state before it. -/
theorem step (h : s.Recorded path) {i : Nat} {after : MemoryStore}
    (hafter : s.history[i + 1]? = some after) : ∃ w ∈ s.wrote, w.moment = i + 1 ∧
      ∃ before, s.history[i]? = some before ∧ after = before.apply w.write := by
  have hlt := (List.getElem?_eq_some_iff.1 hafter).1
  rw [h.count] at hlt
  have hw := List.getElem?_eq_getElem (Nat.lt_of_succ_lt_succ hlt)
  obtain ⟨hmoment, before, hbefore, hafter'⟩ := h.notes i _ hw
  rw [hafter] at hafter'
  exact ⟨_, List.getElem_mem _, hmoment, before, hbefore, Option.some.inj hafter'⟩

/-- The records only grow. -/
theorem grows (h : s.Recorded path) {i j : Nat} (hij : i ≤ j) {old new : MemoryStore}
    (hi : s.history[i]? = some old) (hj : s.history[j]? = some new) : old.Grows new := by
  induction hij generalizing new with
  | refl =>
    rw [hi] at hj
    cases hj
    exact .refl old
  | step hij ih =>
    obtain ⟨w, -, -, before, hbefore, rfl⟩ := h.step hj
    exact (ih hbefore).trans (MemoryStore.grows_put _ _ _ _)

/-- From a write on, its record has the value of this write or of a later one. -/
theorem written (h : s.Recorded path) {w : WriteNote} (hw : w ∈ s.wrote) {j : Nat}
    (hj : w.moment ≤ j) {records : MemoryStore} (hrecords : s.history[j]? = some records) :
    ∃ later ∈ s.wrote, w.moment ≤ later.moment ∧ later.moment ≤ j ∧
      later.write.kind = w.write.kind ∧ later.write.id = w.write.id ∧
      (records.find? w.write.kind w.write.id).map Stored.value = some later.write.value := by
  induction hj generalizing records with
  | refl =>
    obtain ⟨i, hi⟩ := List.mem_iff_getElem?.1 hw
    obtain ⟨hmoment, before, -, hafter⟩ := h.notes i w hi
    rw [hmoment, hafter] at hrecords
    cases hrecords
    exact ⟨w, hw, Nat.le_refl _, Nat.le_refl _, rfl, rfl,
      by rw [MemoryStore.apply, MemoryStore.find?_put_self]; rfl⟩
  | step hj ih =>
    obtain ⟨next, hnext, hmoment, before, hbefore, rfl⟩ := h.step hrecords
    rw [MemoryStore.apply, MemoryStore.find?_put]
    split
    · rename_i hsame
      exact ⟨next, hnext, hmoment ▸ Nat.le_succ_of_le hj, Nat.le_of_eq hmoment, hsame.1.symm,
        hsame.2.symm, rfl⟩
    · obtain ⟨later, hlater, hfrom, hto, hrecord⟩ := ih hbefore
      exact ⟨later, hlater, hfrom, Nat.le_succ_of_le hto, hrecord⟩

end Recorded

namespace Orderly

/-- What a call that has returned has written is in the file. -/
theorem fileMoment_of_ended (h : s.Orderly path) {w : WriteNote} (hw : w ∈ s.wrote)
    (hended : ∀ stage, s.stages[w.place]? = some stage → stage.ended = true) :
    w.moment ≤ s.fileMoment := by
  rcases h.owed w hw with hin | ⟨stage, hstage, howes⟩
  · exact hin
  · exact absurd howes (SaveStage.not_owes_of_ended (hended stage hstage) w.moment)

/-- When all calls have returned, the file is up to date. -/
theorem fileMoment_of_allEnded (h : s.Orderly path)
    (hended : ∀ stage ∈ s.stages, stage.ended = true) : s.fileMoment = s.wrote.length := by
  refine Nat.le_antisymm h.recorded.fileMoment_le_length ?_
  cases hlast : s.wrote.length with
  | zero => exact Nat.zero_le _
  | succ n =>
    have hn : n < s.wrote.length := by omega
    obtain ⟨hmoment, -⟩ := h.recorded.notes n _ (List.getElem?_eq_getElem hn)
    rw [← hmoment]
    exact h.fileMoment_of_ended (List.getElem_mem hn) fun stage hstage =>
      hended stage (List.mem_of_getElem? hstage)

end Orderly

end Savers

/-- **The file never goes back, holds what a call has written when it returns, and holds all records
when all have returned.** Any number of puts and transactions take their steps on one store in any
order, and no replacement of the file fails. The file then shows the records as they were at a
moment that never falls. A call that reports a write has one, and once a call has returned, the file
has the value of its write or of a later write of the same record. When all calls have returned, the
file shows the records in memory. -/
theorem concurrent_saves (c : Cloud σ) (session : Session σ) {path : String} {store : FileStore}
    (hload : FileStore.load path session.files = .ok store) (calls : List SaveCall)
    (turns : List Nat)
    (hsaved : ((Savers.start { session with backend := .file store } calls).run c turns).AllSaved) :
    let start := Savers.start { session with backend := .file store } calls
    let s := start.run c turns
    (∀ earlier, earlier <+: turns →
      let s₀ := start.run c earlier
      s₀.fileMoment ≤ s.fileMoment ∧ ∃ old new, s.history[s₀.fileMoment]? = some old ∧
        s.history[s.fileMoment]? = some new ∧ old.Grows new ∧
        FileShows path old.snapshot s₀.session.files ∧
        FileShows path new.snapshot s.session.files) ∧
    (∀ place, s.stages[place]? = some (.working (.done true)) → ∃ w ∈ s.wrote, w.place = place) ∧
    (∀ w ∈ s.wrote, (∀ stage, s.stages[w.place]? = some stage → stage.ended = true) →
      ∃ shown, FileShows path shown s.session.files ∧
        ∃ later ∈ s.wrote, w.moment ≤ later.moment ∧ later.write.kind = w.write.kind ∧
          later.write.id = w.write.id ∧
          Table.get? w.write.id (shown.table w.write.kind) = some later.write.value) ∧
    ((∀ stage ∈ s.stages, stage.ended = true) →
      FileShows path s.session.records.snapshot s.session.files) := by
  intro start s
  have hstart : start.Orderly path := Savers.orderly_start hload calls
  have horder : s.Orderly path := hstart.run c turns hsaved
  have hreports : s.Reporting := (Savers.reporting_start _ calls).run c turns
  obtain ⟨new, hnew, hshows⟩ := horder.recorded.shown
  refine ⟨?_, ?_, ?_, ?_⟩
  · rintro earlier ⟨rest, hrest⟩
    intro s₀
    have hs : s = s₀.run c rest := by rw [← Savers.run_append, hrest]
    have hlater : s₀.Later s := hs ▸ Savers.later_run c rest s₀
    have horder₀ : s₀.Orderly path := hstart.run c earlier (hlater.allSaved hsaved)
    have hmoment : s₀.fileMoment ≤ s.fileMoment :=
      Savers.fileMoment_le fun x hx => horder.recorded.latest x (hlater.saves.subset hx)
    obtain ⟨old, hold, hshows₀⟩ := horder₀.recorded.shown
    have hold' := Savers.getElem?_of_prefix hlater.history hold
    have hgrows := horder.recorded.grows hmoment hold' hnew
    exact ⟨hmoment, old, new, hold', hnew, hgrows, hshows₀, hshows⟩
  · intro place hdone
    refine (hreports place _ hdone).resolve_right fun hunwritten => ?_
    cases hunwritten
  · intro w hw hended
    have hmoment := horder.fileMoment_of_ended hw hended
    obtain ⟨later, hlater, hfrom, -, hkind, hid, hvalue⟩ := horder.recorded.written hw hmoment hnew
    refine ⟨new.snapshot, hshows, later, hlater, hfrom, hkind, hid, ?_⟩
    rw [MemoryStore.snapshot_table, MemoryStore.get?_rows, hvalue]
  · intro hended
    have hlast := horder.recorded.last
    rw [← horder.fileMoment_of_allEnded hended, hnew] at hlast
    exact Option.some.inj hlast ▸ hshows

namespace Sample

/-- A transaction that marks the instance as cataloged if it is there. -/
def cataloging : Transaction where
  key := machine.key
  mutate (current : Option Instance) := (current.map fun i => { i with cataloged := true }, ())

/-- A put and a transaction on a store that does not exist yet. -/
def writers : Savers CloudScript :=
  .start { fresh with backend := .file unmade } [.put machine, .transact cataloging]

/-- The transaction finds what was put, and saves both writes while the put waits for the lock. -/
def writersTurns : List Nat := [0, 1, 1, 1, 0, 1, 1, 1, 0, 0, 0, 0]

end Sample

/-- The put has returned when the other has written to the same record and saved before it. -/
theorem concurrent_saves_of_two_writers :
    let s := Sample.writers.run CloudScript.cloud Sample.writersTurns
    FileStore.load "store.json" Sample.fresh.files = .ok Sample.unmade ∧ s.AllSaved ∧
      (∀ stage ∈ s.stages, stage.ended = true) ∧ s.saves.map Prod.fst = [2, 2] ∧
      FileShows "store.json" s.session.records.snapshot s.session.files := by
  intro s
  have hload : FileStore.load "store.json" Sample.fresh.files = .ok Sample.unmade := by
    decide +kernel
  have hsaved : s.AllSaved := by
    unfold Savers.AllSaved
    decide +kernel
  have hended : ∀ stage ∈ s.stages, stage.ended = true := by decide +kernel
  obtain ⟨-, -, -, hall⟩ := concurrent_saves CloudScript.cloud Sample.fresh hload
    [.put Sample.machine, .transact Sample.cataloging] Sample.writersTurns hsaved
  exact ⟨hload, hsaved, hended, by decide +kernel, hall hended⟩

end FleetReconciler
