import FleetReconciler.Drain
import FleetReconciler.Proofs.KeyText
import Mathlib.Data.List.Nodup

/-!
# Which groups are drained

All drained managers of a collection of records are found by going over whole tables, while the rule
for one manager looks only at its own revision and its own template.

* `KeySet.mem_ofList` — what is in the set of the keys of a list;
* `mem_drainedManagers` — **a manager is in the collection just if its own revision lists it, or its
  own template lists its revision**;
* `mem_drainedManagers_iff_isDrained` — where a manager has one revision and one template, the
  tables and the rule agree;
* `drainedManagers_agrees_with_rule` — both, for all tables in which no key has two records.
-/

namespace FleetReconciler

namespace KeySet

variable {κ : Type} [EntityKey κ] [LawfulKey κ]

theorem mem_insertInto {k x : κ} {l : List κ} : x ∈ insertInto k l ↔ x = k ∨ x ∈ l := by
  refine ⟨mem_of_mem_insertInto, ?_⟩
  induction l with
  | nil => simp [insertInto]
  | cons a l ih =>
    unfold insertInto
    split
    · rename_i htexts
      -- keys of equal components are one key, so the key is there already
      have hkey : k = a := EntityKey.text_injective (by simp only [EntityKey.text, htexts])
      rintro (rfl | hx)
      · exact hkey ▸ List.mem_cons_self
      · exact hx
    · split
      · exact fun hx => List.mem_cons.2 hx
      · rintro (rfl | hx)
        · exact List.mem_cons_of_mem _ (ih (.inl rfl))
        · rcases List.mem_cons.1 hx with rfl | hx
          · exact List.mem_cons_self
          · exact List.mem_cons_of_mem _ (ih (.inr hx))

theorem mem_insert {k x : κ} {s : KeySet κ} : x ∈ s.insert k ↔ x = k ∨ x ∈ s := mem_insertInto

theorem mem_foldl_insert {x : κ} {ks : List κ} {s : KeySet κ} :
    x ∈ ks.foldl (fun s k => s.insert k) s ↔ x ∈ ks ∨ x ∈ s := by
  induction ks generalizing s with
  | nil => simp
  | cons k ks ih => rw [List.foldl_cons, ih, mem_insert, List.mem_cons, or_left_comm, or_assoc]

theorem mem_ofList {x : κ} {ks : List κ} : x ∈ ofList ks ↔ x ∈ ks := by
  have hempty : x ∉ (empty : KeySet κ) := List.not_mem_nil
  unfold ofList
  rw [mem_foldl_insert]
  exact or_iff_left hempty

end KeySet

/-! ## Drained managers -/

theorem mem_drainedByRevision {revisions : List Revision} {m : ManagerKey} :
    m ∈ drainedByRevision revisions ↔ ∃ r ∈ revisions, r.key = m.parent ∧ m ∈ r.drained := by
  simp only [drainedByRevision, List.mem_flatMap, List.mem_filter, decide_eq_true_eq]
  constructor
  · rintro ⟨r, hr, hm, hparent⟩
    exact ⟨r, hr, hparent.symm, hm⟩
  · rintro ⟨r, hr, hparent, hm⟩
    exact ⟨r, hr, hm, hparent.symm⟩

theorem mem_drainedRevisions {templates : List Template} {r : RevisionKey} :
    r ∈ drainedRevisions templates ↔ ∃ t ∈ templates, t.key = r.parent ∧ r ∈ t.drained := by
  simp only [drainedRevisions, List.mem_flatMap, List.mem_filter, decide_eq_true_eq]
  constructor
  · rintro ⟨t, ht, hr, hparent⟩
    exact ⟨t, ht, hparent.symm, hr⟩
  · rintro ⟨t, ht, hparent, hr⟩
    exact ⟨t, ht, hr, hparent.symm⟩

/-- **A manager is among the drained ones just if its own revision lists it, or if it is one of the
given managers and its own template lists its revision.** -/
theorem mem_drainedManagers {templates : List Template} {revisions : List Revision}
    {managers : List Manager} {m : ManagerKey} :
    m ∈ drainedManagers templates revisions managers ↔
      (∃ r ∈ revisions, r.key = m.parent ∧ m ∈ r.drained) ∨
        (∃ x ∈ managers, x.key = m) ∧ ∃ t ∈ templates, t.key = m.parent.parent ∧
          m.parent ∈ t.drained := by
  unfold drainedManagers
  rw [KeySet.mem_ofList, List.mem_append, mem_drainedByRevision]
  refine or_congr_right ?_
  simp only [drainedByTemplate, List.mem_map, List.mem_filter, decide_eq_true_eq]
  constructor
  · rintro ⟨x, ⟨hx, hparent⟩, rfl⟩
    exact ⟨⟨x, hx, rfl⟩, mem_drainedRevisions.1 hparent⟩
  · rintro ⟨⟨x, hx, rfl⟩, hlisted⟩
    exact ⟨x, ⟨hx, mem_drainedRevisions.2 hlisted⟩, rfl⟩

/-- A given manager, whose revision and template are the only ones with their keys, is among the
drained ones just if the rule for it says so. -/
theorem mem_drainedManagers_iff_isDrained {templates : List Template} {revisions : List Revision}
    {managers : List Manager} {manager : Manager} {revision : Revision} {template : Template}
    (hmanager : manager ∈ managers) (hrevision : revision ∈ revisions)
    (htemplate : template ∈ templates) (hrevisionKey : revision.key = manager.key.parent)
    (htemplateKey : template.key = manager.key.parent.parent)
    (onlyRevision : ∀ r ∈ revisions, r.key = revision.key → r = revision)
    (onlyTemplate : ∀ t ∈ templates, t.key = template.key → t = template) :
    manager.key ∈ drainedManagers templates revisions managers ↔
      isDrained manager.key revision template = true := by
  rw [mem_drainedManagers, isDrained, decide_eq_true_eq]
  refine or_congr ?_ ?_
  · constructor
    · rintro ⟨r, hr, hkey, hlisted⟩
      have hsame : r = revision := onlyRevision r hr (hkey.trans hrevisionKey.symm)
      exact hsame ▸ hlisted
    · intro hlisted
      exact ⟨revision, hrevision, hrevisionKey, hlisted⟩
  · rw [hrevisionKey]
    constructor
    · rintro ⟨-, t, ht, hkey, hlisted⟩
      have hsame : t = template := onlyTemplate t ht (hkey.trans htemplateKey.symm)
      exact hsame ▸ hlisted
    · intro hlisted
      exact ⟨⟨manager, hmanager, rfl⟩, template, htemplate, htemplateKey, hlisted⟩

/-- **The tables and the rule for one manager agree**, whatever the drained sets hold. A key is among
the drained managers just if a revision with its parent's key lists it, or if it is the key of a
given manager and a template with its revision's parent's key lists its revision. Hence, where no two
templates and no two revisions have one key, a given manager whose revision and template are given is
drained by the tables just if it is drained by the rule. -/
theorem drainedManagers_agrees_with_rule (templates : List Template) (revisions : List Revision)
    (managers : List Manager) :
    (∀ m, m ∈ drainedManagers templates revisions managers ↔
      (∃ r ∈ revisions, r.key = m.parent ∧ m ∈ r.drained) ∨
        (∃ x ∈ managers, x.key = m) ∧ ∃ t ∈ templates, t.key = m.parent.parent ∧
          m.parent ∈ t.drained) ∧
    ((templates.map Template.key).Nodup → (revisions.map Revision.key).Nodup →
      ∀ manager ∈ managers, ∀ revision ∈ revisions, ∀ template ∈ templates,
        revision.key = manager.key.parent → template.key = manager.key.parent.parent →
        decide (manager.key ∈ drainedManagers templates revisions managers) =
          isDrained manager.key revision template) := by
  refine ⟨fun m => mem_drainedManagers, ?_⟩
  intro htemplates hrevisions manager hmanager revision hrevision template htemplate
    hrevisionKey htemplateKey
  have hiff := mem_drainedManagers_iff_isDrained hmanager hrevision htemplate hrevisionKey
    htemplateKey (fun r hr => List.inj_on_of_nodup_map hrevisions hr hrevision)
    (fun t ht => List.inj_on_of_nodup_map htemplates ht htemplate)
  rw [Bool.eq_iff_iff, decide_eq_true_eq]
  exact hiff

/-- Each of two revisions lists the manager of the other, which drains neither; the template lists
the second revision, and so the manager of that one is drained. -/
theorem drained_only_by_own_template :
    let base : TemplateKey := ⟨⟨"base", by decide⟩⟩
    let first : RevisionKey := ⟨base, ⟨"r1", by decide⟩⟩
    let second : RevisionKey := ⟨base, ⟨"r2", by decide⟩⟩
    let foreign : RevisionKey := ⟨⟨⟨"other", by decide⟩⟩, ⟨"r1", by decide⟩⟩
    let one : ManagerKey := ⟨first, ⟨"zone", by decide⟩⟩
    let two : ManagerKey := ⟨second, ⟨"zone", by decide⟩⟩
    let templates : List Template := [{ key := base, drained := .ofList [second, foreign] }]
    let revisions : List Revision :=
      [{ key := first, drained := .ofList [two] }, { key := second, drained := .ofList [one] }]
    let managers : List Manager := [{ key := one }, { key := two }]
    ((templates.map Template.key).Nodup ∧ (revisions.map Revision.key).Nodup) ∧
      decide (one ∈ drainedManagers templates revisions managers) = false ∧
      decide (two ∈ drainedManagers templates revisions managers) = true := by
  intro base first second foreign one two templates revisions managers
  have hkeys : (templates.map Template.key).Nodup ∧ (revisions.map Revision.key).Nodup := by decide
  have hagree := (drainedManagers_agrees_with_rule templates revisions managers).2 hkeys.1 hkeys.2
  refine ⟨hkeys, ?_, ?_⟩
  · exact (hagree ⟨one, none, []⟩ (by decide) ⟨first, none, .ofList [two]⟩ (by decide)
      ⟨base, .ofList [second, foreign]⟩ (by decide) rfl rfl).trans (by decide)
  · exact (hagree ⟨two, none, []⟩ (by decide) ⟨second, none, .ofList [one]⟩ (by decide)
      ⟨base, .ofList [second, foreign]⟩ (by decide) rfl rfl).trans (by decide)

end FleetReconciler
