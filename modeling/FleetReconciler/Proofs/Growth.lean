import FleetReconciler.Store.Memory

/-!
# The store only grows

Every write raises the version of one record and leaves all others alone, and nothing removes a
record. Two moments in the life of a store are therefore related by `MemoryStore.Grows`: versions
have not fallen, and **a record whose version is the same is the same record**. A reader that finds
the version it has seen knows that nobody has written in between.

* `find?_put` — what is stored after a write, in one equation;
* `MemoryStore.Grows` — the relation, with `Grows.refl` and `Grows.trans`;
* `grows_put` — a write follows it;
* `Grows.find?_eq`, `Grows.isSome` — the same version means the same record, and records stay.
-/

namespace FleetReconciler

/-- The names of the kinds are different. -/
theorem Kind.name_injective {k l : Kind} (h : k.name = l.name) : k = l := by
  revert h
  cases k <;> cases l <;> decide

namespace MemoryStore

/-- What is stored after a write: the value with the next version under its id, all else as
before. -/
theorem find?_put (s : MemoryStore) (kind other : Kind) (id id' : String) (value : Json) :
    (s.put kind id value).find? other id' =
      if other = kind ∧ id' = id then some ⟨s.version kind id + 1, value⟩
      else s.find? other id' := by
  by_cases hk : other = kind
  · subst hk
    by_cases hi : id' = id
    · subst hi
      simpa using find?_put_self s other id' value
    · simpa [hi] using find?_put_of_id_ne s other hi value
  · have hn : other.name ≠ kind.name := fun e => hk (Kind.name_injective e)
    simpa [hk] using find?_put_of_kind_ne s hn id id' value

theorem version_put (s : MemoryStore) (kind other : Kind) (id id' : String) (value : Json) :
    (s.put kind id value).version other id' =
      s.version other id' + if other = kind ∧ id' = id then 1 else 0 := by
  unfold version
  rw [find?_put]
  split
  · rename_i h
    obtain ⟨rfl, rfl⟩ := h
    rfl
  · rfl

/-- Versions have not fallen, and a record of the same version is the same. -/
def Grows (s t : MemoryStore) : Prop :=
  ∀ kind id, s.version kind id ≤ t.version kind id ∧
    (t.version kind id = s.version kind id → t.find? kind id = s.find? kind id)

namespace Grows

variable {s t u : MemoryStore}

theorem refl (s : MemoryStore) : s.Grows s := fun _ _ => ⟨Nat.le_refl _, fun _ => rfl⟩

theorem trans (h : s.Grows t) (h' : t.Grows u) : s.Grows u := by
  intro kind id
  obtain ⟨hle, heq⟩ := h kind id
  obtain ⟨hle', heq'⟩ := h' kind id
  refine ⟨Nat.le_trans hle hle', fun hv => ?_⟩
  -- the version in the middle lies between two equal ones
  have hmid : t.version kind id = s.version kind id := by omega
  rw [heq' (by omega), heq hmid]

/-- **No write goes unnoticed**: the same version means the same record. -/
theorem find?_eq (h : s.Grows t) {kind : Kind} {id : String}
    (hv : t.version kind id = s.version kind id) : t.find? kind id = s.find? kind id :=
  (h kind id).2 hv

/-- A record is never removed. -/
theorem isSome (h : s.Grows t) {kind : Kind} {id : String} (hs : (s.find? kind id).isSome) :
    (t.find? kind id).isSome := by
  obtain ⟨hle, heq⟩ := h kind id
  cases ht : t.find? kind id with
  | some r => rfl
  | none =>
    have hzero : t.version kind id = 0 := by simp [version, ht]
    rw [heq (by omega)] at ht
    simp [ht] at hs

end Grows

theorem grows_put (s : MemoryStore) (kind : Kind) (id : String) (value : Json) :
    s.Grows (s.put kind id value) := by
  intro other id'
  rw [version_put, find?_put]
  split
  · exact ⟨by omega, fun h => by omega⟩
  · exact ⟨by omega, fun _ => rfl⟩

/-- A commit is a write, or it leaves the store alone. -/
theorem commit_eq (s : MemoryStore) (kind : Kind) (id : String) (expected : Nat) (value : Json) :
    s.commit kind id expected value =
      if s.version kind id = expected then (true, s.put kind id value) else (false, s) := rfl

end MemoryStore

end FleetReconciler
