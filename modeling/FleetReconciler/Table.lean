/-!
# Tables

A table is a list of pairs of a name and a value, kept in ascending order of the names. The order of
strings is that of their code points, which is also the order of their UTF-8 bytes.

* `Table.get?`, `Table.insert` — look a name up, set the value of a name;
* `Table.ofList` — the table of a list of pairs in which a later pair wins;
* `get?_insert_self`, `get?_insert_of_ne` — what an insertion does to every look-up;
* `mem_of_get?_eq_some`, `get?_eq_none` — what a look-up finds is there;
* `get?_map`, `insert_map` — look-ups and insertions when all values are mapped;
* `Table.Ascending`, `ascending_insert`, `ascending_ofList` — the order of the names is kept.
-/

namespace FleetReconciler

/-- Pairs of a name and a value. Every table that the library builds has ascending names. -/
abbrev Table (α : Type) := List (String × α)

namespace Table

variable {α : Type}

/-- The value stored under `name`. -/
def get? (name : String) : Table α → Option α
  | [] => none
  | (n, a) :: rest => if name = n then some a else get? name rest

/-- Sets the value of `name`, at the place that keeps ascending names ascending. -/
def insert (name : String) (value : α) : Table α → Table α
  | [] => [(name, value)]
  | (n, a) :: rest =>
    if name = n then (name, value) :: rest
    else if name < n then (name, value) :: (n, a) :: rest
    else (n, a) :: insert name value rest

/-- The table of a list of pairs; of two pairs with one name the later wins. -/
def ofList (pairs : List (String × α)) : Table α :=
  pairs.foldl (fun t p => t.insert p.1 p.2) []

/-- The names in order. -/
def names (t : Table α) : List String := t.map Prod.fst

theorem get?_insert_self (name : String) (value : α) (t : Table α) :
    get? name (insert name value t) = some value := by
  induction t with
  | nil => simp [insert, get?]
  | cons p rest ih =>
    obtain ⟨n, a⟩ := p
    by_cases h : name = n
    · simp [insert, get?, h]
    · by_cases hl : name < n <;> simp [insert, get?, h, hl, ih]

theorem get?_insert_of_ne {name other : String} (h : other ≠ name) (value : α) (t : Table α) :
    get? other (insert name value t) = get? other t := by
  induction t with
  | nil => simp [insert, get?, h]
  | cons p rest ih =>
    obtain ⟨n, a⟩ := p
    by_cases hn : name = n
    · subst hn; simp [insert, get?, h]
    · by_cases hl : name < n <;> simp [insert, get?, h, hn, hl, ih]

theorem get?_eq_none {name : String} {t : Table α} (h : name ∉ t.map Prod.fst) :
    get? name t = none := by
  induction t with
  | nil => rfl
  | cons p t ih =>
    simp only [List.map_cons, List.mem_cons, not_or] at h
    rw [get?, if_neg h.1, ih h.2]

theorem mem_of_get?_eq_some {name : String} {value : α} {t : Table α}
    (h : get? name t = some value) : (name, value) ∈ t := by
  induction t with
  | nil => cases h
  | cons p t ih =>
    obtain ⟨n, a⟩ := p
    rw [get?] at h
    split at h
    · rename_i heq
      cases h
      exact heq ▸ List.mem_cons_self
    · exact List.mem_cons_of_mem _ (ih h)

/-! ## Other values -/

variable {β : Type}

theorem get?_map (f : α → β) (name : String) (t : Table α) :
    get? name (t.map fun p => (p.1, f p.2)) = (get? name t).map f := by
  induction t with
  | nil => rfl
  | cons p t ih =>
    simp only [List.map_cons, get?, ih]
    split <;> rfl

theorem insert_map (f : α → β) (name : String) (value : α) (t : Table α) :
    (insert name value t).map (fun p => (p.1, f p.2)) =
      insert name (f value) (t.map fun p => (p.1, f p.2)) := by
  induction t with
  | nil => rfl
  | cons p t ih =>
    obtain ⟨n, a⟩ := p
    simp only [insert, List.map_cons]
    split
    · rfl
    · split
      · rfl
      · rw [List.map_cons, ih]

/-! ## Ascending names -/

/-- The names ascend strictly, so each occurs once. -/
def Ascending (t : Table α) : Prop := t.Pairwise (fun p q => p.1 < q.1)

theorem mem_insert {name : String} {value : α} {t : Table α} {p : String × α}
    (h : p ∈ insert name value t) : p = (name, value) ∨ p ∈ t := by
  induction t with
  | nil => simpa [insert] using h
  | cons q rest ih =>
    obtain ⟨n, a⟩ := q
    unfold insert at h
    split at h
    · rcases List.mem_cons.1 h with h | h
      · exact .inl h
      · exact .inr (List.mem_cons_of_mem _ h)
    · split at h
      · rcases List.mem_cons.1 h with h | h
        · exact .inl h
        · exact .inr h
      · rcases List.mem_cons.1 h with h | h
        · exact .inr (h ▸ List.mem_cons_self)
        · exact (ih h).imp_right (List.mem_cons_of_mem _)

theorem ascending_insert {t : Table α} (h : t.Ascending) (name : String) (value : α) :
    (insert name value t).Ascending := by
  induction t with
  | nil => simp [insert, Ascending]
  | cons q rest ih =>
    obtain ⟨n, a⟩ := q
    obtain ⟨hhead, htail⟩ := List.pairwise_cons.1 h
    unfold insert
    split
    · rename_i e
      subst e
      exact List.pairwise_cons.2 ⟨hhead, htail⟩
    · rename_i hne
      split
      · rename_i hlt
        refine List.pairwise_cons.2 ⟨?_, h⟩
        intro p hp
        rcases List.mem_cons.1 hp with hp | hp
        · exact hp ▸ hlt
        · exact String.lt_trans hlt (hhead p hp)
      · rename_i hnlt
        refine List.pairwise_cons.2 ⟨?_, ih htail⟩
        intro p hp
        rcases mem_insert hp with hp | hp
        · subst hp
          exact Std.lt_of_le_of_ne (String.not_lt.1 hnlt) (fun e => hne e.symm)
        · exact hhead p hp

theorem ascending_foldl_insert (pairs : List (String × α)) {t : Table α} (h : t.Ascending) :
    (pairs.foldl (fun t p => insert p.1 p.2 t) t).Ascending := by
  induction pairs generalizing t with
  | nil => exact h
  | cons p rest ih => exact ih (ascending_insert h p.1 p.2)

theorem ascending_ofList (pairs : List (String × α)) : (ofList pairs).Ascending :=
  ascending_foldl_insert pairs List.Pairwise.nil

end Table

end FleetReconciler
