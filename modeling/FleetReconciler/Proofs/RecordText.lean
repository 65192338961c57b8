import FleetReconciler.Proofs.KeyText
import FleetReconciler.Proofs.TimestampText
import FleetReconciler.Record.Codec
import Mathlib.Data.List.Forall2
import Mathlib.Data.List.Nodup

/-!
# Reading back what is written

A record is written with its members in declared order; a stored record has them in ascending order.
Both leave out what is not given. The reader looks each member up by name, so neither the order nor
what is left out loses anything.

* `Table.get?_ofList`, `Table.ofList_of_ascending`, `KeySet.ofList_toList` — tables and sets that
  are built again;
* `Json.Form`, `Json.inForm` — a value as it is written and as it is stored;
* `Decode.key_inForm` and the like — one value;
* `RecordShape.view_written`, `Field.required_written`, `Field.defaulted_written` — the members;
* `Template.decode_inForm` and the like — a record, in either form;
* `LawfulEntity` — **reading a stored record gives the record**, for each of the four kinds.
-/

namespace FleetReconciler

/-! ## Tables and sets -/

namespace Table

variable {α β : Type}

theorem get?_foldl_insert {name : String} {pairs : List (String × α)} {t : Table α}
    (h : name ∉ pairs.map Prod.fst) :
    get? name (pairs.foldl (fun t p => insert p.1 p.2 t) t) = get? name t := by
  induction pairs generalizing t with
  | nil => rfl
  | cons p pairs ih =>
    simp only [List.map_cons, List.mem_cons, not_or] at h
    rw [List.foldl_cons, ih h.2, get?_insert_of_ne h.1]

/-- Where each name occurs once, the order of insertion does not matter. -/
theorem get?_foldl_insert_of_nodup {name : String} {pairs : List (String × α)} {t : Table α}
    (hnodup : (pairs.map Prod.fst).Nodup) :
    get? name (pairs.foldl (fun t p => insert p.1 p.2 t) t) =
      (get? name pairs).or (get? name t) := by
  induction pairs generalizing t with
  | nil => rfl
  | cons p pairs ih =>
    obtain ⟨n, a⟩ := p
    simp only [List.map_cons, List.nodup_cons] at hnodup
    by_cases h : name = n
    · subst h
      rw [List.foldl_cons, get?_foldl_insert hnodup.1, get?_insert_self]
      simp [get?]
    · rw [List.foldl_cons, ih hnodup.2, get?_insert_of_ne h]
      simp [get?, h]

theorem get?_ofList {pairs : List (String × α)} (hnodup : (pairs.map Prod.fst).Nodup)
    (name : String) : get? name (ofList pairs) = get? name pairs := by
  unfold ofList
  rw [get?_foldl_insert_of_nodup hnodup]
  simp [get?]

theorem mem_of_mem_foldl_insert {pairs : List (String × α)} {t : Table α} {p : String × α}
    (h : p ∈ pairs.foldl (fun t p => insert p.1 p.2 t) t) : p ∈ pairs ∨ p ∈ t := by
  induction pairs generalizing t with
  | nil => exact .inr h
  | cons q pairs ih =>
    rcases ih h with h | h
    · exact .inl (List.mem_cons_of_mem _ h)
    · rcases mem_insert h with rfl | h
      · exact .inl List.mem_cons_self
      · exact .inr h

theorem mem_of_mem_ofList {pairs : List (String × α)} {p : String × α} (h : p ∈ ofList pairs) :
    p ∈ pairs := by
  rcases mem_of_mem_foldl_insert h with h | h
  · exact h
  · cases h

/-- A name behind all others is put at the end. -/
theorem insert_eq_append {name : String} {t : Table α} (h : ∀ p ∈ t, p.1 < name) (value : α) :
    insert name value t = t ++ [(name, value)] := by
  induction t with
  | nil => rfl
  | cons p t ih =>
    obtain ⟨n, a⟩ := p
    have hn : n < name := h (n, a) List.mem_cons_self
    have hne : name ≠ n := fun e => String.lt_irrefl n (e ▸ hn)
    have hnlt : ¬ name < n := fun hlt => String.lt_irrefl n (String.lt_trans hn hlt)
    rw [insert, if_neg hne, if_neg hnlt, ih fun p hp => h p (List.mem_cons_of_mem _ hp)]
    rfl

theorem foldl_insert_of_ascending {pairs : List (String × α)} {t : Table α}
    (h : Ascending (t ++ pairs)) :
    pairs.foldl (fun t p => insert p.1 p.2 t) t = t ++ pairs := by
  induction pairs generalizing t with
  | nil => simp
  | cons p pairs ih =>
    have hbefore : ∀ q ∈ t, q.1 < p.1 := fun q hq =>
      (List.pairwise_append.1 h).2.2 q hq p List.mem_cons_self
    rw [List.foldl_cons, insert_eq_append hbefore, ih]
    · simp
    · simpa using h

/-- A table that is built again from its pairs is the same. -/
theorem ofList_of_ascending {t : Table α} (h : t.Ascending) : ofList t = t :=
  foldl_insert_of_ascending (t := []) h

end Table

namespace KeySet

variable {κ : Type} [EntityKey κ]

/-- A key behind all others is put at the end. -/
theorem insertInto_eq_append {k : κ} {l : List κ}
    (h : ∀ a ∈ l, EntityKey.texts a < EntityKey.texts k) : insertInto k l = l ++ [k] := by
  induction l with
  | nil => rfl
  | cons a l ih =>
    have ha := h a List.mem_cons_self
    have hne : EntityKey.texts k ≠ EntityKey.texts a := fun e => List.lt_irrefl _ (e ▸ ha)
    have hnlt : ¬ EntityKey.texts k < EntityKey.texts a := fun hlt =>
      List.lt_irrefl _ (List.lt_trans ha hlt)
    rw [insertInto, if_neg hne, if_neg hnlt, ih fun b hb => h b (List.mem_cons_of_mem _ hb)]
    rfl

theorem toList_foldl_insert {ks : List κ} {s : KeySet κ}
    (h : (s.toList ++ ks).Pairwise fun a b => EntityKey.texts a < EntityKey.texts b) :
    (ks.foldl (fun s k => s.insert k) s).toList = s.toList ++ ks := by
  induction ks generalizing s with
  | nil => simp
  | cons k ks ih =>
    have hbefore : ∀ a ∈ s.toList, EntityKey.texts a < EntityKey.texts k := fun a ha =>
      (List.pairwise_append.1 h).2.2 a ha k List.mem_cons_self
    have hinsert : (s.insert k).toList = s.toList ++ [k] := insertInto_eq_append hbefore
    rw [List.foldl_cons, ih, hinsert]
    · simp
    · rw [hinsert]
      simpa using h

/-- A set that is built again from its keys is the same. -/
theorem ofList_toList (s : KeySet κ) : ofList s.toList = s := by
  have h : (ofList s.toList).toList = s.toList :=
    toList_foldl_insert (s := empty) (by simpa [empty] using s.ascending)
  cases hs : ofList s.toList with
  | mk l hl =>
    rw [hs] at h
    cases s
    cases h
    rfl

end KeySet

/-! ## Values -/

namespace Json

theorem sortedItems_eq_map (items : List Json) : sortedItems items = items.map sorted := by
  induction items with
  | nil => rfl
  | cons j items ih => rw [sortedItems, ih, List.map_cons]

theorem sortedMembers_eq_map (members : List (String × Json)) :
    sortedMembers members = members.map fun p => (p.1, p.2.sorted) := by
  induction members with
  | nil => rfl
  | cons p members ih =>
    obtain ⟨n, j⟩ := p
    rw [sortedMembers, ih, List.map_cons]

/-- The order of the members of an object. -/
inductive Form where
  /-- The order in which they are declared, as a text is written. -/
  | declared
  /-- The ascending order of their names, as a value is stored. -/
  | ascending

/-- A value with the members of every object in the order of a form. -/
def inForm (form : Form) (j : Json) : Json :=
  match form with
  | .declared => j
  | .ascending => j.sorted

@[simp]
theorem inForm_str (form : Form) (s : String) : (str s).inForm form = str s := by
  cases form <;> rfl

@[simp]
theorem inForm_bool (form : Form) (b : Bool) : (bool b).inForm form = bool b := by
  cases form <;> rfl

theorem inForm_arr (form : Form) (items : List Json) :
    (arr items).inForm form = arr (items.map (inForm form)) := by
  cases form with
  | declared => exact congrArg arr (List.map_id items).symm
  | ascending => exact congrArg arr (sortedItems_eq_map items)

end Json

/-! ### Results -/

/-- A computation of two steps succeeds when both do. -/
theorem Except.bind_eq_ok {ε α β : Type} {x : Except ε α} {f : α → Except ε β} {b : β} :
    (x >>= f) = .ok b ↔ ∃ a, x = .ok a ∧ f a = .ok b := by
  cases x with
  | error e => exact ⟨nofun, nofun⟩
  | ok a => exact ⟨fun h => ⟨a, rfl, h⟩, fun ⟨_, ha, h⟩ => Except.ok.inj ha ▸ h⟩

theorem Except.mapError_eq_ok {ε ε' α : Type} {x : Except ε α} {f : ε → ε'} {a : α} :
    x.mapError f = .ok a ↔ x = .ok a := by
  cases x <;> simp [Except.mapError]

/-- Each result of a list of readings is the reading of the item in its place. -/
theorem mapM_eq_ok {α β ε : Type} {f : α → Except ε β} {items : List α} {results : List β}
    (h : items.mapM f = .ok results) : List.Forall₂ (fun r a => f a = .ok r) results items := by
  induction items generalizing results with
  | nil =>
    cases h
    exact .nil
  | cons a items ih =>
    rw [List.mapM_cons] at h
    obtain ⟨r, ha, h⟩ := Except.bind_eq_ok.1 h
    obtain ⟨rest, hrest, h⟩ := Except.bind_eq_ok.1 h
    cases h
    exact .cons ha (ih hrest)

/-- Each result of a list of readings is the reading of an item. -/
theorem exists_of_mapM_eq_ok {α β ε : Type} {f : α → Except ε β} {items : List α}
    {results : List β} (h : items.mapM f = .ok results) {r : β} (hr : r ∈ results) :
    ∃ a ∈ items, f a = .ok r := by
  have hall := mapM_eq_ok h
  obtain ⟨i, hi, rfl⟩ := List.getElem_of_mem hr
  exact ⟨_, List.getElem_mem (hall.length_eq ▸ hi), hall.get hi _⟩

namespace Decode

/-- A list of values is read back if each of them is. -/
theorem mapM_map {α : Type} {d : Decoder α} {encode : α → Json} {items : List α}
    (h : ∀ a ∈ items, d (encode a) = .ok a) : (items.map encode).mapM d = .ok items := by
  induction items with
  | nil => rfl
  | cons a items ih =>
    rw [List.map_cons, List.mapM_cons, h a List.mem_cons_self,
      ih fun b hb => h b (List.mem_cons_of_mem _ hb)]
    rfl

variable (form : Json.Form)

theorem list_inForm {α : Type} {d : Decoder α} {encode : α → Json}
    (h : ∀ a, d ((encode a).inForm form) = .ok a) (items : List α) :
    list d ((Json.arr (items.map encode)).inForm form) = .ok items := by
  rw [Json.inForm_arr, List.map_map]
  have hread : ∀ a ∈ items, d ((Json.inForm form ∘ encode) a) = .ok a := fun a _ => h a
  exact mapM_map hread

theorem string_inForm (s : String) : string ((Json.str s).inForm form) = .ok s := by
  rw [Json.inForm_str, string]

theorem boolean_inForm (b : Bool) : boolean ((Json.bool b).inForm form) = .ok b := by
  rw [Json.inForm_bool, boolean]

theorem optional_string_inForm (s : String) :
    optional string ((Json.str s).inForm form) = .ok (some s) := by
  rw [Json.inForm_str]
  rfl

theorem optional_timestamp_inForm (t : Timestamp) :
    optional timestamp ((Encode.timestamp t).inForm form) = .ok (some t) := by
  simp [optional, timestamp, Encode.timestamp, Timestamp.parse_zuluText, Except.mapError,
    Except.map]

variable {κ : Type} [EntityKey κ] [LawfulKey κ]

theorem key_inForm (k : κ) : key ((Encode.key k).inForm form) = .ok k := by
  simp [key, Encode.key, string, EntityKey.parse_text, Except.mapError]

theorem keys_inForm (ks : List κ) : list key ((Encode.keys ks).inForm form) = .ok ks :=
  list_inForm form (key_inForm form) ks

theorem keySet_inForm (s : KeySet κ) :
    keySet ((Encode.keys s.toList).inForm form) = .ok s := by
  unfold keySet
  rw [keys_inForm, ok_bind, KeySet.ofList_toList]
  rfl

end Decode

/-! ## Members -/

theorem Encode.optional_eq {α : Type} (name : String) (encode : α → Json) (a : Option α) :
    optional name encode a = (a.map encode).map fun j => (name, j) := by
  cases a <;> rfl

/-- The members of a record in declared order, each with its value if it is given. -/
abbrev Entries := List (FieldShape × Option Json)

namespace Entries

/-- The members that are given. -/
def members (es : Entries) : List (String × Json) :=
  es.filterMap fun e => e.2.map fun j => (e.1.name, j)

/-- The members as they are written in a form. -/
def written (es : Entries) : Json.Form → List (String × Json)
  | .declared => es.members
  | .ascending => Table.ofList (Json.sortedMembers es.members)

theorem inForm_obj_members (es : Entries) (form : Json.Form) :
    (Json.obj es.members).inForm form = .obj (es.written form) := by
  cases form <;> rfl

theorem mem_written {es : Entries} {form : Json.Form} {p : String × Json}
    (h : p ∈ es.written form) : ∃ e ∈ es, ∃ j, e.2 = some j ∧ p = (e.1.name, j.inForm form) := by
  have hmember : ∃ q ∈ es.members, p = (q.1, q.2.inForm form) := by
    cases form with
    | declared => exact ⟨p, h, rfl⟩
    | ascending =>
      have hmem := Table.mem_of_mem_ofList h
      rw [Json.sortedMembers_eq_map] at hmem
      obtain ⟨q, hq, rfl⟩ := List.mem_map.1 hmem
      exact ⟨q, hq, rfl⟩
  obtain ⟨q, hq, rfl⟩ := hmember
  obtain ⟨e, he, hvalue⟩ := List.mem_filterMap.1 hq
  obtain ⟨j, hj, rfl⟩ := Option.map_eq_some_iff.1 hvalue
  exact ⟨e, he, j, hj, rfl⟩

/-- The names of the members. -/
def names (es : Entries) : List String := es.map fun e => e.1.name

theorem sublist_names (es : Entries) : (es.members.map Prod.fst).Sublist es.names := by
  induction es with
  | nil => exact .slnil
  | cons e es ih =>
    obtain ⟨f, j?⟩ := e
    cases j? with
    | none => exact ih.cons _
    | some j => exact ih.cons_cons _

theorem get?_members {es : Entries} (hnodup : es.names.Nodup) {e : FieldShape × Option Json}
    (he : e ∈ es) : Table.get? e.1.name es.members = e.2 := by
  induction es with
  | nil => cases he
  | cons d es ih =>
    obtain ⟨f, j?⟩ := d
    obtain ⟨hhead, htail⟩ := List.nodup_cons.1 hnodup
    rcases List.mem_cons.1 he with rfl | hes
    · cases j? with
      | some j => simp [members, Table.get?]
      | none => exact Table.get?_eq_none fun hmem => hhead ((sublist_names es).subset hmem)
    · have hget := ih htail hes
      cases j? with
      | none => exact hget
      | some j =>
        have hne : e.1.name ≠ f.name := fun heq =>
          hhead (List.mem_map.2 ⟨e, hes, heq⟩)
        simpa [members, Table.get?, hne] using hget

theorem get?_written {es : Entries} (form : Json.Form) (hnodup : es.names.Nodup)
    {e : FieldShape × Option Json} (he : e ∈ es) :
    Table.get? e.1.name (es.written form) = e.2.map (Json.inForm form) := by
  have hsorted : ∀ ms : List (String × Json), ∀ name,
      Table.get? name (ms.map fun p => (p.1, p.2.sorted)) =
        (Table.get? name ms).map Json.sorted := by
    intro ms name
    induction ms with
    | nil => rfl
    | cons p ms ih =>
      simp only [List.map_cons, Table.get?, ih]
      split <;> rfl
  have hnames : ((Json.sortedMembers es.members).map Prod.fst).Nodup := by
    rw [Json.sortedMembers_eq_map, List.map_map]
    exact es.sublist_names.nodup hnodup
  cases form with
  | declared => exact (get?_members hnodup he).trans Option.map_id_apply.symm
  | ascending =>
    show Table.get? e.1.name (Table.ofList (Json.sortedMembers es.members)) = e.2.map Json.sorted
    rw [Table.get?_ofList hnames, Json.sortedMembers_eq_map, hsorted, get?_members hnodup he]

end Entries

/-- A member is read back: its value where it is given, the default where it is not. -/
def Field.Reads {α : Type} (f : Field α) (form : Json.Form) (default : Option α)
    (value : Option Json) (a : α) : Prop :=
  match value with
  | some j => f.decode (j.inForm form) = .ok a
  | none => default = some a

namespace Field

variable {α : Type} {f : Field α} {form : Json.Form} {es : Entries} {a : α}

/-- An optional member is left out when it is not given. -/
theorem reads_optional (f : Field (Option α)) (encode : α → Json)
    (h : ∀ a, f.decode ((encode a).inForm form) = .ok (some a)) (a : Option α) :
    f.Reads form (some none) (a.map encode) a := by
  cases a with
  | none => rfl
  | some a => exact h a

theorem required_written (hnodup : es.names.Nodup) (n : Nat) {value : Option Json}
    (he : es[n]? = some (f.needed, value)) (h : f.Reads form none value a) :
    f.required (es.written form) = .ok a := by
  have hget := Entries.get?_written form hnodup (List.mem_of_getElem? he)
  cases value with
  | none => cases h
  | some j =>
    unfold required
    rw [show f.name = f.needed.name from rfl, hget]
    exact h

theorem defaulted_written {default : α} (hnodup : es.names.Nodup) (n : Nat) {value : Option Json}
    (he : es[n]? = some (f.spare, value)) (h : f.Reads form (some default) value a) :
    f.defaulted default (es.written form) = .ok a := by
  have hget := Entries.get?_written form hnodup (List.mem_of_getElem? he)
  unfold defaulted
  rw [show f.name = f.spare.name from rfl, hget]
  cases value with
  | none =>
    obtain rfl : default = a := by simpa [Reads] using h
    rfl
  | some j => exact h

/-- What is read back passes its check. -/
theorem check_of_reads {default : Option α} {value : Option Json} (h : f.Reads form default value a) :
    ∀ j, value = some j → (f.decode (j.inForm form)).map (fun _ => ()) = .ok () := by
  rintro j rfl
  rw [show f.decode (j.inForm form) = .ok a from h]
  rfl

end Field

namespace RecordShape

theorem checkMembers_eq_ok {fields : List FieldShape} {ms : List (String × Json)}
    (h : ∀ p ∈ ms, ∀ f ∈ fields, f.name = p.1 → f.check p.2 = .ok ()) :
    checkMembers fields ms = .ok () := by
  induction ms with
  | nil => rfl
  | cons p ms ih =>
    obtain ⟨n, j⟩ := p
    have hrest := ih fun q hq => h q (List.mem_cons_of_mem _ hq)
    unfold checkMembers
    split
    · rename_i f hf
      have hname : f.name = n := by simpa using List.find?_some hf
      rw [h (n, j) List.mem_cons_self f (List.mem_of_find?_eq_some hf) hname]
      exact hrest
    · exact hrest

/-- The members of a written record are all sound. -/
theorem view_written (s : RecordShape) (es : Entries) (form : Json.Form)
    (hfields : s.fields = es.map Prod.fst) (hnodup : es.names.Nodup)
    (h : ∀ e ∈ es, ∀ j, e.2 = some j → e.1.check (j.inForm form) = .ok ()) :
    s.view ((Json.obj es.members).inForm form) = .ok (es.written form) := by
  have hcheck : checkMembers s.fields (es.written form) = .ok () := by
    refine checkMembers_eq_ok fun p hp f hf hname => ?_
    obtain ⟨e, he, j, hj, rfl⟩ := Entries.mem_written hp
    -- the field of that name is the one of the entry, as no name occurs twice
    rw [hfields] at hf
    obtain ⟨d, hd, rfl⟩ := List.mem_map.1 hf
    have hde : d = e := List.inj_on_of_nodup_map hnodup hd he hname
    rw [hde]
    exact h e he j hj
  rw [Entries.inForm_obj_members]
  show (do checkMembers s.fields (es.written form); pure (es.written form)) = _
  rw [hcheck]
  rfl

end RecordShape

/-! ## Records -/

theorem MetadataUpdate.ofList_metadata (u : MetadataUpdate) : ofList u.metadata = u := by
  have h := Table.ofList_of_ascending u.ascending
  cases u
  simp only [ofList, MetadataUpdate.mk.injEq]
  exact h

/-- The members of a metadata update. -/
def MetadataUpdate.entries (u : MetadataUpdate) : Entries :=
  [(metadataField.spare, some (.obj (u.metadata.map fun (n, s) => (n, .str s))))]

theorem Decode.table_obj {α : Type} (d : Decoder α) (ms : List (String × Json)) :
    Decode.table d (.obj ms) =
      (ms.mapM fun p => do return (p.1, ← d p.2)) >>= fun ps => .ok (Table.ofList ps) := rfl

/-- The pairs of an update are in ascending order already. -/
theorem MetadataUpdate.inForm_metadata (form : Json.Form) (u : MetadataUpdate) :
    (Json.obj (u.metadata.map fun (n, s) => (n, .str s))).inForm form =
      .obj (u.metadata.map fun (n, s) => (n, .str s)) := by
  have hsorted : Json.sortedMembers (u.metadata.map fun (n, s) => (n, .str s)) =
      u.metadata.map fun (n, s) => (n, .str s) := by
    rw [Json.sortedMembers_eq_map, List.map_map]
    exact List.map_congr_left fun p _ => by simp [Json.sorted]
  have hascending : Table.Ascending (u.metadata.map fun (n, s) => (n, Json.str s)) := by
    unfold Table.Ascending
    rw [List.pairwise_map]
    exact u.ascending
  cases form with
  | declared => rfl
  | ascending =>
    show Json.sorted _ = _
    rw [Json.sorted, hsorted, Table.ofList_of_ascending hascending]

theorem MetadataUpdate.reads_metadata (form : Json.Form) (u : MetadataUpdate) :
    metadataField.Reads form (some []) (some (.obj (u.metadata.map fun (n, s) => (n, .str s))))
      u.metadata := by
  have hpairs : ∀ t : Table String,
      (t.map fun (n, s) => (n, Json.str s)).mapM
        (fun p => do return (p.1, ← Decode.string p.2)) = (.ok t : Except DecodeError _) := by
    intro t
    induction t with
    | nil => rfl
    | cons p t ih =>
      rw [List.map_cons, List.mapM_cons, ih]
      rfl
  show Decode.table Decode.string (Json.inForm form _) = _
  rw [u.inForm_metadata form, Decode.table_obj, hpairs, ok_bind,
    Table.ofList_of_ascending u.ascending]

theorem MetadataUpdate.decode_inForm (form : Json.Form) (u : MetadataUpdate) :
    decode ((encode u).inForm form) = .ok u := by
  have hmetadata := u.reads_metadata form
  have hnodup : u.entries.names.Nodup := List.nodup_singleton _
  have hview : shape.view ((encode u).inForm form) = .ok (u.entries.written form) := by
    refine RecordShape.view_written shape u.entries form rfl hnodup ?_
    simp only [entries, List.forall_mem_singleton]
    exact Field.check_of_reads hmetadata
  unfold decode
  rw [hview, ok_bind, Field.defaulted_written hnodup 0 rfl hmetadata, ok_bind]
  exact congrArg Except.ok u.ofList_metadata

/-- The members of a template. -/
def Template.entries (t : Template) : Entries := [
  (keyField.needed, some (Encode.key t.key)),
  (drainedField.spare, some (Encode.keys t.drained.toList))]

theorem Template.decode_inForm (form : Json.Form) (t : Template) :
    decode ((encode t).inForm form) = .ok t := by
  have hkey : keyField.Reads form none (some (Encode.key t.key)) t.key := Decode.key_inForm form t.key
  have hdrained : drainedField.Reads form (some ∅) (some (Encode.keys t.drained.toList)) t.drained :=
    Decode.keySet_inForm form t.drained
  have hnodup : t.entries.names.Nodup := (by decide : ["key", "drained"].Nodup)
  have hview : shape.view ((encode t).inForm form) = .ok (t.entries.written form) := by
    refine RecordShape.view_written shape t.entries form rfl hnodup ?_
    simp only [entries, List.forall_mem_cons]
    exact ⟨Field.check_of_reads hkey, Field.check_of_reads hdrained, by simp⟩
  unfold decode
  rw [hview, ok_bind, Field.required_written hnodup 0 rfl hkey, ok_bind,
    Field.defaulted_written hnodup 1 rfl hdrained]
  rfl

/-- The members of a revision. -/
def Revision.entries (r : Revision) : Entries := [
  (keyField.needed, some (Encode.key r.key)),
  (projectField.spare, r.project.map .str),
  (drainedField.spare, some (Encode.keys r.drained.toList))]

theorem Revision.encode_eq (r : Revision) : encode r = .obj r.entries.members := by
  simp only [encode, Encode.optional_eq]
  rfl

theorem Revision.decode_inForm (form : Json.Form) (r : Revision) :
    decode ((encode r).inForm form) = .ok r := by
  have hkey : keyField.Reads form none (some (Encode.key r.key)) r.key := Decode.key_inForm form r.key
  have hproject : projectField.Reads form (some none) (r.project.map .str) r.project :=
    projectField.reads_optional .str (Decode.optional_string_inForm form) r.project
  have hdrained : drainedField.Reads form (some ∅) (some (Encode.keys r.drained.toList)) r.drained :=
    Decode.keySet_inForm form r.drained
  have hnodup : r.entries.names.Nodup := (by decide : ["key", "project", "drained"].Nodup)
  have hview : shape.view ((encode r).inForm form) = .ok (r.entries.written form) := by
    rw [encode_eq]
    refine RecordShape.view_written shape r.entries form rfl hnodup ?_
    simp only [entries, List.forall_mem_cons]
    exact ⟨Field.check_of_reads hkey, Field.check_of_reads hproject,
      Field.check_of_reads hdrained, by simp⟩
  unfold decode
  rw [hview, ok_bind, Field.required_written hnodup 0 rfl hkey, ok_bind,
    Field.defaulted_written hnodup 1 rfl hproject, ok_bind,
    Field.defaulted_written hnodup 2 rfl hdrained]
  rfl

/-- The members of a manager. -/
def Manager.entries (m : Manager) : Entries := [
  (keyField.needed, some (Encode.key m.key)),
  (urlField.spare, m.url.map .str),
  (instancesField.spare, some (Encode.keys m.instances))]

theorem Manager.encode_eq (m : Manager) : encode m = .obj m.entries.members := by
  simp only [encode, Encode.optional_eq]
  rfl

theorem Manager.decode_inForm (form : Json.Form) (m : Manager) :
    decode ((encode m).inForm form) = .ok m := by
  have hkey : keyField.Reads form none (some (Encode.key m.key)) m.key := Decode.key_inForm form m.key
  have hurl : urlField.Reads form (some none) (m.url.map .str) m.url :=
    urlField.reads_optional .str (Decode.optional_string_inForm form) m.url
  have hinstances : instancesField.Reads form (some []) (some (Encode.keys m.instances)) m.instances :=
    Decode.keys_inForm form m.instances
  have hnodup : m.entries.names.Nodup := (by decide : ["key", "url", "instances"].Nodup)
  have hview : shape.view ((encode m).inForm form) = .ok (m.entries.written form) := by
    rw [encode_eq]
    refine RecordShape.view_written shape m.entries form rfl hnodup ?_
    simp only [entries, List.forall_mem_cons]
    exact ⟨Field.check_of_reads hkey, Field.check_of_reads hurl,
      Field.check_of_reads hinstances, by simp⟩
  unfold decode
  rw [hview, ok_bind, Field.required_written hnodup 0 rfl hkey, ok_bind,
    Field.defaulted_written hnodup 1 rfl hurl, ok_bind,
    Field.defaulted_written hnodup 2 rfl hinstances]
  rfl

/-- The members of an instance. -/
def Instance.entries (i : Instance) : Entries := [
  (keyField.needed, some (Encode.key i.key)),
  (urlField.spare, i.url.map .str),
  (hostnameField.needed, some (.str i.hostname)),
  (managerField.needed, some (Encode.key i.instanceGroupManager)),
  (pendingDeletionField.spare, some (.bool i.pendingDeletion)),
  (deletionTimeField.spare, i.deletionTime.map Encode.timestamp),
  (leaseExpirationField.spare, i.leaseExpiration.map Encode.timestamp),
  (catalogedField.spare, some (.bool i.cataloged)),
  (subscriptionField.spare, i.subscription.map .str),
  (serviceAccountField.spare, i.serviceAccount.map .str),
  (metadataUpdatesField.spare,
    some (.arr (i.pendingMetadataUpdates.map MetadataUpdate.encode)))]

theorem Instance.encode_eq (i : Instance) : encode i = .obj i.entries.members := by
  simp only [encode, Encode.optional_eq]
  rfl

theorem Instance.nodup_names (i : Instance) : i.entries.names.Nodup :=
  (by decide : ["key", "url", "hostname", "instance_group_manager", "pending_deletion",
    "deletion_ts", "lease_expiration_ts", "cataloged", "pubsub_subscription",
    "pubsub_service_account", "pending_metadata_updates"].Nodup)

theorem Instance.decode_inForm (form : Json.Form) (i : Instance) :
    decode ((encode i).inForm form) = .ok i := by
  have hkey : keyField.Reads form none (some (Encode.key i.key)) i.key := Decode.key_inForm form i.key
  have hurl : urlField.Reads form (some none) (i.url.map .str) i.url :=
    urlField.reads_optional .str (Decode.optional_string_inForm form) i.url
  have hhostname : hostnameField.Reads form none (some (.str i.hostname)) i.hostname :=
    Decode.string_inForm form i.hostname
  have hmanager : managerField.Reads form none (some (Encode.key i.instanceGroupManager))
      i.instanceGroupManager := Decode.key_inForm form i.instanceGroupManager
  have hpending : pendingDeletionField.Reads form (some false) (some (.bool i.pendingDeletion))
      i.pendingDeletion := Decode.boolean_inForm form i.pendingDeletion
  have hdeletion : deletionTimeField.Reads form (some none) (i.deletionTime.map Encode.timestamp)
      i.deletionTime := by
    refine deletionTimeField.reads_optional Encode.timestamp (fun t => ?_) i.deletionTime
    rw [show deletionTimeField.decode = Decode.optional Decode.timestamp from rfl]
    exact Decode.optional_timestamp_inForm form t
  have hlease : leaseExpirationField.Reads form (some none) (i.leaseExpiration.map Encode.timestamp)
      i.leaseExpiration := by
    refine leaseExpirationField.reads_optional Encode.timestamp (fun t => ?_) i.leaseExpiration
    rw [show leaseExpirationField.decode = Decode.optional Decode.timestamp from rfl]
    exact Decode.optional_timestamp_inForm form t
  have hcataloged : catalogedField.Reads form (some false) (some (.bool i.cataloged)) i.cataloged :=
    Decode.boolean_inForm form i.cataloged
  have hsubscription : subscriptionField.Reads form (some none) (i.subscription.map .str)
      i.subscription :=
    subscriptionField.reads_optional .str (Decode.optional_string_inForm form) i.subscription
  have haccount : serviceAccountField.Reads form (some none) (i.serviceAccount.map .str)
      i.serviceAccount :=
    serviceAccountField.reads_optional .str (Decode.optional_string_inForm form) i.serviceAccount
  have hupdates : metadataUpdatesField.Reads form (some [])
      (some (.arr (i.pendingMetadataUpdates.map MetadataUpdate.encode))) i.pendingMetadataUpdates :=
    Decode.list_inForm form (MetadataUpdate.decode_inForm form) _
  have hnodup := i.nodup_names
  have hview : shape.view ((encode i).inForm form) = .ok (i.entries.written form) := by
    rw [encode_eq]
    refine RecordShape.view_written shape i.entries form rfl hnodup ?_
    simp only [entries, List.forall_mem_cons]
    exact ⟨Field.check_of_reads hkey, Field.check_of_reads hurl, Field.check_of_reads hhostname,
      Field.check_of_reads hmanager, Field.check_of_reads hpending, Field.check_of_reads hdeletion,
      Field.check_of_reads hlease, Field.check_of_reads hcataloged,
      Field.check_of_reads hsubscription, Field.check_of_reads haccount,
      Field.check_of_reads hupdates, by simp⟩
  unfold decode
  rw [hview, ok_bind, Field.required_written hnodup 0 rfl hkey, ok_bind,
    Field.defaulted_written hnodup 1 rfl hurl, ok_bind,
    Field.required_written hnodup 2 rfl hhostname, ok_bind,
    Field.required_written hnodup 3 rfl hmanager, ok_bind,
    Field.defaulted_written hnodup 4 rfl hpending, ok_bind,
    Field.defaulted_written hnodup 5 rfl hdeletion, ok_bind,
    Field.defaulted_written hnodup 6 rfl hlease, ok_bind,
    Field.defaulted_written hnodup 7 rfl hcataloged, ok_bind,
    Field.defaulted_written hnodup 8 rfl hsubscription, ok_bind,
    Field.defaulted_written hnodup 9 rfl haccount, ok_bind,
    Field.defaulted_written hnodup 10 rfl hupdates]
  rfl

/-- A stored record is read back, and its key by its text. -/
class LawfulEntity (ρ : Type) {κ : Type} [Entity ρ κ] : Prop extends LawfulKey κ where
  decode_stored : ∀ r : ρ, Entity.decode (Entity.stored r) = .ok r

instance : LawfulEntity Template where
  decode_stored := Template.decode_inForm .ascending

instance : LawfulEntity Revision where
  decode_stored := Revision.decode_inForm .ascending

instance : LawfulEntity Manager where
  decode_stored := Manager.decode_inForm .ascending

instance : LawfulEntity Instance where
  decode_stored := Instance.decode_inForm .ascending

end FleetReconciler
