import FleetReconciler.Proofs.KeyWords

/-!
# Encoding what was decoded

A reader accepts many forms of a record: members in any order, unknown members, defaults left out or
null, a list of members, keys with further blanks, sets in any order with repetitions, timestamps in
any offset. What it gives has one encoding, from which the reader gives the same again. So encoding
what was decoded is idempotent.

The one member that keeps a value as it stands is the error of an operation. It is read back as long
as the value is not null, and what was decoded never holds a null there.

* `Json.inForm_inForm` — a form, once reached, is kept;
* `RecordShape.inForm_of_mem_view` — the members of a value in a form are in that form;
* `InstanceReference.decode_inForm`, `InstancePage.decode_inForm`, `Operation.decode_inForm` — the
  answers of the compute API are read back;
* `RoundTrips`, `Restored`, `records_round_trip` — **what was decoded is decoded again from its
  encoding**, and so is every stored record.
-/

namespace FleetReconciler

/-! ## Values in order -/

namespace Json

mutual

theorem sorted_sorted : ∀ j : Json, j.sorted.sorted = j.sorted
  | .null => rfl
  | .bool _ => rfl
  | .num _ => rfl
  | .str _ => rfl
  | .arr items => by
    have hitems : (sortedItems items).map sorted = sortedItems items := by
      conv_rhs => rw [← List.map_id (sortedItems items)]
      exact List.map_congr_left (sorted_of_mem_sortedItems items)
    rw [sorted, sorted, sortedItems_eq_map (sortedItems items), hitems]
  | .obj members => by
    have hmembers : (Table.ofList (sortedMembers members)).map (fun p => (p.1, p.2.sorted)) =
        Table.ofList (sortedMembers members) := by
      conv_rhs => rw [← List.map_id (Table.ofList (sortedMembers members))]
      refine List.map_congr_left fun p hp => ?_
      rw [sorted_of_mem_sortedMembers members p (Table.mem_of_mem_ofList hp)]
      rfl
    rw [sorted, sorted, sortedMembers_eq_map (Table.ofList (sortedMembers members)), hmembers,
      Table.ofList_of_ascending (Table.ascending_ofList _)]

theorem sorted_of_mem_sortedItems : ∀ items : List Json, ∀ j ∈ sortedItems items, j.sorted = j
  | [] => by simp [sortedItems]
  | j :: items => by
    rw [sortedItems, List.forall_mem_cons]
    exact ⟨sorted_sorted j, sorted_of_mem_sortedItems items⟩

theorem sorted_of_mem_sortedMembers :
    ∀ members : List (String × Json), ∀ p ∈ sortedMembers members, p.2.sorted = p.2
  | [] => by simp [sortedMembers]
  | (n, j) :: members => by
    rw [sortedMembers, List.forall_mem_cons]
    exact ⟨sorted_sorted j, sorted_of_mem_sortedMembers members⟩

end

theorem inForm_inForm (form : Form) (j : Json) : (j.inForm form).inForm form = j.inForm form := by
  cases form with
  | declared => rfl
  | ascending => exact sorted_sorted j

theorem inForm_of_mem_items {form : Form} {items : List Json}
    (h : (arr items).inForm form = arr items) {j : Json} (hj : j ∈ items) : j.inForm form = j := by
  rw [inForm_arr, Json.arr.injEq] at h
  obtain ⟨k, -, rfl⟩ := List.mem_map.1 (h ▸ hj)
  exact inForm_inForm form k

theorem inForm_of_mem_members {form : Form} {members : List (String × Json)}
    (h : (obj members).inForm form = obj members) {p : String × Json} (hp : p ∈ members) :
    p.2.inForm form = p.2 := by
  cases form with
  | declared => rfl
  | ascending =>
    have hmembers : Table.ofList (sortedMembers members) = members := Json.obj.inj h
    exact sorted_of_mem_sortedMembers members p (Table.mem_of_mem_ofList (hmembers.symm ▸ hp))

end Json

namespace RecordShape

theorem mem_of_mem_pairItems {whole : String} {fields : List FieldShape} {items : List Json}
    {i : Nat} {given : List (String × Json)} (h : pairItems whole i fields items = .ok given) :
    ∀ p ∈ given, p.2 ∈ items := by
  induction fields generalizing i items given with
  | nil =>
    cases h
    simp
  | cons f fields ih =>
    cases items with
    | nil =>
      rw [pairItems] at h
      split at h
      · cases h
      · exact ih h
    | cons j items =>
      rw [pairItems] at h
      obtain ⟨_, -, h⟩ := Except.bind_eq_ok.1 h
      obtain ⟨rest, hrest, h⟩ := Except.bind_eq_ok.1 h
      cases h
      rintro p (_ | ⟨_, hp⟩)
      · exact List.mem_cons_self
      · exact List.mem_cons_of_mem _ (ih hrest p hp)

/-- The members of a value in a form are in that form. -/
theorem inForm_of_mem_view {s : RecordShape} {form : Json.Form} {v : Json}
    {given : List (String × Json)} (hform : v.inForm form = v) (h : s.view v = .ok given) :
    ∀ p ∈ given, p.2.inForm form = p.2 := by
  intro p hp
  cases v with
  | obj members =>
    obtain ⟨_, -, h⟩ := Except.bind_eq_ok.1 h
    cases h
    exact Json.inForm_of_mem_members hform hp
  | arr items =>
    obtain ⟨pairs, hpairs, h⟩ := Except.bind_eq_ok.1 h
    have hgiven : pairs = given := by
      split at h
      · cases h
      · cases h
        rfl
    exact Json.inForm_of_mem_items hform (mem_of_mem_pairItems (hgiven ▸ hpairs) p hp)
  | _ => cases h

end RecordShape

/-! ## Answers of the compute API -/

/-- The members of an instance reference. -/
def InstanceReference.entries (r : InstanceReference) : Entries := [
  (urlField.needed, some (.str r.url)),
  (statusField.spare, r.status.map .str)]

theorem InstanceReference.encode_eq (r : InstanceReference) : encode r = .obj r.entries.members := by
  simp only [encode, Encode.optional_eq]
  rfl

theorem InstanceReference.decode_inForm (form : Json.Form) (r : InstanceReference) :
    decode ((encode r).inForm form) = .ok r := by
  have hurl : urlField.Reads form none (some (.str r.url)) r.url :=
    Decode.string_inForm form r.url
  have hstatus : statusField.Reads form (some none) (r.status.map .str) r.status :=
    statusField.reads_optional .str (Decode.optional_string_inForm form) r.status
  have hnodup : r.entries.names.Nodup := (by decide : ["instance", "status"].Nodup)
  have hview : shape.view ((encode r).inForm form) = .ok (r.entries.written form) := by
    rw [encode_eq]
    refine RecordShape.view_written shape r.entries form rfl hnodup ?_
    simp only [entries, List.forall_mem_cons]
    exact ⟨Field.check_of_reads hurl, Field.check_of_reads hstatus, by simp⟩
  unfold decode
  rw [hview, ok_bind, Field.required_written hnodup 0 rfl hurl, ok_bind,
    Field.defaulted_written hnodup 1 rfl hstatus]
  rfl

/-- The members of a page. -/
def InstancePage.entries (p : InstancePage) : Entries := [
  (itemsField.spare, some (.arr (p.items.map InstanceReference.encode))),
  (tokenField.spare, p.nextPageToken.map .str)]

theorem InstancePage.encode_eq (p : InstancePage) : encode p = .obj p.entries.members := by
  simp only [encode, Encode.optional_eq]
  rfl

theorem InstancePage.decode_inForm (form : Json.Form) (p : InstancePage) :
    decode ((encode p).inForm form) = .ok p := by
  have hitems : itemsField.Reads form (some [])
      (some (.arr (p.items.map InstanceReference.encode))) p.items :=
    Decode.list_inForm form (InstanceReference.decode_inForm form) _
  have htoken : tokenField.Reads form (some none) (p.nextPageToken.map .str) p.nextPageToken :=
    tokenField.reads_optional .str (Decode.optional_string_inForm form) p.nextPageToken
  have hnodup : p.entries.names.Nodup := (by decide : ["items", "nextPageToken"].Nodup)
  have hview : shape.view ((encode p).inForm form) = .ok (p.entries.written form) := by
    rw [encode_eq]
    refine RecordShape.view_written shape p.entries form rfl hnodup ?_
    simp only [entries, List.forall_mem_cons]
    exact ⟨Field.check_of_reads hitems, Field.check_of_reads htoken, by simp⟩
  unfold decode
  rw [hview, ok_bind, Field.defaulted_written hnodup 0 rfl hitems, ok_bind,
    Field.defaulted_written hnodup 1 rfl htoken]
  rfl

/-- The members of an operation. -/
def Operation.entries (o : Operation) : Entries := [
  (nameField.spare, o.name.map .str),
  (statusField.needed, some (.str o.status)),
  (targetLinkField.spare, o.targetLink.map .str),
  (errorField.spare, o.error.map id)]

theorem Operation.encode_eq (o : Operation) : encode o = .obj o.entries.members := by
  simp only [encode, Encode.optional_eq]
  rfl

theorem Decode.optional_ok_eq_some {v j : Json} :
    optional .ok v = .ok (some j) ↔ v = j ∧ j ≠ .null := by
  cases v <;> simp [optional, Except.map] <;> rintro rfl <;> simp

/-- An operation is read back when its error, if any, is in the form and not null. -/
theorem Operation.decode_inForm (form : Json.Form) (o : Operation)
    (h : ∀ j, o.error = some j → j.inForm form = j ∧ j ≠ .null) :
    decode ((encode o).inForm form) = .ok o := by
  have hname : nameField.Reads form (some none) (o.name.map .str) o.name :=
    nameField.reads_optional .str (Decode.optional_string_inForm form) o.name
  have hstatus : statusField.Reads form none (some (.str o.status)) o.status :=
    Decode.string_inForm form o.status
  have hlink : targetLinkField.Reads form (some none) (o.targetLink.map .str) o.targetLink :=
    targetLinkField.reads_optional .str (Decode.optional_string_inForm form) o.targetLink
  have herror : errorField.Reads form (some none) (o.error.map id) o.error := by
    cases he : o.error with
    | none => rfl
    | some j => exact Decode.optional_ok_eq_some.2 (h j he)
  have hnodup : o.entries.names.Nodup := (by decide : ["name", "status", "targetLink", "error"].Nodup)
  have hview : shape.view ((encode o).inForm form) = .ok (o.entries.written form) := by
    rw [encode_eq]
    refine RecordShape.view_written shape o.entries form rfl hnodup ?_
    simp only [entries, List.forall_mem_cons]
    exact ⟨Field.check_of_reads hname, Field.check_of_reads hstatus, Field.check_of_reads hlink,
      Field.check_of_reads herror, by simp⟩
  unfold decode
  rw [hview, ok_bind, Field.defaulted_written hnodup 0 rfl hname, ok_bind,
    Field.required_written hnodup 1 rfl hstatus, ok_bind,
    Field.defaulted_written hnodup 2 rfl hlink, ok_bind,
    Field.defaulted_written hnodup 3 rfl herror]
  rfl

/-- The error of a decoded operation is a value of the answer, and never null. -/
theorem Operation.error_of_decode {form : Json.Form} {v j : Json} {o : Operation}
    (hform : v.inForm form = v) (h : decode v = .ok o) (hj : o.error = some j) :
    j.inForm form = j ∧ j ≠ .null := by
  obtain ⟨given, hview, h⟩ := Except.bind_eq_ok.1 h
  obtain ⟨_, -, h⟩ := Except.bind_eq_ok.1 h
  obtain ⟨_, -, h⟩ := Except.bind_eq_ok.1 h
  obtain ⟨_, -, h⟩ := Except.bind_eq_ok.1 h
  obtain ⟨error, herror, h⟩ := Except.bind_eq_ok.1 h
  cases h
  obtain rfl : error = some j := hj
  unfold Field.defaulted at herror
  split at herror
  · rename_i value hget
    obtain ⟨rfl, hne⟩ := Decode.optional_ok_eq_some.1 herror
    exact ⟨RecordShape.inForm_of_mem_view hform hview _ (Table.mem_of_get?_eq_some hget), hne⟩
  · cases herror

/-! ## Round trips -/

section RoundTrip

variable {α : Type} (encode : α → Json) (decode : Decoder α)

/-- Decodes a value and encodes the result in a form. -/
def recode (form : Json.Form) (v : Json) : Except DecodeError Json :=
  (decode v).map fun r => (encode r).inForm form

/-- Every value of a type is decoded from its encoding. -/
def Restored : Prop := ∀ (form : Json.Form) (r : α), decode ((encode r).inForm form) = .ok r

/-- What was decoded from a value is decoded again from its encoding. -/
structure RoundTrips : Prop where
  /-- The encoding of what a value is decoded to is decoded to the same, -/
  returns : ∀ (form : Json.Form) (v : Json) (r : α), v.inForm form = v → decode v = .ok r →
    decode ((encode r).inForm form) = .ok r
  /-- so that encoding after decoding is idempotent. -/
  settles : ∀ (form : Json.Form) (v w : Json), v.inForm form = v →
    recode encode decode form v = .ok w →
    w.inForm form = w ∧ recode encode decode form w = .ok w

variable {encode decode}

theorem RoundTrips.of_returns
    (h : ∀ (form : Json.Form) (v : Json) (r : α), v.inForm form = v → decode v = .ok r →
      decode ((encode r).inForm form) = .ok r) : RoundTrips encode decode where
  returns := h
  settles form v w hform hw := by
    unfold recode at hw ⊢
    cases hr : decode v with
    | error e =>
      rw [hr] at hw
      cases hw
    | ok r =>
      rw [hr] at hw
      cases hw
      rw [h form v r hform hr]
      exact ⟨Json.inForm_inForm form _, rfl⟩

theorem Restored.roundTrips (h : Restored encode decode) : RoundTrips encode decode :=
  .of_returns fun form _ r _ _ => h form r

end RoundTrip

/-- **What was decoded is decoded again from its encoding**, for each type that is stored or sent; of
the stored records every one is decoded from its encoding. -/
theorem records_round_trip :
    (RoundTrips Template.encode Template.decode ∧ RoundTrips Revision.encode Revision.decode ∧
      RoundTrips Manager.encode Manager.decode ∧ RoundTrips Instance.encode Instance.decode ∧
      RoundTrips MetadataUpdate.encode MetadataUpdate.decode ∧
      RoundTrips InstancePage.encode InstancePage.decode ∧
      RoundTrips Operation.encode Operation.decode) ∧
    Restored Template.encode Template.decode ∧ Restored Revision.encode Revision.decode ∧
      Restored Manager.encode Manager.decode ∧ Restored Instance.encode Instance.decode := by
  have htemplate : Restored Template.encode Template.decode := Template.decode_inForm
  have hrevision : Restored Revision.encode Revision.decode := Revision.decode_inForm
  have hmanager : Restored Manager.encode Manager.decode := Manager.decode_inForm
  have hinstance : Restored Instance.encode Instance.decode := Instance.decode_inForm
  have hupdate : Restored MetadataUpdate.encode MetadataUpdate.decode :=
    MetadataUpdate.decode_inForm
  have hpage : Restored InstancePage.encode InstancePage.decode := InstancePage.decode_inForm
  have hoperation : RoundTrips Operation.encode Operation.decode :=
    .of_returns fun form _ o hform hdecode =>
      Operation.decode_inForm form o fun _ => Operation.error_of_decode hform hdecode
  exact ⟨⟨htemplate.roundTrips, hrevision.roundTrips, hmanager.roundTrips, hinstance.roundTrips,
    hupdate.roundTrips, hpage.roundTrips, hoperation⟩, htemplate, hrevision, hmanager, hinstance⟩

end FleetReconciler
