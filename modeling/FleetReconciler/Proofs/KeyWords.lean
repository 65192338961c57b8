import FleetReconciler.Proofs.RecordText

/-!
# Keys and their texts

A text is a key of a kind exactly when it has as many words as the kind has components, and the words
are the components. What the words of a text are is said here without the reader: runs of characters
that are not blank, with at least one blank between neighbours and any blanks around.

* `Text.Spelled`, `Text.spelled_iff` — the words of a text, and that the reader finds them;
* `SpannedKey` — a kind of keys where every list of components of the right length is a key;
* `EntityKey.parse_eq_ok`, `EntityKey.build_eq_ok` — the keys that the reader and the constructors
  give;
* `EntityKey.Faithful`, `keys_faithful` — **the keys of each kind and their texts determine one
  another**, also as JSON.
-/

namespace FleetReconciler

/-! ## Words -/

namespace Text

/-- The text `cs` holds the words `ws` in this order and otherwise only blanks, of which there is at
least one between two words. -/
inductive Spelled : List Char → List (List Char) → Prop
  /-- A text of blanks has no word. -/
  | blank {gap : List Char} (hgap : ∀ c ∈ gap, isBlank c = true) : Spelled gap []
  /-- A word ends where a blank follows it or the text is over. -/
  | word {gap word rest : List Char} {words : List (List Char)} (hgap : ∀ c ∈ gap, isBlank c = true)
      (hne : word ≠ []) (hword : ∀ c ∈ word, isBlank c = false)
      (hend : ∀ c ∈ rest.head?, isBlank c = true) (hrest : Spelled rest words) :
      Spelled (gap ++ word ++ rest) (word :: words)

theorem words_append_of_blank {gap : List Char} (h : ∀ c ∈ gap, isBlank c = true)
    (cs : List Char) : words (gap ++ cs) = words cs := by
  induction gap with
  | nil => rfl
  | cons c gap ih =>
    rw [List.cons_append, words_cons_of_blank (h c List.mem_cons_self),
      ih fun d hd => h d (List.mem_cons_of_mem _ hd)]

theorem Spelled.words_eq {cs : List Char} {ws : List (List Char)} (h : Spelled cs ws) :
    words cs = ws := by
  induction h with
  | @blank gap hgap =>
    have happend := words_append_of_blank hgap []
    simpa [words.eq_def []] using happend
  | word hgap hne hword hend _ ih =>
    rw [List.append_assoc, words_append_of_blank hgap, words_append hne hword hend, ih]

theorem Spelled.cons_blank {c : Char} (hc : isBlank c = true) {cs : List Char}
    {ws : List (List Char)} (h : Spelled cs ws) : Spelled (c :: cs) ws := by
  cases h with
  | blank hgap => exact .blank (List.forall_mem_cons.2 ⟨hc, hgap⟩)
  | @word gap word rest words hgap hne hword hend hrest =>
    have hgap' : ∀ d ∈ c :: gap, isBlank d = true := List.forall_mem_cons.2 ⟨hc, hgap⟩
    exact .word hgap' hne hword hend hrest

/-- A character that is not blank starts a word of its own, or the first word starts with it. -/
theorem Spelled.cons_not_blank {c : Char} (hc : isBlank c = false) {cs : List Char}
    {ws : List (List Char)} (h : Spelled cs ws) : ∃ ws', Spelled (c :: cs) ws' := by
  have hnone : ∀ d ∈ ([] : List Char), isBlank d = true := by simp
  have alone : (∀ d ∈ cs.head?, isBlank d = true) → Spelled (c :: cs) ([c] :: ws) := by
    intro hend
    have hword : ∀ d ∈ [c], isBlank d = false := by simpa using hc
    exact .word hnone (by simp) hword hend h
  cases h with
  | blank hgap => exact ⟨_, alone fun d hd => hgap d (List.mem_of_mem_head? hd)⟩
  | @word gap word rest words hgap hne hword hend hrest =>
    cases gap with
    | nil =>
      have hword' : ∀ d ∈ c :: word, isBlank d = false := List.forall_mem_cons.2 ⟨hc, hword⟩
      exact ⟨_, .word hnone (by simp) hword' hend hrest⟩
    | cons d gap => exact ⟨_, alone (by simpa using hgap d List.mem_cons_self)⟩

theorem exists_spelled (cs : List Char) : ∃ ws, Spelled cs ws := by
  induction cs with
  | nil => exact ⟨[], .blank (by simp)⟩
  | cons c cs ih =>
    obtain ⟨ws, h⟩ := ih
    cases hc : isBlank c with
    | true => exact ⟨ws, h.cons_blank hc⟩
    | false => exact h.cons_not_blank hc

/-- **The reader finds the words of a text, and a text has no others.** -/
theorem spelled_iff {cs : List Char} {ws : List (List Char)} : Spelled cs ws ↔ words cs = ws := by
  refine ⟨Spelled.words_eq, fun h => ?_⟩
  obtain ⟨ws', h'⟩ := exists_spelled cs
  exact h'.words_eq.symm.trans h ▸ h'

theorem Spelled.isWord {cs : List Char} {ws : List (List Char)} (h : Spelled cs ws) :
    ∀ w ∈ ws, w ≠ [] ∧ ∀ c ∈ w, isBlank c = false := by
  induction h with
  | blank => simp
  | word _ hne hword _ _ ih => exact List.forall_mem_cons.2 ⟨⟨hne, hword⟩, ih⟩

/-- The string `s` holds the words `parts` in this order and otherwise only blanks. -/
def Spaced (s : String) (parts : List String) : Prop :=
  Spelled s.toList (parts.map String.toList)

theorem spaced_iff {s : String} {parts : List String} : Spaced s parts ↔ wordsOf s = parts := by
  have hstrings : (parts.map String.toList).map String.ofList = parts := by
    simp [Function.comp_def]
  have hlists : ((words s.toList).map String.ofList).map String.toList = words s.toList := by
    simp [Function.comp_def]
  rw [Spaced, spelled_iff, wordsOf]
  exact ⟨fun h => by rw [h, hstrings], fun h => by rw [← h, hlists]⟩

theorem Spaced.isComponent {s : String} {parts : List String} (h : Spaced s parts) :
    ∀ p ∈ parts, IsComponent p := by
  intro p hp
  obtain ⟨hne, hword⟩ := Spelled.isWord h p.toList (List.mem_map_of_mem hp)
  refine ⟨fun heq => hne (by simp [heq]), List.all_eq_true.2 fun c hc => ?_⟩
  simp [hword c hc]

end Text

/-! ## Components of keys -/

namespace Component

theorem ofString_eq_ok {s : String} {a : Component} : ofString s = .ok a ↔ a.text = s := by
  refine ⟨fun h => ?_, fun h => h ▸ ofString_text a⟩
  unfold ofString at h
  split at h
  · cases h
    rfl
  · cases h

theorem mapM_ofString_eq_ok {parts : List String} {cs : List Component} :
    parts.mapM ofString = .ok cs ↔ cs.map text = parts := by
  refine ⟨fun h => ?_, fun h => h ▸ EntityKey.mapM_ofString cs⟩
  have hall : List.Forall₂ (fun c p => text c = p) cs parts :=
    (mapM_eq_ok h).imp fun _ _ h => ofString_eq_ok.1 h
  exact List.forall₂_eq_eq_eq ▸ List.forall₂_map_left_iff.2 hall

theorem exists_map_text {parts : List String} :
    (∃ cs : List Component, cs.map text = parts) ↔ ∀ p ∈ parts, IsComponent p := by
  refine ⟨?_, fun h => ?_⟩
  · rintro ⟨cs, rfl⟩ p hp
    obtain ⟨c, -, rfl⟩ := List.mem_map.1 hp
    exact c.isComponent
  · exact ⟨parts.attach.map fun p => ⟨p.1, h p.1 p.2⟩, by simp [Function.comp_def]⟩

end Component

/-- A key has the components it is made of, and every list of the right length makes one. -/
class SpannedKey (κ : Type) [EntityKey κ] : Prop extends LawfulKey κ where
  components_of : ∀ {cs : List Component} {k : κ},
    EntityKey.ofComponents? cs = some k → EntityKey.components k = cs
  made : ∀ cs : List Component, cs.length = (EntityKey.kind κ).arity →
    ∃ k : κ, EntityKey.ofComponents? cs = some k

instance : SpannedKey TemplateKey where
  components_of {cs _} h := match cs, h with
    | [_], rfl => rfl
  made cs h := match cs, h with
    | [b], _ => ⟨⟨b⟩, rfl⟩

instance : SpannedKey RevisionKey where
  components_of {cs _} h := match cs, h with
    | [_, _], rfl => rfl
  made cs h := match cs, h with
    | [b, r], _ => ⟨⟨⟨b⟩, r⟩, rfl⟩

instance : SpannedKey ManagerKey where
  components_of {cs _} h := match cs, h with
    | [_, _, _], rfl => rfl
  made cs h := match cs, h with
    | [b, r, z], _ => ⟨⟨⟨⟨b⟩, r⟩, z⟩, rfl⟩

instance : SpannedKey InstanceKey where
  components_of {cs _} h := match cs, h with
    | [_, _, _, _], rfl => rfl
  made cs h := match cs, h with
    | [b, r, z, n], _ => ⟨⟨⟨⟨⟨b⟩, r⟩, z⟩, n⟩, rfl⟩

/-! ## Reading and building -/

namespace EntityKey

variable {κ : Type} [EntityKey κ]

theorem parse_eq_error {s : String} {parts : List String} (h : Text.Spaced s parts)
    (hlength : parts.length ≠ (kind κ).arity) :
    parse (κ := κ) s = .error (.wrongArity (kind κ) parts.length s) := by
  unfold parse
  simp only [Text.spaced_iff.1 h, hlength, if_false]

variable [SpannedKey κ]

@[simp]
theorem length_texts (k : κ) : (texts k).length = (kind κ).arity := by
  simpa [texts] using LawfulKey.arity k

/-- The constructors give a key exactly from the texts of its components. -/
theorem build_eq_ok {raw : String} {parts : List String} {k : κ} :
    build raw parts = .ok k ↔ texts k = parts := by
  refine ⟨fun h => ?_, fun h => h ▸ build_texts raw k⟩
  unfold build at h
  obtain ⟨cs, hcs, h⟩ := Except.bind_eq_ok.1 h
  split at h
  · rename_i l hl
    cases h
    rw [texts, SpannedKey.components_of hl, Component.mapM_ofString_eq_ok.1 hcs]
  · cases h

theorem exists_texts {parts : List String} :
    (∃ k : κ, texts k = parts) ↔
      parts.length = (kind κ).arity ∧ ∀ p ∈ parts, IsComponent p := by
  constructor
  · rintro ⟨k, rfl⟩
    exact ⟨length_texts k, Component.exists_map_text.1 ⟨components k, rfl⟩⟩
  · rintro ⟨hlength, hparts⟩
    obtain ⟨cs, rfl⟩ := Component.exists_map_text.2 hparts
    obtain ⟨k, hk⟩ := SpannedKey.made (κ := κ) cs (by simpa using hlength)
    exact ⟨k, congrArg _ (SpannedKey.components_of hk)⟩

/-- **A text reads as a key exactly when its words are the components of the key.** -/
theorem parse_eq_ok {s : String} {k : κ} : parse s = .ok k ↔ Text.Spaced s (texts k) := by
  rw [Text.spaced_iff]
  simp only [parse]
  constructor
  · intro h
    split at h
    · exact (build_eq_ok.1 h).symm
    · cases h
  · intro h
    simp only [h, length_texts, if_true]
    exact build_texts s k

/-- A text reads as some key exactly when it has the right number of words. -/
theorem exists_parse {s : String} :
    (∃ k : κ, parse s = .ok k) ↔ ∃ parts, Text.Spaced s parts ∧ parts.length = (kind κ).arity := by
  simp only [parse_eq_ok]
  constructor
  · rintro ⟨k, h⟩
    exact ⟨texts k, h, length_texts k⟩
  · rintro ⟨parts, h, hlength⟩
    obtain ⟨k, rfl⟩ := exists_texts.2 ⟨hlength, h.isComponent⟩
    exact ⟨k, h⟩

end EntityKey

/-! ## Keys as JSON -/

theorem Decode.key_eq_ok {κ : Type} [EntityKey κ] {j : Json} {k : κ} :
    Decode.key j = .ok k ↔ ∃ s, j = .str s ∧ EntityKey.parse s = .ok k := by
  unfold Decode.key
  cases j with
  | str s => simp [Decode.string, ok_bind, Except.mapError_eq_ok]
  | _ => simp [Decode.string, Decode.mismatch, bind, Except.bind]

/-! ## The four kinds -/

/-- The keys of a type and their texts determine one another. -/
structure EntityKey.Faithful (κ : Type) [EntityKey κ] : Prop where
  /-- A text is a key exactly when it has as many words as the kind has components, -/
  parses : ∀ s, (∃ k : κ, parse s = .ok k) ↔
    ∃ parts, Text.Spaced s parts ∧ parts.length = (kind κ).arity
  /-- and otherwise the error says how many words it has; -/
  refuses : ∀ s parts, Text.Spaced s parts → parts.length ≠ (kind κ).arity →
    parse (κ := κ) s = .error (.wrongArity (kind κ) parts.length s)
  /-- the components are the words, and the text of the key is the words joined by single spaces. -/
  reads : ∀ s parts (k : κ), Text.Spaced s parts → parse s = .ok k →
    texts k = parts ∧ text k = " ".intercalate parts
  /-- The constructors give a key exactly from components that are not empty and have no blank, -/
  builds : ∀ raw parts, (∃ k : κ, build raw parts = .ok k) ↔
    parts.length = (kind κ).arity ∧ ∀ p ∈ parts, IsComponent p
  /-- which are then the components of the key. -/
  holds : ∀ raw parts (k : κ), build raw parts = .ok k ↔ texts k = parts
  /-- The text of a key reads as the key, -/
  returns : ∀ k : κ, parse (text k) = .ok k
  /-- so that different keys have different texts. -/
  apart : Function.Injective (text : κ → String)
  /-- In JSON a key is read from a string and from nothing else, as its text is, -/
  decodes : ∀ j (k : κ), Decode.key j = .ok k ↔ ∃ s, j = .str s ∧ parse s = .ok k
  /-- the string that is written for a key is its text, which reads as the key, -/
  encodes : ∀ k : κ, Encode.key k = .str (text k) ∧ Decode.key (Encode.key k) = .ok k
  /-- and different keys are written as different strings. -/
  written : Function.Injective (Encode.key : κ → Json)

theorem EntityKey.faithful (κ : Type) [EntityKey κ] [SpannedKey κ] : Faithful κ where
  parses _ := exists_parse
  refuses _ _ := parse_eq_error
  reads s parts k hparts h := by
    have htexts : texts k = parts :=
      (Text.spaced_iff.1 (parse_eq_ok.1 h)).symm.trans (Text.spaced_iff.1 hparts)
    exact ⟨htexts, htexts ▸ rfl⟩
  builds raw parts := by simp only [build_eq_ok, exists_texts]
  holds _ _ _ := build_eq_ok
  returns := parse_text
  apart _ _ := text_injective
  decodes _ _ := Decode.key_eq_ok
  encodes k := ⟨rfl, Decode.key_eq_ok.2 ⟨_, rfl, parse_text k⟩⟩
  written _ _ h := text_injective (Json.str.inj h)

/-- A key is made of the key of its parent and one more component. -/
structure KeysNest : Prop where
  /-- Building a key at once and one component after the other are the same. -/
  template : ∀ raw b, EntityKey.build raw [b] = TemplateKey.named b
  revision : ∀ raw b r, EntityKey.build raw [b, r] = RevisionKey.named b r
  manager : ∀ raw b r z, EntityKey.build raw [b, r, z] = ManagerKey.named b r z
  machine : ∀ raw b r z n, EntityKey.build raw [b, r, z, n] = InstanceKey.named b r z n
  /-- The text of a key is the text of its parent, a space and the last component. -/
  templateText : ∀ k : TemplateKey, EntityKey.text k = k.baseName.text
  revisionText : ∀ k : RevisionKey,
    EntityKey.text k = EntityKey.text k.parent ++ " " ++ k.revision.text
  managerText : ∀ k : ManagerKey, EntityKey.text k = EntityKey.text k.parent ++ " " ++ k.zone.text
  machineText : ∀ k : InstanceKey, EntityKey.text k = EntityKey.text k.parent ++ " " ++ k.name.text

theorem keysNest : KeysNest where
  template raw b := by
    simp only [EntityKey.build, TemplateKey.named, List.mapM_cons, List.mapM_nil, bind_assoc,
      pure_bind]
    rfl
  revision raw b r := by
    simp only [EntityKey.build, RevisionKey.named, TemplateKey.named, TemplateKey.revisionNamed,
      List.mapM_cons, List.mapM_nil, bind_assoc, pure_bind]
    rfl
  manager raw b r z := by
    simp only [EntityKey.build, ManagerKey.named, RevisionKey.named, TemplateKey.named,
      TemplateKey.revisionNamed, RevisionKey.managerIn, List.mapM_cons, List.mapM_nil, bind_assoc,
      pure_bind]
    rfl
  machine raw b r z n := by
    simp only [EntityKey.build, InstanceKey.named, ManagerKey.named, RevisionKey.named,
      TemplateKey.named, TemplateKey.revisionNamed, RevisionKey.managerIn,
      ManagerKey.instanceNamed, List.mapM_cons, List.mapM_nil, bind_assoc, pure_bind]
    rfl
  templateText k := rfl
  revisionText k := rfl
  managerText k := rfl
  machineText k := rfl

/-- **The keys of each of the four kinds and their texts determine one another**, whichever way the
keys are built. -/
theorem keys_faithful :
    EntityKey.Faithful TemplateKey ∧ EntityKey.Faithful RevisionKey ∧
      EntityKey.Faithful ManagerKey ∧ EntityKey.Faithful InstanceKey ∧ KeysNest :=
  ⟨EntityKey.faithful _, EntityKey.faithful _, EntityKey.faithful _, EntityKey.faithful _,
    keysNest⟩

end FleetReconciler
