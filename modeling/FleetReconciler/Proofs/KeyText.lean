import FleetReconciler.Key.Reader

/-!
# The text of a key

A component holds no blank, so the words of a key text are its components and nothing else: reading
the text of a key gives the key, and different keys of a kind have different texts.

* `words_append`, `wordsOf_joinWith` — the words of texts that are joined by single spaces;
* `LawfulKey` — a kind of keys whose components determine the key;
* `parse_text` — **reading the text of a key gives the key**, hence `text_injective`.
-/

namespace FleetReconciler

namespace Text

theorem words_cons_of_blank {c : Char} (h : isBlank c = true) (rest : List Char) :
    words (c :: rest) = words rest := by
  rw [words.eq_def]
  simp only [h, if_true]

theorem words_cons_of_not_blank {c : Char} (h : isBlank c = false) (rest : List Char) :
    words (c :: rest) = match rest, words rest with
      | d :: _, w :: ws => if isBlank d then [c] :: w :: ws else (c :: w) :: ws
      | _, ws => [c] :: ws := by
  have hwords := words.eq_def (c :: rest)
  simp only [h, Bool.false_eq_true, if_false] at hwords
  exact hwords

/-- A run of characters that are not blank, up to a blank or the end, is the first word. -/
theorem words_append {word rest : List Char} (hne : word ≠ [])
    (hword : ∀ c ∈ word, isBlank c = false) (hrest : ∀ c ∈ rest.head?, isBlank c = true) :
    words (word ++ rest) = word :: words rest := by
  induction word with
  | nil => exact (hne rfl).elim
  | cons c word ih =>
    have hc := hword c List.mem_cons_self
    have htail : ∀ d ∈ word, isBlank d = false := fun d hd => hword d (List.mem_cons_of_mem _ hd)
    rw [List.cons_append, words_cons_of_not_blank hc]
    cases word with
    | nil =>
      cases rest with
      | nil => rfl
      | cons d rest =>
        have hd : isBlank d = true := hrest d rfl
        cases hws : words (d :: rest) with
        | nil => simp only [List.nil_append, hws]
        | cons w ws => simp only [List.nil_append, hws, hd, if_true]
    | cons d word =>
      have hd := htail d List.mem_cons_self
      have hws := ih (by simp) htail
      rw [List.cons_append] at hws
      simp only [List.cons_append, hws, hd, Bool.false_eq_true, if_false]

/-- Words that are joined by single spaces are the words of the joined text. -/
theorem words_intercalate {parts : List (List Char)}
    (h : ∀ w ∈ parts, w ≠ [] ∧ ∀ c ∈ w, isBlank c = false) :
    words ([' '].intercalate parts) = parts := by
  induction parts with
  | nil => rfl
  | cons w parts ih =>
    obtain ⟨hne, hword⟩ := h w List.mem_cons_self
    have hrest := ih fun v hv => h v (List.mem_cons_of_mem _ hv)
    cases parts with
    | nil =>
      have happend : words (w ++ []) = w :: words [] := words_append hne hword (by simp)
      simpa [words.eq_def []] using happend
    | cons v parts =>
      have hspace : isBlank ' ' = true := by decide
      rw [List.intercalate_cons_cons, List.append_assoc, List.singleton_append,
        words_append hne hword (by simpa using hspace), words_cons_of_blank hspace, hrest]

end Text

namespace Component

theorem toList_ne_nil (a : Component) : a.text.toList ≠ [] := fun h =>
  a.isComponent.1 (String.toList_inj.1 (by simpa using h))

theorem not_blank (a : Component) : ∀ c ∈ a.text.toList, Text.isBlank c = false := by
  intro c hc
  simpa using List.all_eq_true.1 a.isComponent.2 c hc

@[simp]
theorem ofString_text (a : Component) : ofString a.text = .ok a := by
  simp [ofString, a.isComponent]

end Component

namespace Text

theorem wordsOf_joinWith (cs : List Component) :
    wordsOf (joinWith " " (cs.map Component.text)) = cs.map Component.text := by
  have hparts : ∀ w ∈ cs.map (fun c => c.text.toList), w ≠ [] ∧ ∀ c ∈ w, isBlank c = false := by
    intro w hw
    obtain ⟨c, -, rfl⟩ := List.mem_map.1 hw
    exact ⟨c.toList_ne_nil, c.not_blank⟩
  have hwords := words_intercalate hparts
  simp only [wordsOf, joinWith, String.toList_intercalate, List.map_map]
  rw [show " ".toList = [' '] from rfl]
  rw [show (String.toList ∘ Component.text) = fun c : Component => c.text.toList from rfl, hwords]
  simp

end Text

/-- The components of a key determine it, and there are as many as its kind says. -/
class LawfulKey (κ : Type) [EntityKey κ] : Prop where
  ofComponents : ∀ k : κ, EntityKey.ofComponents? (EntityKey.components k) = some k
  arity : ∀ k : κ, (EntityKey.components k).length = (EntityKey.kind κ).arity

instance : LawfulKey TemplateKey := ⟨fun _ => rfl, fun _ => rfl⟩

instance : LawfulKey RevisionKey := ⟨fun _ => rfl, fun _ => rfl⟩

instance : LawfulKey ManagerKey := ⟨fun _ => rfl, fun _ => rfl⟩

instance : LawfulKey InstanceKey := ⟨fun _ => rfl, fun _ => rfl⟩

namespace EntityKey

variable {κ : Type} [EntityKey κ] [LawfulKey κ]

/-- Keys with the same components are the same. -/
theorem eq_of_components {k l : κ} (h : components k = components l) : k = l :=
  Option.some.inj ((LawfulKey.ofComponents k).symm.trans (h ▸ LawfulKey.ofComponents l))

theorem mapM_ofString (cs : List Component) :
    (cs.map Component.text).mapM Component.ofString = .ok cs := by
  induction cs with
  | nil => rfl
  | cons c cs ih => simp [List.mapM_cons, ih, bind, Except.bind, pure, Except.pure]

theorem build_texts (raw : String) (k : κ) : build raw (texts k) = .ok k := by
  unfold build texts
  rw [mapM_ofString]
  simp [bind, Except.bind, LawfulKey.ofComponents, pure, Except.pure]

/-- **Reading the text of a key gives the key.** -/
theorem parse_text (k : κ) : parse (text k) = .ok k := by
  unfold parse text
  have hwords : Text.wordsOf (Text.joinWith " " (texts k)) = texts k :=
    Text.wordsOf_joinWith (components k)
  have harity : (texts k).length = (kind κ).arity := by
    simpa [texts] using LawfulKey.arity k
  simp only [hwords, harity, if_true]
  exact build_texts _ k

/-- Different keys of a kind have different texts. -/
theorem text_injective {k l : κ} (h : text k = text l) : k = l := by
  have hk := parse_text k
  rw [h, parse_text l] at hk
  exact (Except.ok.inj hk).symm

end EntityKey

end FleetReconciler
