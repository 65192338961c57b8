import Mathlib.Data.List.DropRight
import FleetReconciler.Proofs.KeyWords
import FleetReconciler.Proofs.JobUpkeep

/-!
# Names of instances in URLs

The name of an instance is cut out of its URL from the back: the slashes at the end go, and what
stands behind the last slash of the rest is the name. Which name that is, is said here without the
cuts, and with it which URLs have a key under a manager, and which of them share one.

* `IsInstanceName` — a text is the last segment of a URL;
* `Text.lastSegment` — the two cuts on lists of characters;
* `instanceName?_eq_some_iff`, `instanceName?_eq_none_iff` — the name that is found, and the URLs
  that have none;
* `ManagerKey.instanceAt_eq_ok` — the key of a URL under a manager;
* `instance_names_exact` — **a key under a manager is the last segment of its URL**.
-/

namespace FleetReconciler

/-! ## Last segments -/

/-- The text `name` is the last segment of `url`: nothing but slashes follows it, and it stands at
the beginning or behind a slash. -/
structure IsInstanceName (name url : String) : Prop where
  ne_empty : name ≠ ""
  slash_free : '/' ∉ name.toList
  segment : ∃ before slashes, url = before ++ name ++ slashes ∧
    (before = "" ∨ ∃ rest, before = rest ++ "/") ∧ ∀ c ∈ slashes.toList, c = '/'

namespace Text

/-- What stands behind the last slash, not counting the slashes at the end. -/
def lastSegment (cs : List Char) : List Char :=
  (dropEndWhile (· = '/') cs).rtakeWhile (· ≠ '/')

theorem dropEndWhile_eq (p : Char → Bool) (cs : List Char) :
    dropEndWhile p cs = cs.rdropWhile p := rfl

theorem dropEndWhile_slash_eq_nil {cs : List Char} :
    dropEndWhile (· = '/') cs = [] ↔ ∀ c ∈ cs, c = '/' := by
  simp only [dropEndWhile_eq, List.rdropWhile_eq_nil_iff, decide_eq_true_eq]

/-- Only a text of slashes has no last segment. -/
theorem lastSegment_eq_nil {cs : List Char} : lastSegment cs = [] ↔ ∀ c ∈ cs, c = '/' := by
  rw [← dropEndWhile_slash_eq_nil, lastSegment, List.rtakeWhile_eq_nil_iff]
  refine ⟨fun h => ?_, fun h hne => (hne h).elim⟩
  -- a path that is left over would end both at a slash and not at one
  by_contra hne
  have hlast := List.rdropWhile_last_not _ _ hne
  have hslash := h hne
  simp only [decide_not, Bool.not_eq_true', decide_eq_false_iff_not, not_not] at hslash
  exact hlast (decide_eq_true hslash)

theorem slash_not_mem_lastSegment (cs : List Char) : '/' ∉ lastSegment cs := fun h => by
  have hne := List.mem_rtakeWhile_imp h
  simp at hne

/-- A text is what precedes its last segment, the segment, and the slashes at the end. -/
theorem exists_lastSegment (cs : List Char) :
    ∃ before slashes, cs = before ++ lastSegment cs ++ slashes ∧
      (before = [] ∨ ∃ rest, before = rest ++ ['/']) ∧ ∀ c ∈ slashes, c = '/' := by
  let path := dropEndWhile (· = '/') cs
  have hends : path ++ cs.rtakeWhile (· = '/') = cs := List.rdropWhile_append_rtakeWhile
  have hpath : path.rdropWhile (· ≠ '/') ++ lastSegment cs = path :=
    List.rdropWhile_append_rtakeWhile
  have hslashes : ∀ c ∈ cs.rtakeWhile (· = '/'), c = '/' := fun c hc => by
    have hc := List.mem_rtakeWhile_imp hc
    exact of_decide_eq_true hc
  refine ⟨path.rdropWhile (· ≠ '/'), cs.rtakeWhile (· = '/'), by rw [hpath, hends], ?_, hslashes⟩
  by_cases hnil : path.rdropWhile (· ≠ '/') = []
  · exact .inl hnil
  · have hlast : (path.rdropWhile (· ≠ '/')).getLast hnil = '/' := by
      have hlast := List.rdropWhile_last_not _ _ hnil
      simpa only [decide_not, Bool.not_eq_true', decide_eq_false_iff_not, not_not] using hlast
    have hsplit := List.dropLast_append_getLast hnil
    exact .inr ⟨_, hsplit.symm.trans (congrArg (_ ++ [·]) hlast)⟩

/-- The segment is found wherever a text ends with it and slashes. -/
theorem lastSegment_append {before name slashes : List Char} (hne : name ≠ [])
    (hfree : '/' ∉ name) (hbefore : before = [] ∨ ∃ rest, before = rest ++ ['/'])
    (hslashes : ∀ c ∈ slashes, c = '/') : lastSegment (before ++ name ++ slashes) = name := by
  have hpath : dropEndWhile (· = '/') (before ++ name ++ slashes) = before ++ name := by
    obtain ⟨init, last, rfl⟩ := List.eq_nil_or_concat name |>.resolve_left hne
    have hlast : last ≠ '/' := fun h => hfree (by simp [h])
    unfold dropEndWhile
    rw [List.reverse_append, List.dropWhile_append_of_pos
      fun c hc => decide_eq_true (hslashes c (List.mem_reverse.1 hc))]
    simp [hlast]
  have hname : ∀ c ∈ name.reverse, decide (c ≠ '/') = true := fun c hc =>
    decide_eq_true fun h => hfree (h ▸ List.mem_reverse.1 hc)
  rw [lastSegment, hpath, List.rtakeWhile, List.reverse_append,
    List.takeWhile_append_of_pos hname]
  rcases hbefore with rfl | ⟨rest, rfl⟩
  · simp
  · simp

end Text

/-! ## Names of URLs -/

theorem instanceName?_eq (url : String) :
    instanceName? url =
      if Text.lastSegment url.toList = [] then none
      else some (String.ofList (Text.lastSegment url.toList)) := rfl

/-- A URL has no name exactly if it holds nothing but slashes. -/
theorem instanceName?_eq_none_iff {url : String} :
    instanceName? url = none ↔ ∀ c ∈ url.toList, c = '/' := by
  rw [instanceName?_eq, ← Text.lastSegment_eq_nil]
  split
  · rename_i hnil
    exact iff_of_true rfl hnil
  · rename_i hne
    exact iff_of_false (Option.some_ne_none _) hne

/-- What is cut out is a last segment, if anything is left. -/
theorem isInstanceName_lastSegment {url : String} (hne : Text.lastSegment url.toList ≠ []) :
    IsInstanceName (String.ofList (Text.lastSegment url.toList)) url := by
  obtain ⟨before, slashes, hurl, hbefore, hslashes⟩ := Text.exists_lastSegment url.toList
  refine ⟨fun h => hne (String.ofList_eq_empty_iff.1 h), ?_,
    String.ofList before, String.ofList slashes, ?_, ?_, ?_⟩
  · rw [String.toList_ofList]
    exact Text.slash_not_mem_lastSegment _
  · rw [← String.ofList_append, ← String.ofList_append, ← hurl, String.ofList_toList]
  · rcases hbefore with rfl | ⟨rest, rfl⟩
    · exact .inl rfl
    · exact .inr ⟨String.ofList rest, String.ofList_append⟩
  · rw [String.toList_ofList]
    exact hslashes

/-- Every last segment is what is cut out. -/
theorem IsInstanceName.lastSegment_eq {name url : String} (h : IsInstanceName name url) :
    Text.lastSegment url.toList = name.toList := by
  obtain ⟨hne, hfree, before, slashes, rfl, hbefore, hslashes⟩ := h
  have hname : name.toList ≠ [] := fun h => hne (String.toList_eq_nil_iff.1 h)
  have hbefore' : before.toList = [] ∨ ∃ rest, before.toList = rest ++ ['/'] := by
    rcases hbefore with rfl | ⟨rest, rfl⟩
    · exact .inl rfl
    · exact .inr ⟨rest.toList, String.toList_append⟩
  rw [String.toList_append, String.toList_append]
  exact Text.lastSegment_append hname hfree hbefore' hslashes

/-- **The name of a URL is its last segment.** -/
theorem instanceName?_eq_some_iff {name url : String} :
    instanceName? url = some name ↔ IsInstanceName name url := by
  rw [instanceName?_eq]
  constructor
  · intro h
    split at h
    · cases h
    · rename_i hne
      cases h
      exact isInstanceName_lastSegment hne
  · intro h
    have hname : name.toList ≠ [] := fun hnil => h.ne_empty (String.toList_eq_nil_iff.1 hnil)
    rw [h.lastSegment_eq, if_neg hname, String.ofList_toList]

/-- A URL has one last segment at most. -/
theorem IsInstanceName.unique {n n' url : String} (h : IsInstanceName n url)
    (h' : IsInstanceName n' url) : n = n' :=
  Option.some.inj
    ((instanceName?_eq_some_iff.2 h).symm.trans (instanceName?_eq_some_iff.2 h'))

/-- A URL has one last segment exactly if it holds anything but slashes. -/
theorem existsUnique_isInstanceName {url : String} :
    (∃! name, IsInstanceName name url) ↔ ∃ c ∈ url.toList, c ≠ '/' := by
  constructor
  · rintro ⟨name, hname, -⟩
    by_contra hnone
    push Not at hnone
    have hsome := instanceName?_eq_some_iff.2 hname
    rw [instanceName?_eq_none_iff.2 hnone] at hsome
    cases hsome
  · rintro ⟨c, hc, hne⟩
    have hsome : instanceName? url ≠ none := fun h => hne (instanceName?_eq_none_iff.1 h c hc)
    obtain ⟨name, hname⟩ := Option.ne_none_iff_exists'.1 hsome
    have hname := instanceName?_eq_some_iff.1 hname
    exact ⟨name, hname, fun other hother => hother.unique hname⟩

-- a run of slashes in the middle ends the segment before it, one at the end does not
example : instanceName? "https://host//zones/z/instances//vm-1//" = some "vm-1" := by decide

/-! ## Keys of URLs -/

/-- A name is a component of a key unless it has a blank. -/
theorem IsInstanceName.isComponent_iff {name url : String} (h : IsInstanceName name url) :
    IsComponent name ↔ ∀ c ∈ name.toList, Text.isBlank c = false := by
  simp [IsComponent, h.ne_empty]

namespace ManagerKey

variable {m : ManagerKey} {url : String}

/-- The keys under a manager that a URL gives: the one whose name is the last segment. -/
theorem instanceAt_eq_ok {k : InstanceKey} :
    m.instanceAt url = .ok k ↔ k.parent = m ∧ IsInstanceName k.name.text url := by
  rw [← instanceName?_eq_some_iff]
  refine ⟨of_instanceAt, fun ⟨hparent, hname⟩ => ?_⟩
  subst hparent
  have hcomponent : Component.ofString k.name.text = .ok k.name := Component.ofString_eq_ok.2 rfl
  simp only [instanceAt, hname, instanceNamed, hcomponent]
  rfl

/-- A URL gives a key exactly if its last segment has no blank. -/
theorem exists_instanceAt :
    (∃ k, m.instanceAt url = .ok k) ↔
      ∃ name, IsInstanceName name url ∧ ∀ c ∈ name.toList, Text.isBlank c = false := by
  constructor
  · rintro ⟨k, hk⟩
    have hname := (instanceAt_eq_ok.1 hk).2
    exact ⟨k.name.text, hname, hname.isComponent_iff.1 k.name.isComponent⟩
  · rintro ⟨name, hname, hblank⟩
    exact ⟨⟨m, name, hname.isComponent_iff.2 hblank⟩, instanceAt_eq_ok.2 ⟨rfl, hname⟩⟩

/-- Two URLs give the same key under a manager exactly if they have the same last segment. -/
theorem instanceAt_inj {url' : String} {k k' : InstanceKey} (h : m.instanceAt url = .ok k)
    (h' : m.instanceAt url' = .ok k') :
    k = k' ↔ ∀ name, IsInstanceName name url ↔ IsInstanceName name url' := by
  obtain ⟨hparent, hname⟩ := instanceAt_eq_ok.1 h
  obtain ⟨hparent', hname'⟩ := instanceAt_eq_ok.1 h'
  constructor
  · rintro rfl name
    exact ⟨fun hn => hn.unique hname ▸ hname', fun hn => hn.unique hname' ▸ hname⟩
  · intro hsame
    have htext : k.name.text = k'.name.text := ((hsame _).1 hname).unique hname'
    obtain ⟨m, ⟨text, hcomponent⟩⟩ := k
    obtain ⟨m', ⟨text', hcomponent'⟩⟩ := k'
    cases htext
    cases hparent
    cases hparent'
    rfl

end ManagerKey

/-- **The key of an instance is the last segment of its URL.** A URL has no name exactly if it holds
nothing but slashes, and otherwise exactly one: the last segment. It has a key under a manager
exactly if that name has no blank, and the key is the name below the manager; so two URLs that have
a key share it exactly if they have the same name. -/
theorem instance_names_exact (url : String) :
    (instanceName? url = none ↔ ∀ c ∈ url.toList, c = '/') ∧
    (∀ name, instanceName? url = some name ↔ IsInstanceName name url) ∧
    ((∃! name, IsInstanceName name url) ↔ ∃ c ∈ url.toList, c ≠ '/') ∧
    ∀ m : ManagerKey,
      ((∃ k, m.instanceAt url = .ok k) ↔
        ∃ name, IsInstanceName name url ∧ ∀ c ∈ name.toList, Text.isBlank c = false) ∧
      (∀ k, m.instanceAt url = .ok k ↔ k.parent = m ∧ IsInstanceName k.name.text url) ∧
      ∀ url' k k', m.instanceAt url = .ok k → m.instanceAt url' = .ok k' →
        (k = k' ↔ instanceName? url = instanceName? url') := by
  refine ⟨instanceName?_eq_none_iff, fun _ => instanceName?_eq_some_iff,
    existsUnique_isInstanceName, fun m => ⟨ManagerKey.exists_instanceAt,
      fun _ => ManagerKey.instanceAt_eq_ok, fun url' k k' h h' => ?_⟩⟩
  rw [ManagerKey.instanceAt_inj h h']
  simp only [← instanceName?_eq_some_iff]
  exact ⟨fun hsame => Option.ext hsame, fun hsame name => by rw [hsame]⟩

end FleetReconciler
