import FleetReconciler.Proofs.StoredText

/-!
# Files under a save

A save makes directories and puts one file in its place at once. So either the file is replaced as a
whole, or no file changes.

* `Upholds` — where one computation succeeds, another does with the same result;
* `FileTree.KeepsDirectories`, `lastStep?_upholds` — what leads somewhere leads there as long as no
  directory goes;
* `FileTree.SameFiles` — every file is as it was, and only directories are new;
* `find_replace` — a file that was put in its place is found there;
* `sameFiles_of_error`, `find_of_ok` — **a save leaves every file as it was, or replaces one**;
* `load_of_find` — a store file is opened with what was saved to it.
-/

namespace FleetReconciler

/-! ## Computations that succeed together -/

/-- Where `x` succeeds, `y` does with the same result. -/
def Upholds {ε α : Type} (x y : Except ε α) : Prop := ∀ a, x = .ok a → y = .ok a

namespace Upholds

variable {ε α β : Type}

theorem refl (x : Except ε α) : Upholds x x := fun _ h => h

theorem error (e : ε) (y : Except ε α) : Upholds (.error e) y := nofun

theorem bind {x y : Except ε α} {f g : α → Except ε β} (h : Upholds x y)
    (hnext : ∀ a, Upholds (f a) (g a)) : Upholds (x >>= f) (y >>= g) := by
  intro b hb
  cases x with
  | error e => cases hb
  | ok a =>
    rw [h a rfl]
    exact hnext a b hb

theorem foldlM {f g : β → α → Except ε β} (h : ∀ b a, Upholds (f b a) (g b a)) (as : List α)
    (b : β) : Upholds (as.foldlM f b) (as.foldlM g b) := by
  induction as generalizing b with
  | nil => exact refl _
  | cons a as ih =>
    rw [List.foldlM_cons, List.foldlM_cons]
    exact (h b a).bind ih

end Upholds

namespace FileTree

variable {t u v : FileTree}

/-! ## Following paths -/

/-- Every directory of a tree is one of another. -/
def KeepsDirectories (t u : FileTree) : Prop :=
  ∀ names, t.node? names = some .directory → u.node? names = some .directory

theorem enter_upholds (h : KeepsDirectories t u) (place : List String) (name : String) :
    Upholds (t.enter place name) (u.enter place name) := by
  unfold enter
  by_cases hback : name = ".."
  · simp only [hback, if_true]
    exact .refl _
  · simp only [hback, if_false]
    refine (Upholds.refl _).bind fun _ => ?_
    cases hnode : t.node? (Path.follow place name) with
    | none => exact .error _ _
    | some n =>
      cases n with
      | file text mode => exact .error _ _
      | directory =>
        rw [h _ hnode]
        exact .refl _

theorem directoryAt_upholds (h : KeepsDirectories t u) (path : String) :
    Upholds (t.directoryAt path) (u.directoryAt path) :=
  .foldlM (enter_upholds h) _ _

theorem lastStep?_upholds (h : KeepsDirectories t u) (path : String) :
    Upholds (t.lastStep? path) (u.lastStep? path) := by
  unfold lastStep?
  cases hlast : (Path.names path).getLast? with
  | none =>
    simp only [hlast]
    exact .refl _
  | some name =>
    simp only [hlast]
    split
    · exact (directoryAt_upholds h path).bind fun _ => .refl _
    · exact (Upholds.foldlM (enter_upholds h) _ _).bind fun _ => .refl _

/-! ## New directories -/

/-- Every file is as it was, directories are kept, and only directories are new. -/
structure SameFiles (t u : FileTree) : Prop where
  kept : ∀ names n, t.node? names = some n → u.node? names = some n
  old : ∀ names text mode, u.node? names = some (.file text mode) →
    t.node? names = some (.file text mode)

namespace SameFiles

theorem refl (t : FileTree) : SameFiles t t := ⟨fun _ _ h => h, fun _ _ _ h => h⟩

theorem trans (h : SameFiles t u) (h' : SameFiles u v) : SameFiles t v :=
  ⟨fun names n hn => h'.kept names n (h.kept names n hn),
    fun names text mode hn => h.old names text mode (h'.old names text mode hn)⟩

theorem keepsDirectories (h : SameFiles t u) : KeepsDirectories t u := fun names => h.kept names _

/-- What a path leads to is kept. -/
theorem find_upholds (h : SameFiles t u) (path : String) : Upholds (t.find path) (u.find path) := by
  unfold find
  refine (Upholds.refl _).bind fun _ => (lastStep?_upholds h.keepsDirectories path).bind fun step => ?_
  cases step with
  | none => exact .refl _
  | some p =>
    obtain ⟨place, name⟩ := p
    cases hnode : t.node? (Path.follow place name) with
    | none =>
      simp only [hnode]
      exact .error _ _
    | some n =>
      simp only [hnode, h.kept _ n hnode]
      exact .refl _

/-- The text to which a path leads is kept. -/
theorem readText_upholds (h : SameFiles t u) (path : String) :
    Upholds (t.readText path) (u.readText path) :=
  (h.find_upholds path).bind fun _ => .refl _

end SameFiles

/-! ### Setting a node -/

/-- A place at which a directory always is: the root, the working directory and those above it. -/
def IsFixed (names : List String) : Prop := names = ["/"] ∨ names.getLast?.all (· = "..")

theorem node?_of_fixed {names : List String} (h : IsFixed names) (t : FileTree) :
    t.node? names = some .directory := if_pos h

theorem node?_of_not_fixed {names : List String} (h : ¬ IsFixed names) (t : FileTree) :
    t.node? names = Table.get? (placeText names) t.nodes := if_neg h

/-- What is at a place after a node was set: that node where the place goes by the same text. -/
theorem node?_set (t : FileTree) (names : List String) (n : FileNode) {other : List String}
    (h : ¬ IsFixed other) :
    (t.set names n).node? other =
      if placeText other = placeText names then some n else t.node? other := by
  rw [node?_of_not_fixed h, node?_of_not_fixed h]
  unfold set
  split
  · rename_i hplace
    rw [hplace, Table.get?_insert_self]
  · rename_i hplace
    rw [Table.get?_insert_of_ne hplace]

/-- A directory that is set is there. -/
theorem node?_set_self (t : FileTree) (names : List String) :
    (t.set names .directory).node? names = some .directory := by
  by_cases h : IsFixed names
  · exact node?_of_fixed h _
  · rw [node?_set t names _ h, if_pos rfl]

/-- Places that go by one text have the same node. -/
theorem node?_congr {names other : List String} (h : ¬ IsFixed names) (h' : ¬ IsFixed other)
    (htext : placeText names = placeText other) : t.node? names = t.node? other := by
  rw [node?_of_not_fixed h, node?_of_not_fixed h', htext]

/-- A directory at an empty place changes no file. -/
theorem sameFiles_set {names : List String} (h : t.node? names = none) :
    SameFiles t (t.set names .directory) := by
  have hfree : ¬ IsFixed names := fun hfixed => by
    rw [node?_of_fixed hfixed] at h
    cases h
  refine ⟨fun other n hn => ?_, fun other text mode hn => ?_⟩
  · by_cases hfixed : IsFixed other
    · rwa [node?_of_fixed hfixed] at hn ⊢
    · rw [node?_set t names _ hfixed, if_neg fun htext => ?_]
      · exact hn
      · rw [node?_congr hfixed hfree htext, h] at hn
        cases hn
  · by_cases hfixed : IsFixed other
    · rw [node?_of_fixed hfixed] at hn
      cases hn
    · rw [node?_set t names _ hfixed] at hn
      split at hn
      · cases hn
      · exact hn

/-- Directories that are made change no file, even when something stands in the way. -/
theorem sameFiles_makeDirectories (t : FileTree) (made : Bool) (place names : List String) :
    SameFiles t (t.makeDirectories made place names).2 := by
  induction names generalizing t made place with
  | nil => exact .refl t
  | cons name names ih =>
    unfold makeDirectories
    cases checkName name with
    | error e => exact .refl t
    | ok _ =>
      cases hnode : t.node? (Path.follow place name) with
      | none =>
        simp only [hnode]
        exact (sameFiles_set hnode).trans (ih _ true _)
      | some n =>
        simp only [hnode]
        cases n with
        | file text mode => exact .refl t
        | directory => exact ih t made _

theorem sameFiles_createDirectories (t : FileTree) (path : String) :
    SameFiles t (t.createDirectories path).2 := by
  unfold createDirectories
  cases checkPath path with
  | error e => exact .refl t
  | ok _ => exact sameFiles_makeDirectories t false _ _

/-! ### A directory that is there -/

/-- The directories along a way are there. -/
def HasDirectories (t : FileTree) (place : List String) : List String → Prop
  | [] => True
  | name :: rest =>
    checkName name = .ok () ∧ t.node? (Path.follow place name) = some .directory ∧
      t.HasDirectories (Path.follow place name) rest

/-- The directory to which a path leads is there, with all those above it. -/
def HasDirectory (t : FileTree) (path : String) : Prop :=
  checkPath path = .ok () ∧ t.HasDirectories (Path.start path) (Path.names path)

theorem HasDirectories.kept (h : KeepsDirectories t u) {place names : List String}
    (hthere : t.HasDirectories place names) : u.HasDirectories place names := by
  induction names generalizing place with
  | nil => trivial
  | cons name names ih => exact ⟨hthere.1, h _ hthere.2.1, ih hthere.2.2⟩

theorem HasDirectory.kept (h : KeepsDirectories t u) {path : String} (hthere : t.HasDirectory path) :
    u.HasDirectory path := ⟨hthere.1, hthere.2.kept h⟩

theorem makeDirectories_of_there {made : Bool} {place names : List String}
    (h : t.HasDirectories place names) : t.makeDirectories made place names = (.ok (), t) := by
  induction names generalizing place with
  | nil => rfl
  | cons name names ih =>
    obtain ⟨hname, hnode, hrest⟩ := h
    unfold makeDirectories
    simp only [hname, hnode]
    exact ih hrest

/-- Where the directory is there, nothing has to be made. -/
theorem createDirectories_of_there {path : String} (h : t.HasDirectory path) :
    t.createDirectories path = (.ok (), t) := by
  unfold createDirectories
  rw [h.1]
  exact makeDirectories_of_there h.2

/-- Directories that could be made are there. -/
theorem hasDirectories_of_made {made : Bool} {place names : List String}
    (h : t.makeDirectories made place names = (.ok (), u)) : u.HasDirectories place names := by
  induction names generalizing t made place with
  | nil => trivial
  | cons name names ih =>
    unfold makeDirectories at h
    cases hname : checkName name with
    | error e =>
      rw [hname] at h
      cases h
    | ok _ =>
      rw [hname] at h
      cases hnode : t.node? (Path.follow place name) with
      | none =>
        simp only [hnode] at h
        have hsame := sameFiles_makeDirectories (t.set (Path.follow place name) .directory)
          true (Path.follow place name) names
        rw [h] at hsame
        exact ⟨hname, hsame.kept _ _ (node?_set_self t _), ih h⟩
      | some n =>
        simp only [hnode] at h
        cases n with
        | file text mode => cases h
        | directory =>
          simp only at h
          have hsame := sameFiles_makeDirectories t made (Path.follow place name) names
          rw [h] at hsame
          exact ⟨hname, hsame.kept _ _ hnode, ih h⟩

theorem hasDirectory_of_created {path : String} (h : t.createDirectories path = (.ok (), u)) :
    u.HasDirectory path := by
  unfold createDirectories at h
  cases hpath : checkPath path with
  | error e =>
    rw [hpath] at h
    cases h
  | ok _ =>
    rw [hpath] at h
    exact ⟨hpath, hasDirectories_of_made h⟩

/-! ## A file in its place -/

/-- Where no directory is, a file can be set without one going. -/
theorem keepsDirectories_set {target : List String} (h : t.node? target ≠ some .directory)
    (text : String) (mode : Nat) : KeepsDirectories t (t.set target (.file text mode)) := by
  have hfree : ¬ IsFixed target := fun hfixed => h (node?_of_fixed hfixed t)
  intro names hn
  by_cases hfixed : IsFixed names
  · exact node?_of_fixed hfixed _
  · rw [node?_set t target _ hfixed, if_neg fun htext => ?_]
    · exact hn
    · exact h (node?_congr hfree hfixed htext.symm ▸ hn)

/-- What a file that is put in its place needs: a path to a name at which no directory is. -/
theorem replace_eq_ok {path text : String} {mode : Nat} (h : t.replace path text mode = .ok u) :
    ∃ place name, checkPath path = .ok () ∧ t.lastStep? path = .ok (some (place, name)) ∧
      Path.ending path = .name ∧ t.node? (Path.follow place name) ≠ some .directory ∧
      u = t.set (Path.follow place name) (.file text mode) := by
  unfold replace at h
  obtain ⟨_, hchecked, h⟩ := Except.bind_eq_ok.1 h
  obtain ⟨step, hstep, h⟩ := Except.bind_eq_ok.1 h
  cases step with
  | none => cases h
  | some p =>
    obtain ⟨place, name⟩ := p
    cases hending : Path.ending path with
    | dot =>
      simp only [hending] at h
      obtain ⟨_, _, h⟩ := Except.bind_eq_ok.1 h
      cases h
    | slash =>
      simp only [hending] at h
      cases h
    | name =>
      simp only [hending] at h
      split at h
      · obtain ⟨_, h, -⟩ := Except.bind_eq_ok.1 h
        cases h
      · rename_i htarget
        cases h
        exact ⟨place, name, Except.mapError_eq_ok.1 hchecked, hstep, rfl, htarget, rfl⟩

/-- **A file that was put in its place is found there.** -/
theorem find_replace {path text : String} {mode : Nat} (h : t.replace path text mode = .ok u) :
    u.find path = .ok (.file text mode) := by
  obtain ⟨place, name, hpath, hstep, hending, htarget, rfl⟩ := replace_eq_ok h
  have hfree : ¬ IsFixed (Path.follow place name) := fun hfixed => htarget (node?_of_fixed hfixed t)
  -- the way to the file leads through directories, all of which are still there
  have hstep' := lastStep?_upholds (keepsDirectories_set htarget text mode) path _ hstep
  refine Except.bind_eq_ok.2 ⟨(), hpath, Except.bind_eq_ok.2 ⟨some (place, name), hstep', ?_⟩⟩
  simp only [node?_set t _ _ hfree, if_true, hending]
  rfl

theorem keepsDirectories_replace {path text : String} {mode : Nat}
    (h : t.replace path text mode = .ok u) : KeepsDirectories t u := by
  obtain ⟨place, name, -, -, -, htarget, rfl⟩ := replace_eq_ok h
  exact keepsDirectories_set htarget text mode

end FileTree

/-! ## Saving -/

namespace FileStore

open FileTree

variable {path : String} {snapshot : Snapshot} {refusal : Option Refusal} {files files' : FileTree}

/-- How a save ends: the file is put in its place, in a tree to which the directories above it were
added, or nothing is done but some of these directories. -/
theorem replaceFile_spec (path : String) (snapshot : Snapshot) (refusal : Option Refusal)
    (files : FileTree) :
    let (created, made) := files.createDirectories (Path.parent path)
    match replaceFile path snapshot refusal files with
    | (.ok (), files') => created = .ok () ∧ made.replace path (text snapshot) mode = .ok files'
    | (.error _, files') => files' = files ∨ files' = made := by
  unfold replaceFile
  cases refused refusal .createDirectory with
  | error e => exact .inl rfl
  | ok _ =>
    simp only
    cases files.createDirectories (Path.parent path) with
    | mk created made =>
      cases created with
      | error e => exact .inr rfl
      | ok _ =>
        have hreported : reporting (.creatingDirectory (Path.parent path)) .file
            (.ok () : Except FileError Unit) = .ok () := rfl
        simp only [hreported]
        split
        · rename_i hended
          split at hended
          · cases hended
          · rename_i replaced hreplaced
            cases hended
            obtain ⟨_, -, hreplaced⟩ := Except.bind_eq_ok.1 hreplaced
            obtain ⟨_, -, hreplaced⟩ := Except.bind_eq_ok.1 hreplaced
            obtain ⟨_, -, hreplaced⟩ := Except.bind_eq_ok.1 hreplaced
            obtain ⟨_, -, hmoved⟩ := Except.bind_eq_ok.1 (Except.mapError_eq_ok.1 hreplaced)
            exact ⟨trivial, hmoved⟩
        · rename_i hended
          split at hended
          · cases hended
            exact .inr rfl
          · cases hended

/-- **A save that fails leaves every file as it was.** -/
theorem sameFiles_of_error {f : Failure}
    (h : replaceFile path snapshot refusal files = (.error f, files')) : SameFiles files files' := by
  have hspec := replaceFile_spec path snapshot refusal files
  have hsame := sameFiles_createDirectories files (Path.parent path)
  cases hcreated : files.createDirectories (Path.parent path) with
  | mk created made =>
    rw [hcreated, h] at hspec
    rw [hcreated] at hsame
    rcases hspec with rfl | rfl
    · exact .refl files'
    · exact hsame

/-- Where the directory is there, a save that fails changes nothing. -/
theorem eq_of_error {f : Failure} (hthere : files.HasDirectory (Path.parent path))
    (h : replaceFile path snapshot refusal files = (.error f, files')) : files' = files := by
  have hspec := replaceFile_spec path snapshot refusal files
  rw [h, createDirectories_of_there hthere] at hspec
  exact hspec.elim id id

/-- **A save that succeeds puts the whole snapshot into the file**, whose directory is there then. -/
theorem find_of_ok (h : replaceFile path snapshot refusal files = (.ok (), files')) :
    files'.find path = .ok (.file (text snapshot) mode) ∧
      files'.HasDirectory (Path.parent path) := by
  have hspec := replaceFile_spec path snapshot refusal files
  cases hcreated : files.createDirectories (Path.parent path) with
  | mk created made =>
    rw [hcreated, h] at hspec
    obtain ⟨rfl, hreplaced⟩ := hspec
    have hthere := hasDirectory_of_created hcreated
    exact ⟨find_replace hreplaced, hthere.kept (keepsDirectories_replace hreplaced)⟩

/-! ## Opening -/

/-- A store file is opened with what was saved to it. -/
theorem load_of_find (hsnapshot : snapshot.Storable)
    (h : files.find path = .ok (.file (text snapshot) mode)) :
    load path files = .ok ⟨path, .ofSnapshot snapshot⟩ := by
  have hcontains : files.contains path = true := by simp [contains, h]
  have htext : files.readText path = .ok (text snapshot) := by
    unfold readText
    rw [h]
    rfl
  unfold load
  rw [if_pos hcontains, htext]
  refine Except.bind_eq_ok.2 ⟨text snapshot, rfl, ?_⟩
  simp only [read?_text hsnapshot]
  rfl

end FileStore

end FleetReconciler
