import FleetReconciler.Proofs.DiscoveredLists
import FleetReconciler.Proofs.DiscoveredUrls

/-!
# Listings page by page

A group is listed only where the records locate it. Each page but the last names the next one by a
token, and an empty token is none. A script answers every call with its next answer, and with an
empty page when it is used up.

* `CloudScript.Pages` — the answers that a listing uses up, the first of which that is an error or
  carries no token being the last;
* `Session.afterPages`, `listedPages` — the session and the result after these answers;
* `serve_listPages` — **a listing has one call for each of its answers**, each with the token of the
  page before;
* `MemoryStore.Unlisted` — a group that is not listed, for want of a record, a URL or a project;
* `listing_follows_tokens` — **the calls and the result of a listing** on any store.
-/

namespace FleetReconciler

open Service

/-! ## Pages -/

/-- The URLs on a page. -/
def InstancePage.urls (p : InstancePage) : List String := p.items.map InstanceReference.url

/-- The call for a page of a group. -/
def Group.call (g : Group) (pageSize : UInt32) (token : Option String) : ListCall :=
  { project := g.project, group := g.name, zone := g.zone, pageSize, token }

/-- What a listing gives after some pages and a last answer: the URLs of all pages in their order,
or the error alone. -/
def listedPages (before : List InstancePage) :
    Except ComputeError InstancePage → Except Failure (List String)
  | .ok page => .ok ((before ++ [page]).flatMap InstancePage.urls)
  | .error e => .error (.of (.compute e))

theorem listedPages_cons (page : InstancePage) (before : List InstancePage)
    (last : Except ComputeError InstancePage) :
    listedPages (page :: before) last = (listedPages before last).map (page.urls ++ ·) := by
  cases last <;> rfl

/-- The answers of a script up to the first that is an error or names no other page. -/
structure CloudScript.Pages (script : List (Except ComputeError InstancePage))
    (before : List InstancePage) (last : Except ComputeError InstancePage) : Prop where
  answers : before.map .ok ++ [last] <+: script ++ [.ok {}]
  goOn : ∀ page ∈ before, page.next?.isSome
  ends : ∀ page, last = .ok page → page.next? = none

namespace CloudScript.Pages

variable {script : List (Except ComputeError InstancePage)} {before : List InstancePage}
  {last : Except ComputeError InstancePage}

/-- A script that is used up has an empty page. -/
theorem nil : Pages [] [] (.ok {}) where
  answers := List.prefix_rfl
  goOn := List.forall_mem_nil _
  ends page h := by
    obtain rfl := Except.ok.inj h
    rfl

theorem single (h : ∀ page, last = .ok page → page.next? = none) :
    Pages (last :: script) [] last where
  answers := ⟨script ++ [.ok {}], rfl⟩
  goOn := List.forall_mem_nil _
  ends := h

theorem cons {page : InstancePage} (hpage : page.next?.isSome) (h : Pages script before last) :
    Pages (.ok page :: script) (page :: before) last where
  answers := (List.prefix_cons_inj _).2 h.answers
  goOn := List.forall_mem_cons.2 ⟨hpage, h.goOn⟩
  ends := h.ends

end CloudScript.Pages

/-! ## The loop over the pages -/

namespace Session

/-- The session after the calls for some pages and the one after them. -/
def afterPages (call : ListCall) (before : List InstancePage) (s : Session CloudScript) :
    Session CloudScript :=
  { s with
    cloud := { s.cloud with list := s.cloud.list.drop (before.length + 1) }
    calls := s.calls ++ (call.token :: before.map InstancePage.next?).map fun token =>
      .list { call with token } }

/-- The calls for a page, and then for those after it. -/
theorem afterPages_cons (call : ListCall) (page : InstancePage) (before : List InstancePage)
    (s : Session CloudScript) :
    (s.afterPages call []).afterPages { call with token := page.next? } before =
      s.afterPages call (page :: before) := by
  simp only [afterPages, List.drop_drop, List.length_nil, List.length_cons, List.append_assoc,
    List.map_nil, List.map_cons, List.cons_append, List.nil_append, Nat.add_comm 1]

/-- The first page, and what it says about those after it. -/
theorem serve_listPages_succ (call : ListCall) (budget : Nat) (s : Session CloudScript) :
    s.serve CloudScript.cloud (listPages call (budget + 1)) =
      match (CloudScript.take (.ok {}) s.cloud.list).1 with
      | .error e => (.error (.of (.compute e)), s.afterPages call [])
      | .ok page =>
        match page.next? with
        | none => (.ok page.urls, s.afterPages call [])
        | some token =>
          let (more, t) := (s.afterPages call []).serve CloudScript.cloud
            (listPages { call with token := some token } budget)
          (more.map (page.urls ++ ·), t) := by
  have hperform : s.perform CloudScript.cloud (.listInstances call) =
      ((CloudScript.take (.ok {}) s.cloud.list).1, s.afterPages call []) := by
    have htake : (CloudScript.take (.ok {}) s.cloud.list).2 = s.cloud.list.drop 1 := by
      cases s.cloud.list <;> rfl
    unfold afterPages
    rw [List.length_nil, ← htake]
    rfl
  simp only [listPages, Session.serve, request, bind_ask, bind_done, run_ask, hperform]
  cases (CloudScript.take (.ok {}) s.cloud.list).1 with
  | error e => rfl
  | ok page =>
    simp only
    cases page.next? with
    | none => rfl
    | some token =>
      simp only [run_bind]
      cases (listPages { call with token := some token } budget).run (perform CloudScript.cloud)
        (s.afterPages call []) with
      | mk more t => cases more <;> rfl

/-- **A listing has one call for each of its answers**, the first with the token of the call and
every other with that of the page before. -/
theorem serve_listPages (call : ListCall) {budget : Nat} {s : Session CloudScript}
    (h : s.cloud.list.length < budget) :
    ∃ before last, CloudScript.Pages s.cloud.list before last ∧
      s.serve CloudScript.cloud (listPages call budget) =
        (listedPages before last, s.afterPages call before) := by
  induction budget generalizing call s with
  | zero => omega
  | succ budget ih =>
    rw [serve_listPages_succ]
    cases hscript : s.cloud.list with
    | nil =>
      refine ⟨[], .ok {}, .nil, ?_⟩
      rfl
    | cons answer script =>
      simp only [CloudScript.take]
      cases answer with
      | error e => exact ⟨[], .error e, .single nofun, rfl⟩
      | ok page =>
        simp only
        cases hnext : page.next? with
        | none =>
          refine ⟨[], .ok page, .single fun page' hpage => ?_, ?_⟩
          · rwa [← Except.ok.inj hpage]
          · simp only [listedPages, List.nil_append, List.flatMap_cons, List.flatMap_nil,
              List.append_nil]
        | some token =>
          -- the rest of the script answers the calls for the other pages
          have hrest : (s.afterPages call []).cloud.list = script := by
            simp only [afterPages, hscript, List.length_nil, Nat.zero_add, List.drop_succ_cons,
              List.drop_zero]
          have hlength : (s.afterPages call []).cloud.list.length < budget := by
            rw [hrest]
            rw [hscript, List.length_cons] at h
            omega
          obtain ⟨before, last, hpages, hserve⟩ := ih { call with token := some token } hlength
          refine ⟨page :: before, last, .cons (by rw [hnext]; rfl) (hrest ▸ hpages), ?_⟩
          simp only [hserve, listedPages_cons]
          rw [← afterPages_cons, hnext]

end Session

/-! ## The group of a manager -/

/-- A group that is not listed: a record, the URL of the manager or the project of the revision is
missing. -/
inductive MemoryStore.Unlisted (s : MemoryStore) (key : ManagerKey) : Prop
  | noManager (manager : s.read Manager key = .ok none)
  | noUrl {m : Manager} (manager : s.read Manager key = .ok (some m)) (url : m.url? = none)
  | noRevision {m : Manager} (manager : s.read Manager key = .ok (some m))
      (revision : s.read Revision key.parent = .ok none)
  | noProject {m : Manager} {r : Revision} (manager : s.read Manager key = .ok (some m))
      (revision : s.read Revision key.parent = .ok (some r)) (project : r.project? = none)

/-- Where a group is located, nothing is missing. -/
theorem MemoryStore.Unlisted.not_locates {s : MemoryStore} {key : ManagerKey} (h : s.Unlisted key)
    (g : Group) : ¬ s.Locates key g := by
  rintro ⟨m, r, project, hmanager, hurl, hrevision, hproject, -⟩
  cases h with
  | noManager manager => cases hmanager.symm.trans manager
  | noUrl manager url =>
    cases hmanager.symm.trans manager
    rw [url] at hurl
    cases hurl
  | noRevision manager revision => cases hrevision.symm.trans revision
  | noProject manager revision project =>
    cases hrevision.symm.trans revision
    cases hproject.symm.trans project

namespace Session

variable {σ : Type}

/-- A listing reads two records at most before it asks the cloud. -/
theorem serve_listInstances (c : Cloud σ) (key : ManagerKey) (pageSize : UInt32) (s : Session σ) :
    (s.records.Unlisted key ∧ ∃ log, s.serve c (listInstances key pageSize) =
      (.ok [], { s with log })) ∨
    (¬ s.records.Unlisted key ∧
      ∃ f, (s.records.read Manager key = .error f ∨ s.records.read Revision key.parent = .error f) ∧
        s.serve c (listInstances key pageSize) = (.error f, s)) ∨
    ∃ g, s.records.Locates key g ∧ s.serve c (listInstances key pageSize) =
      (inContext (.listing g.name g.zone)
        (s.serve c (listPages (g.call pageSize none) (c.pageBudget s.cloud))).1,
        (s.serve c (listPages (g.call pageSize none) (c.pageBudget s.cloud))).2) := by
  unfold listInstances
  rw [serve_lookup_bind]
  cases hmanager : s.records.read Manager key with
  | error f =>
    refine .inr (.inl ⟨fun h => ?_, f, .inl rfl, rfl⟩)
    cases h <;> cases hmanager.symm.trans ‹s.records.read Manager key = _›
  | ok found =>
    cases found with
    | none => exact .inl ⟨.noManager hmanager, _, rfl⟩
    | some m =>
      simp only
      cases hurl : m.url? with
      | none => exact .inl ⟨.noUrl hmanager hurl, _, rfl⟩
      | some url =>
        simp only [Option.isNone_some, Bool.false_eq_true, if_false]
        rw [serve_lookup_bind]
        cases hrevision : s.records.read Revision key.parent with
        | error f =>
          refine .inr (.inl ⟨fun h => ?_, f, .inr rfl, rfl⟩)
          cases h with
          | noManager manager => cases hmanager.symm.trans manager
          | noUrl manager url =>
            cases hmanager.symm.trans manager
            cases hurl.symm.trans url
          | noRevision manager revision => cases hrevision.symm.trans revision
          | noProject manager revision project => cases hrevision.symm.trans revision
        | ok found =>
          cases found with
          | none => exact .inl ⟨.noRevision hmanager hrevision, _, rfl⟩
          | some r =>
            simp only
            cases hproject : r.project? with
            | none => exact .inl ⟨.noProject hmanager hrevision hproject, _, rfl⟩
            | some project =>
              refine .inr (.inr ⟨⟨project, key.groupName, key.zone.text⟩,
                ⟨m, r, project, hmanager, by rw [hurl]; rfl, hrevision, hproject, rfl⟩, ?_⟩)
              unfold Session.serve
              rw [run_within]
              rfl

/-- Nothing is listed for want of a record, a URL or a project. -/
theorem serve_listInstances_of_unlisted (c : Cloud σ) (pageSize : UInt32) {s : Session σ}
    {key : ManagerKey} (h : s.records.Unlisted key) :
    (s.serve c (listInstances key pageSize)).1 = .ok [] := by
  rcases serve_listInstances c key pageSize s with
    ⟨-, log, hserve⟩ | ⟨hlisted, -⟩ | ⟨g, hlocates, -⟩
  · rw [hserve]
  · exact (hlisted h).elim
  · exact (h.not_locates g hlocates).elim

end Session

/-- **How a group is listed.** Unless its manager has a record with a URL and the revision of the
manager one with a project, no call is made. Otherwise there is one call for each answer up to the
first that is an error or names no other page: the first without a token, each other with that of
the page before it, and all for the group of the manager. If the last answer is a page, the result
is the URLs of all pages in their order, else the error; and nothing but the calls has happened. -/
theorem listing_follows_tokens (s : Session CloudScript) (key : ManagerKey) (pageSize : UInt32) :
    let result := (s.serve CloudScript.cloud (listInstances key pageSize)).1
    let t := (s.serve CloudScript.cloud (listInstances key pageSize)).2
    ((∀ g, ¬ s.records.Locates key g) ∧ (∃ log, t = { s with log }) ∧
      (result = .ok [] ∨ ∃ f, result = .error f ∧ (s.records.read Manager key = .error f ∨
        s.records.read Revision key.parent = .error f))) ∨
    ∃ g before last, s.records.Locates key g ∧ CloudScript.Pages s.cloud.list before last ∧
      t = { s with
        cloud := { s.cloud with list := s.cloud.list.drop (before.length + 1) }
        calls := s.calls ++ (none :: before.map InstancePage.next?).map fun token =>
          .list (g.call pageSize token) } ∧
      result = inContext (.listing g.name g.zone) (listedPages before last) := by
  simp only
  rcases Session.serve_listInstances CloudScript.cloud key pageSize s with
    ⟨hunlisted, log, hserve⟩ | ⟨-, f, hread, hserve⟩ | ⟨g, hlocates, hserve⟩
  · rw [hserve]
    exact .inl ⟨hunlisted.not_locates, ⟨log, rfl⟩, .inl rfl⟩
  · rw [hserve]
    refine .inl ⟨?_, ⟨s.log, rfl⟩, .inr ⟨f, rfl, hread⟩⟩
    rintro g ⟨m, r, project, hmanager, -, hrevision, -⟩
    rcases hread with hread | hread
    · cases hmanager.symm.trans hread
    · cases hrevision.symm.trans hread
  · have hbudget : s.cloud.list.length < CloudScript.cloud.pageBudget s.cloud := Nat.lt_succ_self _
    obtain ⟨before, last, hpages, hlisted⟩ :=
      Session.serve_listPages (g.call pageSize none) hbudget
    rw [hserve, hlisted]
    exact .inr ⟨g, before, last, hlocates, hpages, rfl, rfl⟩

/-- An empty token names no page, so the answer after it is left in the script. -/
example :
    let answers : List (Except ComputeError InstancePage) :=
      [.ok { items := [{ url := "https://x/a" }], nextPageToken := some "2" },
        .ok { items := [{ url := "https://x/b" }], nextPageToken := some "" },
        .ok { items := [{ url := "https://x/c" }] }]
    let (result, t) := Session.serve CloudScript.cloud (listInstances Sample.managerKey 10)
      { Sample.reporting [] with cloud := { list := answers } }
    result = .ok ["https://x/a", "https://x/b"] ∧ t.cloud.list = answers.drop 2 ∧
      t.calls = [none, some "2"].map fun token =>
        .list (Group.call ⟨"p", Sample.managerKey.groupName, Sample.managerKey.zone.text⟩ 10
          token) := by
  decide +kernel

end FleetReconciler
