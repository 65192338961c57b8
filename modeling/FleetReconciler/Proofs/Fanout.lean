import FleetReconciler.Proofs.Gather
import FleetReconciler.Proofs.Traces

/-!
# Services in flight together

Services that take turns are in flight at the same time, at most so many of them, and which of them
does its next request is said turn by turn. Their course is what happens, in order, at their places:
an exchange, or the end of a service.

* `FlightStep` — one step of a course;
* `Scheduled` — a course keeps to the turns, to the limit and to the order of the waiting services;
* `Carried` — the course at one place is a service from its first exchange to its end, once;
* `takeTurns_yields` — **services that take turns have a course**: their exchanges are those of the
  course, and the results come in its order of completion;
* `Fanout.of_yields` — the same for all services of a list, each at its place.
-/

namespace FleetReconciler

open Service

variable {α : Type}

/-! ## Courses -/

/-- A step of services in flight: the service at a place has an exchange, or it ends. -/
inductive FlightStep (α : Type) where
  | served (place : Nat) (e : Exchange)
  | ended (place : Nat) (r : Except Failure α)

namespace FlightStep

def place : FlightStep α → Nat
  | served p _ | ended p _ => p

def exchange? : FlightStep α → Option Exchange
  | served _ e => some e
  | ended .. => none

def result? : FlightStep α → Option (Except Failure α)
  | served .. => none
  | ended _ r => some r

end FlightStep

/-- The services at some places go on one after the other. -/
def InOrder : List Nat → List (FlightStep α) → Prop
  | [], course => course = []
  | place :: places, course => ∃ (es : List Exchange) (r : Except Failure α)
      (rest : List (FlightStep α)),
      course = es.map (.served place) ++ .ended place r :: rest ∧ InOrder places rest

/-- A course of the services at some places, those in flight and those that wait. Each turn names
one of those in flight, which are joined by waiting ones while there is room; where a service ends
it gives way. When all turns are taken, the services go on one after the other. -/
def Scheduled (limit : Nat) : List Nat → List Nat → List Nat → List (FlightStep α) → Prop
  | [], flight, waiting, course => InOrder (flight ++ waiting) course
  | turn :: turns, flight, waiting, course =>
    let joined := flight ++ waiting.take (limit - flight.length)
    let waiting := waiting.drop (limit - flight.length)
    let index := turn % joined.length
    match joined[index]? with
    | none => InOrder (joined ++ waiting) course
    | some place => ∃ step rest, course = step :: rest ∧ step.place = place ∧
        Scheduled limit turns (if step.result?.isSome then joined.eraseIdx index else joined)
          waiting rest

namespace Scheduled

variable {limit turn : Nat} {turns flight waiting joined left : List Nat}
  {course rest : List (FlightStep α)}

/-- Where there is nothing to do, all turns are idle. -/
theorem nil (limit : Nat) (turns : List Nat) :
    Scheduled limit turns [] [] ([] : List (FlightStep α)) := by
  have hnone : InOrder [] ([] : List (FlightStep α)) := by rw [InOrder]
  cases turns with
  | nil =>
    rw [Scheduled]
    exact hnone
  | cons turn turns =>
    rw [Scheduled]
    simp only [List.take_nil, List.drop_nil, List.append_nil, List.getElem?_nil]
    exact hnone

/-- Where the turn finds nothing in flight. -/
theorem idle (hjoined : flight ++ waiting.take (limit - flight.length) = joined)
    (hleft : waiting.drop (limit - flight.length) = left)
    (hturn : joined[turn % joined.length]? = none) (h : InOrder (joined ++ left) course) :
    Scheduled limit (turn :: turns) flight waiting course := by
  rw [Scheduled]
  simp only [hjoined, hleft, hturn]
  exact h

theorem step {step : FlightStep α}
    (hjoined : flight ++ waiting.take (limit - flight.length) = joined)
    (hleft : waiting.drop (limit - flight.length) = left)
    (hturn : joined[turn % joined.length]? = some step.place)
    (h : Scheduled limit turns
      (if step.result?.isSome then joined.eraseIdx (turn % joined.length) else joined) left rest) :
    Scheduled limit (turn :: turns) flight waiting (step :: rest) := by
  rw [Scheduled]
  simp only [hjoined, hleft, hturn]
  exact ⟨step, rest, rfl, rfl, h⟩

end Scheduled

/-- The course at a place is that of a service, from its first exchange to its end. -/
def Carried (course : List (FlightStep α)) (place : Nat) (service : Service α) (es : List Exchange)
    (r : Except Failure α) : Prop :=
  service.Yields es r ∧
    course.filter (·.place = place) = es.map (.served place) ++ [.ended place r]

namespace Carried

variable {course : List (FlightStep α)} {place : Nat} {service : Service α} {es : List Exchange}
  {r : Except Failure α}

theorem exchanges_eq (h : Carried course place service es r) :
    (course.filter (·.place = place)).filterMap FlightStep.exchange? = es := by
  rw [h.2, List.filterMap_append, List.filterMap_map]
  have hserved : FlightStep.exchange? ∘ FlightStep.served (α := α) place = some := rfl
  rw [hserved, List.filterMap_some]
  exact List.append_nil es

/-- The exchanges of a place are some of those of the course. -/
theorem sublist (h : Carried course place service es r) :
    es.Sublist (course.filterMap FlightStep.exchange?) := by
  rw [← h.exchanges_eq]
  exact List.filter_sublist.filterMap _

theorem mem_iff (h : Carried course place service es r) {e : Exchange} :
    .served place e ∈ course ↔ e ∈ es := by
  have hmem : .served place e ∈ course ↔
      FlightStep.served (α := α) place e ∈ course.filter (·.place = place) := by
    simp [List.mem_filter, FlightStep.place]
  rw [hmem, h.2]
  simp

theorem ended_mem_iff (h : Carried course place service es r) {r' : Except Failure α} :
    .ended place r' ∈ course ↔ r' = r := by
  have hmem : .ended place r' ∈ course ↔
      FlightStep.ended (α := α) place r' ∈ course.filter (·.place = place) := by
    simp [List.mem_filter, FlightStep.place]
  rw [hmem, h.2]
  simp

end Carried

/-! ## Labelled services -/

/-- A course carries services, each at the place of its label, and nothing else. -/
structure Carries (labelled : List (Nat × Service α)) (course : List (FlightStep α)) : Prop where
  places : ∀ step ∈ course, step.place ∈ labelled.map Prod.fst
  each : ∀ p ∈ labelled, ∃ es r, Carried course p.1 p.2 es r

namespace Carries

variable {labelled others : List (Nat × Service α)} {course : List (FlightStep α)} {place : Nat}

theorem nil : Carries ([] : List (Nat × Service α)) [] :=
  ⟨List.forall_mem_nil _, List.forall_mem_nil _⟩

theorem perm (h : Carries labelled course) (hperm : labelled.Perm others) :
    Carries others course where
  places step hstep := (hperm.map _).mem_iff.1 (h.places step hstep)
  each p hp := h.each p (hperm.mem_iff.2 hp)

/-- The steps at one place are none of another place. -/
theorem filter_cons_of_ne (step : FlightStep α) {p : Nat} (h : step.place ≠ p) :
    (step :: course).filter (·.place = p) = course.filter (·.place = p) :=
  List.filter_cons_of_neg (by simpa using h)

theorem ne_label (hlabel : place ∉ others.map Prod.fst) {p : Nat × Service α} (hp : p ∈ others) :
    place ≠ p.1 := by
  rintro rfl
  exact hlabel (List.mem_map_of_mem hp)

/-- A service that has had an exchange. -/
theorem served {r : Request} {next : r.Reply → Service α} {records : MemoryStore} {reply : r.Reply}
    (hlabel : place ∉ others.map Prod.fst) (h : Carries ((place, next reply) :: others) course) :
    Carries ((place, ask r next) :: others) (.served place ⟨records, r, reply⟩ :: course) where
  places := by
    intro step hstep
    rcases List.mem_cons.1 hstep with rfl | hstep
    · exact List.mem_cons_self
    · exact h.places step hstep
  each := by
    intro p hp
    rcases List.mem_cons.1 hp with rfl | hp
    · obtain ⟨es, result, hy, hcourse⟩ := h.each _ List.mem_cons_self
      refine ⟨⟨records, r, reply⟩ :: es, result, .ask hy, ?_⟩
      rw [List.filter_cons_of_pos (by simp [FlightStep.place]), hcourse]
      rfl
    · obtain ⟨es, result, hy, hcourse⟩ := h.each p (List.mem_cons_of_mem _ hp)
      exact ⟨es, result, hy, (filter_cons_of_ne (.served ..) (ne_label hlabel hp)).trans hcourse⟩

/-- A service that has ended. -/
theorem ended {service : Service α} {r : Except Failure α} (hy : service.Yields [] r)
    (hlabel : place ∉ others.map Prod.fst) (h : Carries others course) :
    Carries ((place, service) :: others) (.ended place r :: course) where
  places := by
    intro step hstep
    rcases List.mem_cons.1 hstep with rfl | hstep
    · exact List.mem_cons_self
    · exact List.mem_cons_of_mem _ (h.places step hstep)
  each := by
    intro p hp
    rcases List.mem_cons.1 hp with rfl | hp
    · have hnone : course.filter (·.place = place) = [] := by
        refine List.filter_eq_nil_iff.2 fun step hstep => ?_
        simp only [decide_eq_true_eq]
        rintro rfl
        exact hlabel (h.places step hstep)
      refine ⟨[], r, hy, ?_⟩
      rw [List.filter_cons_of_pos (by simp [FlightStep.place]), hnone]
      rfl
    · obtain ⟨es, result, hy', hcourse⟩ := h.each p hp
      exact ⟨es, result, hy', (filter_cons_of_ne (.ended ..) (ne_label hlabel hp)).trans hcourse⟩

/-- A service that has gone on to its end. -/
theorem whole {service : Service α} {es : List Exchange} {r : Except Failure α}
    (hy : service.Yields es r) (hlabel : place ∉ others.map Prod.fst) (h : Carries others course) :
    Carries ((place, service) :: others) (es.map (.served place) ++ .ended place r :: course) := by
  induction hy with
  | done a => exact h.ended (.done a) hlabel
  | fail f => exact h.ended (.fail f) hlabel
  | ask rest ih => exact ih.served hlabel

end Carries

/-! ## Taking turns -/

/-- Labelled services have ended with the exchanges and the results of a course that is as
scheduled. -/
def Flown (scheduled : List (FlightStep α) → Prop) (labelled : List (Nat × Service α))
    (es : List Exchange) (result : Except Failure (List (Except Failure α))) : Prop :=
  ∃ course : List (FlightStep α), result = .ok (course.filterMap FlightStep.result?) ∧
    es = course.filterMap FlightStep.exchange? ∧ scheduled course ∧ Carries labelled course

namespace Flown

variable {rest scheduled : List (FlightStep α) → Prop}
  {labelled before after left : List (Nat × Service α)} {place : Nat} {es : List Exchange}
  {result : Except Failure (List (Except Failure α))}

theorem mono (h : Flown rest labelled es result)
    (hmono : ∀ course, rest course → scheduled course) :
    Flown scheduled labelled es result := by
  obtain ⟨course, hresult, hes, hrest, hcarries⟩ := h
  exact ⟨course, hresult, hes, hmono course hrest, hcarries⟩

/-- One of the services stands before all others. -/
theorem perm_first (x : Nat × Service α) (before after left : List (Nat × Service α)) :
    (before ++ x :: after ++ left).Perm (x :: (before ++ after ++ left)) :=
  List.perm_middle.append_right left

/-- One of the services has ended. -/
theorem ended {service : Service α} {r : Except Failure α} (hy : service.Yields [] r)
    (hlabel : place ∉ (before ++ after ++ left).map Prod.fst)
    (hscheduled : ∀ course, rest course → scheduled (.ended place r :: course))
    (h : Flown rest (before ++ after ++ left) es result) :
    Flown scheduled (before ++ (place, service) :: after ++ left) es (result.map (r :: ·)) := by
  obtain ⟨course, rfl, rfl, hrest, hcarries⟩ := h
  exact ⟨.ended place r :: course, rfl, rfl, hscheduled course hrest,
    (hcarries.ended hy hlabel).perm (perm_first ..).symm⟩

/-- One of the services has had an exchange. -/
theorem served {r : Request} {next : r.Reply → Service α} {records : MemoryStore} {reply : r.Reply}
    (hlabel : place ∉ (before ++ after ++ left).map Prod.fst)
    (hscheduled : ∀ course, rest course → scheduled (.served place ⟨records, r, reply⟩ :: course))
    (h : Flown rest (before ++ (place, next reply) :: after ++ left) es result) :
    Flown scheduled (before ++ (place, ask r next) :: after ++ left) (⟨records, r, reply⟩ :: es)
      result := by
  obtain ⟨course, hresult, rfl, hrest, hcarries⟩ := h
  exact ⟨.served place ⟨records, r, reply⟩ :: course, hresult, rfl, hscheduled course hrest,
    ((hcarries.perm (perm_first ..)).served hlabel).perm (perm_first ..).symm⟩

end Flown

variable {limit : Nat} {es : List Exchange} {result : Except Failure (List (Except Failure α))}

theorem eachInOrder_yields {labelled : List (Nat × Service α)}
    (hlabels : (labelled.map Prod.fst).Nodup)
    (h : (eachInOrder (labelled.map Prod.snd)).Yields es result) :
    Flown (InOrder (labelled.map Prod.fst)) labelled es result := by
  induction labelled generalizing es result with
  | nil =>
    cases h
    refine ⟨[], rfl, rfl, ?_, .nil⟩
    rw [List.map_nil, InOrder]
  | cons p labelled ih =>
    obtain ⟨place, service⟩ := p
    obtain ⟨hlabel, hlabels⟩ := List.nodup_cons.1 hlabels
    rcases Yields.of_bind h with ⟨first, more, r, rfl, hfirst, hmore⟩ | ⟨f, hfirst, -⟩
    · obtain ⟨r', hservice, hr⟩ := Yields.of_result hfirst
      obtain rfl : r = r' := Except.ok.inj hr
      obtain ⟨others, hothers, rfl⟩ := Yields.of_map hmore
      obtain ⟨course, rfl, rfl, horder, hcarries⟩ := ih hlabels hothers
      refine ⟨first.map (.served place) ++ .ended place r :: course, ?_, ?_,
        ⟨first, r, course, rfl, horder⟩, hcarries.whole hservice hlabel⟩
      · have hnone : FlightStep.result? ∘ FlightStep.served (α := α) place = fun _ => none := rfl
        simp [List.filterMap_map, hnone, FlightStep.result?, Except.map]
      · have hsome : FlightStep.exchange? ∘ FlightStep.served (α := α) place = some := rfl
        rw [List.filterMap_append, List.filterMap_map, hsome, List.filterMap_some]
        rfl
    · obtain ⟨r', -, hr⟩ := Yields.of_result hfirst
      cases hr

/-- Services are taken in with their labels. -/
theorem exists_joined (limit : Nat) (active waiting : List (Nat × Service α)) :
    ∃ joined left : List (Nat × Service α), joined ++ left = active ++ waiting ∧
      takeIn limit (active.map Prod.snd) (waiting.map Prod.snd) =
        (joined.map Prod.snd, left.map Prod.snd) ∧
      active.map Prod.fst ++ (waiting.map Prod.fst).take (limit - (active.map Prod.fst).length) =
        joined.map Prod.fst ∧
      (waiting.map Prod.fst).drop (limit - (active.map Prod.fst).length) = left.map Prod.fst := by
  refine ⟨active ++ waiting.take (limit - active.length), waiting.drop (limit - active.length),
    by simp, ?_, ?_, ?_⟩ <;> simp [takeIn, List.map_take, List.map_drop]

/-- **Services that take turns have a course.** -/
theorem takeTurns_yields {turns : List Nat} {active waiting : List (Nat × Service α)}
    (hlabels : ((active ++ waiting).map Prod.fst).Nodup)
    (h : (takeTurns limit turns (active.map Prod.snd) (waiting.map Prod.snd)).Yields es result) :
    Flown (Scheduled limit turns (active.map Prod.fst) (waiting.map Prod.fst)) (active ++ waiting)
      es result := by
  induction turns generalizing active waiting es result with
  | nil =>
    rw [takeTurns, ← List.map_append] at h
    refine (eachInOrder_yields hlabels h).mono fun course horder => ?_
    rwa [Scheduled, ← List.map_append]
  | cons turn turns ih =>
    obtain ⟨joined, left, hall, htake, hjoined, hleft⟩ := exists_joined limit active waiting
    rw [← hall] at hlabels ⊢
    rw [takeTurns, htake] at h
    simp only [List.length_map, List.getElem?_map] at h
    have hturn : (joined.map Prod.fst)[turn % (joined.map Prod.fst).length]? =
        joined[turn % joined.length]?.map Prod.fst := by
      rw [List.length_map, List.getElem?_map]
    cases hplace : joined[turn % joined.length]? with
    | none =>
      rw [hplace] at h hturn
      simp only [Option.map_none, ← List.map_append] at h
      refine (eachInOrder_yields hlabels h).mono fun course horder => .idle hjoined hleft hturn ?_
      rwa [← List.map_append]
    | some p =>
      obtain ⟨place, service⟩ := p
      rw [hplace] at h hturn
      obtain ⟨before, after, rfl, herase, hset⟩ := exists_around hplace
      obtain ⟨hlabel, hothers⟩ := List.nodup_cons.1
        (((Flown.perm_first (place, service) before after left).map Prod.fst).nodup_iff.1 hlabels)
      -- a service that ends gives way to the others
      have hended {r : Except Failure α} (hservice : service.Yields [] r)
          (hy : (takeTurns limit turns
            (((before ++ (place, service) :: after).map Prod.snd).eraseIdx
              (turn % (before ++ (place, service) :: after).length)) (left.map Prod.snd) >>=
                fun rs => pure (r :: rs)).Yields es result) :
          Flown (Scheduled limit (turn :: turns) (active.map Prod.fst) (waiting.map Prod.fst))
            (before ++ (place, service) :: after ++ left) es result := by
        obtain ⟨others, hrest, rfl⟩ := Yields.of_map hy
        rw [List.eraseIdx_map, herase] at hrest
        refine (ih hothers hrest).ended hservice hlabel fun course hcourse =>
          .step hjoined hleft hturn ?_
        rw [← herase, ← List.eraseIdx_map] at hcourse
        rw [List.length_map]
        exact hcourse
      cases service with
      | done a => exact hended (.done a) h
      | fail f => exact hended (.fail f) h
      | ask r next =>
        simp only [Option.map_some] at h
        cases h with
        | @ask _ _ records reply es _ hrest =>
          let x : Nat × Service α := (place, next reply)
          have hmap : ((before ++ (place, ask r next) :: after).map Prod.snd).set
              (turn % (before ++ (place, ask r next) :: after).length) (next reply) =
                (before ++ x :: after).map Prod.snd := by
            rw [← hset x, List.map_set]
          beta_reduce at hrest
          rw [hmap] at hrest
          have hlabels' : ((before ++ x :: after ++ left).map Prod.fst).Nodup :=
            ((Flown.perm_first x before after left).map Prod.fst).nodup_iff.2
              (List.nodup_cons.2 ⟨hlabel, hothers⟩)
          refine (ih hlabels' hrest).served hlabel fun course hcourse =>
            .step hjoined hleft hturn ?_
          have hsame : (before ++ x :: after).map Prod.fst =
              (before ++ (place, ask r next) :: after).map Prod.fst := by
            rw [List.map_append, List.map_append]
            rfl
          rw [hsame] at hcourse
          exact hcourse

/-- The course of all services of a list, each at its place. -/
structure Fanout (limit : Nat) (order : List Nat) (services : List (Service α))
    (course : List (FlightStep α)) : Prop where
  scheduled : Scheduled limit order [] (List.range services.length) course
  places : ∀ step ∈ course, step.place < services.length
  each : ∀ place service, services[place]? = some service →
    ∃ es r, Carried course place service es r

/-- **Services in flight together have a course**, and the results are those of the course in its
order of completion. -/
theorem Fanout.of_yields {order : List Nat} {services : List (Service α)}
    (h : (takeTurns limit order [] services).Yields es result) :
    ∃ course, Fanout limit order services course ∧
      es = course.filterMap FlightStep.exchange? ∧
      result = .ok (course.filterMap FlightStep.result?) := by
  let labelled := (List.range services.length).zip services
  have hplaces : labelled.map Prod.fst = List.range services.length :=
    List.map_fst_zip (Nat.le_of_eq List.length_range)
  have hservices : labelled.map Prod.snd = services :=
    List.map_snd_zip (Nat.le_of_eq List.length_range.symm)
  have hlabels : (([] ++ labelled).map Prod.fst).Nodup := by
    rw [List.nil_append, hplaces]
    exact List.nodup_range
  have hlabelled : (takeTurns limit order (([] : List (Nat × Service α)).map Prod.snd)
      (labelled.map Prod.snd)).Yields es result := by
    rw [hservices]
    exact h
  obtain ⟨course, hresult, hes, hscheduled, hcarries⟩ := takeTurns_yields hlabels hlabelled
  refine ⟨course, ⟨hplaces ▸ hscheduled, ?_, ?_⟩, hes, hresult⟩
  · intro step hstep
    have hmem := hcarries.places step hstep
    rw [List.nil_append, hplaces] at hmem
    exact List.mem_range.1 hmem
  · intro place service hplace
    refine hcarries.each (place, service) (List.mem_of_getElem? (i := place) ?_)
    rw [List.nil_append, List.getElem?_zip_eq_some]
    exact ⟨List.getElem?_range (List.getElem?_eq_some_iff.1 hplace).1, hplace⟩

end FleetReconciler
