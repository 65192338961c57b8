import FleetReconciler.Proofs.Crowd

/-!
# Services under interference

What a service does among others is shown by reading its tree once. `Service.Meets` says that from
a given state on, whatever others do within what the service may rely on, every one of its requests
is served as it guarantees and its end meets a postcondition. A crowd in which each service
guarantees what the others rely on keeps these statements over every run.

* `Terms` — how requests are served, what a service relies on and what it guarantees;
* `Service.Meets` with its rules `Meets.later`, `Meets.mono`, `Meets.bind` and one rule a request;
* `Crowd.run_meets` — **every run of a crowd keeps what its services meet**;
* `Crowd.run_keeps` — an assertion that the owner's turns establish and the turns of others keep
  holds all along.
-/

namespace FleetReconciler

/-- The terms on which a service works: how its requests are served, what others do between two of
them, and what it does itself. -/
structure Terms (σ : Type) where
  perform : (r : Request) → σ → r.Reply × σ
  rely : σ → σ → Prop
  guarantee : σ → σ → Prop
  refl : ∀ s, rely s s
  trans : ∀ {s t u}, rely s t → rely t u → rely s u

namespace Service

variable {σ α β : Type}

/-- From a state on, whatever others do, the service keeps its guarantee with every request and its
end meets the postcondition, then and later. -/
def Meets (terms : Terms σ) (post : Except Failure α → σ → Prop) : Service α → σ → Prop
  | done a, s => ∀ t, terms.rely s t → post (.ok a) t
  | fail f, s => ∀ t, terms.rely s t → post (.error f) t
  | ask r next, s => ∀ t, terms.rely s t →
    terms.guarantee t (terms.perform r t).2 ∧
      Meets terms post (next (terms.perform r t).1) (terms.perform r t).2

namespace Meets

variable {terms : Terms σ} {post : Except Failure α → σ → Prop} {service : Service α} {s t : σ}

/-- What holds at one moment holds at every later one. -/
theorem later (h : service.Meets terms post s) (hst : terms.rely s t) :
    service.Meets terms post t := by
  cases service with
  | done a => exact fun u htu => h u (terms.trans hst htu)
  | fail f => exact fun u htu => h u (terms.trans hst htu)
  | ask r next => exact fun u htu => h u (terms.trans hst htu)

/-- A weaker postcondition is met too. -/
theorem mono {post' : Except Failure α → σ → Prop} (h : service.Meets terms post s)
    (himp : ∀ r t, post r t → post' r t) : service.Meets terms post' s := by
  induction service generalizing s with
  | done a => exact fun t hst => himp _ _ (h t hst)
  | fail f => exact fun t hst => himp _ _ (h t hst)
  | ask r next ih => exact fun t hst => ⟨(h t hst).1, ih _ (h t hst).2⟩

/-- One service after another: the second starts where the first has ended. -/
theorem bind {k : α → Service β} {post' : Except Failure β → σ → Prop}
    (h : service.Meets terms post s)
    (hok : ∀ a t, post (.ok a) t → (k a).Meets terms post' t)
    (herror : ∀ f t, post (.error f) t → post' (.error f) t) :
    (service >>= k).Meets terms post' s := by
  induction service generalizing s with
  | done a => exact hok a s (h s (terms.refl s))
  | fail f => exact fun t hst => herror f t (h t hst)
  | ask r next ih => exact fun t hst => ⟨(h t hst).1, ih _ (h t hst).2⟩

/-- An activity around a service only changes the failure that it reports. -/
theorem within {context : Context} {post' : Except Failure α → σ → Prop}
    (h : service.Meets terms post s) (hok : ∀ a t, post (.ok a) t → post' (.ok a) t)
    (herror : ∀ f t, post (.error f) t → post' (.error (f.within context)) t) :
    (service.within context).Meets terms post' s := by
  induction service generalizing s with
  | done a => exact fun t hst => hok a t (h t hst)
  | fail f => exact fun t hst => herror f t (h t hst)
  | ask r next ih => exact fun t hst => ⟨(h t hst).1, ih _ (h t hst).2⟩

/-- Where nothing is asked of it, a service meets it. -/
theorem trivial (hguarantee : ∀ s t, terms.guarantee s t) (hpost : ∀ r t, post r t)
    (service : Service α) (s : σ) : service.Meets terms post s := by
  induction service generalizing s with
  | done a => exact fun t _ => hpost _ t
  | fail f => exact fun t _ => hpost _ t
  | ask r next ih => exact fun t _ => ⟨hguarantee _ _, ih _ _⟩

end Meets

/-! ### Equations that bring the next request to the front -/

@[simp]
theorem pure_eq_done (a : α) : (pure a : Service α) = done a := rfl

theorem request_bind (r : Request) (k : r.Reply → Service β) :
    (request r >>= k) = ask r k := rfl

@[simp]
theorem lift_ok_bind (a : α) (k : α → Service β) : (lift (.ok a) >>= k) = k a := rfl

@[simp]
theorem lift_error_bind (f : Failure) (k : α → Service β) :
    (lift (.error f) >>= k) = fail f := rfl

end Service

/-! ## Crowds -/

namespace Crowd

variable {κ α : Type}

/-- What each place of a crowd relies on and guarantees. -/
structure Accord (κ : Type) where
  rely : Nat → World κ → World κ → Prop
  guarantee : Nat → World κ → World κ → Prop
  refl : ∀ place w, rely place w w
  trans : ∀ {place w w' w''}, rely place w w' → rely place w' w'' → rely place w w''

/-- The terms of a place in a crowd. -/
def Accord.terms (a : Accord κ) (c : Cloud κ) (place : Nat) : Terms (World κ) where
  perform := World.serve c place
  rely := a.rely place
  guarantee := a.guarantee place
  refl := a.refl place
  trans := a.trans

/-- A turn that is not its own leaves to a place what the place relies on. -/
structure Accord.Admits (a : Accord κ) (c : Cloud κ) : Prop where
  serve : ∀ {place other} (r : Request) (w : World κ), place ≠ other →
    a.guarantee place w (w.serve c place r).2 → a.rely other w (w.serve c place r).2
  put : ∀ place r w, a.rely place w (w.put r)
  clock : ∀ place t w, a.rely place w (w.setClock t)

/-- Every service of a crowd meets its postcondition. -/
def AllMeet (a : Accord κ) (c : Cloud κ) (post : Nat → Except Failure α → World κ → Prop)
    (s : Crowd κ α) : Prop :=
  ∀ (place : Nat) (service : Service α), s.services[place]? = some service →
    service.Meets (a.terms c place) (post place) s.world

variable {a : Accord κ} {c : Cloud κ} {post : Nat → Except Failure α → World κ → Prop}

/-- Before the first turn, if the first services do so and any other service does. -/
theorem start_meets {ι : Type} {session : Session κ} {store : MemoryStore} {items : List ι}
    {service : ι → Service α} (others : List (Service α))
    (hitems : ∀ place x, items[place]? = some x →
      (service x).Meets (a.terms c place) (post place) (.ofStore session store))
    (hothers : ∀ place (s : Service α), items[place]? = none →
      s.Meets (a.terms c place) (post place) (.ofStore session store)) :
    (start session store (items.map service ++ others)).AllMeet a c post := by
  intro place s hs
  cases hx : items[place]? with
  | none => exact hothers place s hx
  | some x =>
    have hlt : place < items.length := (List.getElem?_eq_some_iff.1 hx).1
    simp only [start] at hs
    rw [List.getElem?_append_left (by simpa using hlt), List.getElem?_map, hx] at hs
    obtain rfl : service x = s := by simpa using hs
    exact hitems place x hx

theorem turn_meets (admits : a.Admits c) (t : Turn) {s : Crowd κ α} (h : s.AllMeet a c post) :
    (s.turn c t).AllMeet a c post := by
  cases t with
  | put r => exact fun place service hs => (h place service hs).later (admits.put place r s.world)
  | clock t =>
    exact fun place service hs => (h place service hs).later (admits.clock place t s.world)
  | serve place =>
    unfold turn
    simp only
    split
    · rename_i r next hplace
      obtain ⟨hguarantee, hnext⟩ := h place _ hplace s.world (a.refl place _)
      intro other service hother
      by_cases ho : place = other
      · subst ho
        simp only [List.getElem?_set_self (List.getElem?_eq_some_iff.1 hplace).1,
          Option.some.injEq] at hother
        exact hother ▸ hnext
      · rw [List.getElem?_set_ne ho] at hother
        exact (h other service hother).later (admits.serve r s.world ho hguarantee)
    · exact h

/-- **Every run of a crowd keeps what its services meet.** -/
theorem run_meets (admits : a.Admits c) (turns : List Turn) {s : Crowd κ α}
    (h : s.AllMeet a c post) : (s.run c turns).AllMeet a c post := by
  induction turns generalizing s with
  | nil => exact h
  | cons t turns ih => exact ih (turn_meets admits t h)

/-- An assertion about one place holds over every run if the turns of the place establish it and
all other turns keep it. -/
theorem run_keeps (admits : a.Admits c) {place : Nat} (keep : World κ → Prop)
    (own : ∀ w w', a.guarantee place w w' → keep w')
    (others : ∀ w w', a.rely place w w' → keep w → keep w') (turns : List Turn) {s : Crowd κ α}
    (h : s.AllMeet a c post) (hkeep : keep s.world) : keep (s.run c turns).world := by
  induction turns generalizing s with
  | nil => exact hkeep
  | cons t turns ih =>
    refine ih (turn_meets admits t h) ?_
    cases t with
    | put r => exact others _ _ (admits.put place r s.world) hkeep
    | clock t => exact others _ _ (admits.clock place t s.world) hkeep
    | serve p =>
      unfold turn
      simp only
      split
      · rename_i r next hp
        have hguarantee := (h p _ hp s.world (a.refl p _)).1
        by_cases hpp : p = place
        · subst hpp
          exact own _ _ hguarantee
        · exact others _ _ (admits.serve r s.world hpp hguarantee) hkeep
      · exact hkeep

/-! ## Crowds that rely on growth only -/

/-- Each place relies on what the turns of others always do, and asserts something of its deeds. -/
def Accord.keeping (keep : Nat → List Exchange → Prop) : Accord κ where
  rely := World.Others
  guarantee place _ w := keep place (w.deeds place)
  refl := World.Others.refl
  trans := World.Others.trans

theorem Accord.keeping_admits (keep : Nat → List Exchange → Prop) (c : Cloud κ) :
    (Accord.keeping keep).Admits c where
  serve r w h _ := World.others_serve c h r w
  put := World.others_put
  clock := World.others_setClock

/-- The assertion about the deeds of a place holds over every run. -/
theorem keeping_run {keep : Nat → List Exchange → Prop} (turns : List Turn) {s : Crowd κ α}
    (h : s.AllMeet (.keeping keep) c post) {place : Nat}
    (hkeep : keep place (s.world.deeds place)) :
    keep place ((s.run c turns).world.deeds place) :=
  run_keeps (Accord.keeping_admits keep c) (fun w => keep place (w.deeds place))
    (fun _ _ h => h) (fun _ _ h hk => h.deeds ▸ hk) turns h hkeep

end Crowd

/-! ## Requests of a place -/

namespace Service

variable {κ α : Type} {c : Cloud κ} {place : Nat} {keep : Nat → List Exchange → Prop}
  {post : Except Failure α → World κ → Prop} {w : World κ}

/-- What a place of a crowd that relies on growth meets. -/
abbrev MeetsAt (c : Cloud κ) (place : Nat) (keep : Nat → List Exchange → Prop)
    (post : Except Failure α → World κ → Prop) (service : Service α) (w : World κ) : Prop :=
  service.Meets ((Crowd.Accord.keeping keep).terms c place) post w

/-- A request that is no deed changes nothing that the service asserts. -/
theorem MeetsAt.ask_quiet {r : Request} {next : r.Reply → Service α}
    (quiet : ∀ w : World κ, (w.session.exchange c r).isDeed = false)
    (hkeep : keep place (w.deeds place))
    (h : ∀ w', World.Others place w w' →
      (next (w'.serve c place r).1).MeetsAt c place keep post w') :
    (ask r next).MeetsAt c place keep post w := by
  intro w' hw
  have hserve := World.others_serve_quiet c place r w' (quiet w')
  refine ⟨?_, (h w' hw).later hserve⟩
  show keep place ((w'.serve c place r).2.deeds place)
  rw [hserve.deeds, hw.deeds]
  exact hkeep

/-- A service none of whose requests is a deed. -/
def Quiet : Service α → Prop
  | done _ | fail _ => True
  | ask r next => (∀ records reply, (Exchange.mk records r reply).isDeed = false) ∧
    ∀ reply, (next reply).Quiet

theorem Quiet.bind {β : Type} {service : Service α} {k : α → Service β} (h : service.Quiet)
    (hk : ∀ a, (k a).Quiet) : (service >>= k).Quiet := by
  induction service with
  | done a => exact hk a
  | fail f => trivial
  | ask r next ih => exact ⟨h.1, fun reply => ih reply (h.2 reply)⟩

/-- A deed is asserted when it is done. -/
theorem MeetsAt.ask_deed {r : Request} {next : r.Reply → Service α}
    (h : ∀ w', World.Others place w w' →
      keep place ((w'.serve c place r).2.deeds place) ∧
        (next (w'.serve c place r).1).MeetsAt c place keep post (w'.serve c place r).2) :
    (ask r next).MeetsAt c place keep post w := h

end Service

end FleetReconciler
