import FleetReconciler.Proofs.Rely
import FleetReconciler.Discovery
import Mathlib.Data.List.InsertIdx

/-!
# Services in flight together

A service may let several others take turns and go on when all of them have ended. Each of them
works among others as any service does, its companions included, so the end of each is as it would
be among others, and it stays so until all of them have ended.

* `Terms.Shared` — what a service does is something that others rely on;
* `Meets.since` — a service ends later than it starts;
* `Aim` — a service with what its end meets;
* `gather_meets` — **the results of services in flight are those that each would reach among
  others**, in any order of their turns.
-/

namespace FleetReconciler

variable {σ α : Type} {terms : Terms σ}

/-- What a service does is something that others rely on. -/
def Terms.Shared (terms : Terms σ) : Prop := ∀ {s t}, terms.guarantee s t → terms.rely s t

namespace Service

variable {post : Except Failure α → σ → Prop} {service : Service α} {s₀ s : σ}

/-- The end of a service is later than any moment before its start. -/
theorem Meets.since (shared : terms.Shared) (h₀ : terms.rely s₀ s)
    (h : service.Meets terms post s) :
    service.Meets terms (fun r t => terms.rely s₀ t ∧ post r t) s := by
  induction service generalizing s with
  | done a => exact fun t hst => ⟨terms.trans h₀ hst, h t hst⟩
  | fail f => exact fun t hst => ⟨terms.trans h₀ hst, h t hst⟩
  | ask r next ih =>
    intro t hst
    obtain ⟨hguarantee, hnext⟩ := h t hst
    exact ⟨hguarantee, ih _ (terms.trans (terms.trans h₀ hst) (shared hguarantee)) hnext⟩

/-- A service whose result is taken as a value never fails. -/
theorem Meets.result (h : service.Meets terms post s) :
    service.result.Meets terms (fun r t => ∃ r', r = .ok r' ∧ post r' t) s := by
  induction service generalizing s with
  | done a => exact fun t hst => ⟨_, rfl, h t hst⟩
  | fail f => exact fun t hst => ⟨_, rfl, h t hst⟩
  | ask r next ih => exact fun t hst => ⟨(h t hst).1, ih _ (h t hst).2⟩

end Service

/-! ## Aims -/

/-- A service with what its end meets, which stays so. -/
structure Aim (terms : Terms σ) (α : Type) where
  service : Service α
  post : Except Failure α → σ → Prop
  stable : ∀ {r s t}, terms.rely s t → post r s → post r t

namespace Aim

/-- From a state on the service meets what it aims at. -/
def Meets (a : Aim terms α) (s : σ) : Prop := a.service.Meets terms a.post s

theorem Meets.later {a : Aim terms α} {s t : σ} (h : a.Meets s) (hst : terms.rely s t) :
    a.Meets t := Service.Meets.later h hst

/-- The same aim after some requests of its service. -/
def goOn (a : Aim terms α) (service : Service α) : Aim terms α := { a with service }

end Aim

/-- All results are there: each aim has its result, and each result is that of an aim. -/
def Reached (aims : List (Aim terms α)) (r : Except Failure (List (Except Failure α))) (s : σ) :
    Prop :=
  ∃ results, r = .ok results ∧ (∀ a ∈ aims, ∃ x ∈ results, a.post x s) ∧
    ∀ x ∈ results, ∃ a ∈ aims, a.post x s

theorem Reached.later {aims : List (Aim terms α)} {r : Except Failure (List (Except Failure α))}
    {s t : σ} (h : Reached aims r s) (hst : terms.rely s t) : Reached aims r t := by
  obtain ⟨results, hr, haims, hresults⟩ := h
  refine ⟨results, hr, fun a ha => ?_, fun x hx => ?_⟩
  · obtain ⟨x, hx, hpost⟩ := haims a ha
    exact ⟨x, hx, a.stable hst hpost⟩
  · obtain ⟨a, ha, hpost⟩ := hresults x hx
    exact ⟨a, ha, a.stable hst hpost⟩

/-- What the ends meet is what counts of aims. -/
theorem Reached.of_posts {aims aims' : List (Aim terms α)}
    {r : Except Failure (List (Except Failure α))} {s : σ} (h : Reached aims r s)
    (hposts : ∀ post, (∃ a ∈ aims, a.post = post) ↔ ∃ a ∈ aims', a.post = post) :
    Reached aims' r s := by
  obtain ⟨results, hr, haims, hresults⟩ := h
  refine ⟨results, hr, fun a ha => ?_, fun x hx => ?_⟩
  · obtain ⟨b, hb, hpost⟩ := (hposts a.post).2 ⟨a, ha, rfl⟩
    exact hpost ▸ haims b hb
  · obtain ⟨a, ha, hpost⟩ := hresults x hx
    obtain ⟨b, hb, hab⟩ := (hposts a.post).1 ⟨a, ha, rfl⟩
    exact ⟨b, hb, hab ▸ hpost⟩

namespace Service

/-- One more result: a service that has ended before the others went on. -/
theorem result_first {a : Aim terms α} {aims rest : List (Aim terms α)} {first : Except Failure α}
    {others : Service (List (Except Failure α))} {s : σ} (shared : terms.Shared)
    (h : others.Meets terms (Reached rest) s) (hmem : ∀ b, b ∈ aims ↔ b = a ∨ b ∈ rest)
    (hfirst : a.post first s) :
    (do
      let rs ← others
      return first :: rs).Meets terms (Reached aims) s := by
  refine (h.since shared (terms.refl s)).bind ?_ ?_
  · rintro rs t ⟨hst, results, hr, haims, hresults⟩
    obtain rfl : rs = results := Except.ok.inj hr
    have hall : Reached aims (.ok (first :: rs)) t := by
      refine ⟨first :: rs, rfl, fun b hb => ?_, fun x hx => ?_⟩
      · rcases (hmem b).1 hb with rfl | hb
        · exact ⟨first, List.mem_cons_self, b.stable hst hfirst⟩
        · obtain ⟨x, hx, hpost⟩ := haims b hb
          exact ⟨x, List.mem_cons_of_mem _ hx, hpost⟩
      · rcases List.mem_cons.1 hx with rfl | hx
        · exact ⟨a, (hmem a).2 (.inl rfl), a.stable hst hfirst⟩
        · obtain ⟨b, hb, hpost⟩ := hresults x hx
          exact ⟨b, (hmem b).2 (.inr hb), hpost⟩
    exact fun u htu => hall.later htu
  · rintro f t ⟨-, results, hr, -⟩
    cases hr

theorem eachInOrder_meets (shared : terms.Shared) {aims : List (Aim terms α)} {s : σ}
    (h : ∀ a ∈ aims, a.Meets s) :
    (eachInOrder (aims.map Aim.service)).Meets terms (Reached aims) s := by
  induction aims generalizing s with
  | nil => exact fun t _ => ⟨[], rfl, nofun, nofun⟩
  | cons a rest ih =>
    simp only [List.map_cons, eachInOrder]
    refine ((h a List.mem_cons_self).result.since shared (terms.refl s)).bind ?_ ?_
    · rintro first t ⟨hst, r, hr, hpost⟩
      obtain rfl : first = r := Except.ok.inj hr
      exact result_first shared
        (ih fun b hb => (h b (List.mem_cons_of_mem _ hb)).later hst) (by simp) hpost
    · rintro f t ⟨-, r, hr, -⟩
      cases hr

/-- A list around one of its places. -/
theorem exists_around {ι : Type} {l : List ι} {place : Nat} {x : ι} (hx : l[place]? = some x) :
    ∃ before after, l = before ++ x :: after ∧ l.eraseIdx place = before ++ after ∧
      ∀ y, l.set place y = before ++ y :: after := by
  obtain ⟨hlt, rfl⟩ := List.getElem?_eq_some_iff.1 hx
  exact ⟨l.take place, l.drop (place + 1), by simp, List.eraseIdx_eq_take_drop_succ l place,
    fun y => List.set_eq_take_append_cons_drop.trans (if_pos hlt)⟩

theorem takeTurns_meets (shared : terms.Shared) (limit : Nat) (turns : List Nat)
    {active waiting : List (Aim terms α)} {s : σ} (h : ∀ a ∈ active ++ waiting, a.Meets s) :
    (takeTurns limit turns (active.map Aim.service) (waiting.map Aim.service)).Meets terms
      (Reached (active ++ waiting)) s := by
  induction turns generalizing active waiting s with
  | nil =>
    simp only [takeTurns, ← List.map_append]
    exact eachInOrder_meets shared h
  | cons turn turns ih =>
    -- taking in leaves the services and their order as they are
    obtain ⟨active', waiting', hall, htake⟩ : ∃ active' waiting' : List (Aim terms α),
        active' ++ waiting' = active ++ waiting ∧
        takeIn limit (active.map Aim.service) (waiting.map Aim.service) =
          (active'.map Aim.service, waiting'.map Aim.service) := by
      refine ⟨active ++ waiting.take (limit - active.length),
        waiting.drop (limit - active.length), by simp, ?_⟩
      simp [takeIn, List.map_take, List.map_drop]
    rw [← hall] at h ⊢
    simp only [takeTurns, htake]
    generalize turn % (active'.map Aim.service).length = place
    cases hplace : active'[place]? with
    | none =>
      simp only [List.getElem?_map, hplace, Option.map_none, ← List.map_append]
      exact eachInOrder_meets shared h
    | some a =>
      obtain ⟨before, after, hsplit, herase, hset⟩ := exists_around hplace
      have hmeets : a.Meets s := h a (by simp [hsplit])
      have herased : (takeTurns limit turns ((active'.map Aim.service).eraseIdx place)
          (waiting'.map Aim.service)).Meets terms (Reached (before ++ after ++ waiting')) s := by
        rw [List.eraseIdx_map, herase]
        exact ih fun x hx => h x (by grind)
      simp only [List.getElem?_map, hplace, Option.map_some]
      unfold Aim.Meets at hmeets
      have hmem (b : Aim terms α) :
          b ∈ active' ++ waiting' ↔ b = a ∨ b ∈ before ++ after ++ waiting' := by grind
      cases hservice : a.service with
      | done v =>
        rw [hservice] at hmeets
        exact result_first shared herased hmem (hmeets s (terms.refl s))
      | fail f =>
        rw [hservice] at hmeets
        exact result_first shared herased hmem (hmeets s (terms.refl s))
      | ask r next =>
        rw [hservice] at hmeets
        intro t hst
        obtain ⟨hguarantee, hnext⟩ := hmeets t hst
        have hlater := terms.trans hst (shared hguarantee)
        refine ⟨hguarantee, ?_⟩
        let b := a.goOn (next (terms.perform r t).1)
        have hgo : (takeTurns limit turns
            ((active'.map Aim.service).set place (next (terms.perform r t).1))
            (waiting'.map Aim.service)).Meets terms (Reached (before ++ b :: after ++ waiting'))
              (terms.perform r t).2 := by
          rw [show next (terms.perform r t).1 = b.service from rfl, ← List.map_set, hset]
          refine ih fun x hx => ?_
          by_cases hxb : x = b
          · exact hxb ▸ hnext
          · exact (h x (by grind)).later hlater
        refine hgo.mono fun result u hreached => hreached.of_posts fun post => ?_
        rw [hsplit]
        simp only [List.mem_append, List.mem_cons, or_and_right, exists_or, exists_eq_left]
        exact Iff.rfl

/-- **The results of services in flight are those that each would reach among others.** -/
theorem gather_meets (shared : terms.Shared) (limit : Nat) {aims : List (Aim terms α)} {s : σ}
    (hturns : ∀ t, terms.rely s t → terms.guarantee t (terms.perform .turns t).2)
    (h : ∀ a ∈ aims, a.Meets s) :
    (gather limit (aims.map Aim.service)).Meets terms (Reached aims) s := by
  intro t hst
  have hguarantee := hturns t hst
  have hlater := terms.trans hst (shared hguarantee)
  have hall : ∀ a ∈ [] ++ aims, a.Meets (terms.perform .turns t).2 :=
    fun a ha => (h a ha).later hlater
  exact ⟨hguarantee, takeTurns_meets shared limit _ hall⟩

end Service

end FleetReconciler
