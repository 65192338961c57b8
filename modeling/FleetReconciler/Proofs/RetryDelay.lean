import Mathlib.Algebra.Group.Nat.Defs
import FleetReconciler.Proofs.Rounds
import FleetReconciler.Proofs.DrainBound

/-!
# The wait before a redelivery

The wait doubles with every attempt up to a minute. It is computed in words: the exponent is cut off
at sixteen and the product saturates. Neither shows, since a retry delay of one millisecond has
passed a minute after sixteen doublings, and so has every product that does not fit into a word.

* `doublings`, `doublingFactor` — how often the retry delay is doubled, and the factor that this is;
* `toNat_saturatingMul`, `ExactFactor.of_lt` — the two computations in words as numbers;
* `min_mul_pow_cut` — the cut exponent does not show below the longest wait;
* `DispatcherSettings.toNat_delayBefore` — **the wait in numbers**;
* `Ledger.Accounts.allows_started` — every attempt of a run is one of those that are allowed;
* `retry_delays_exact` — the wait, its growth, and that nothing wraps around in any run.
-/

namespace FleetReconciler

/-! ## The factor -/

/-- How often the retry delay is doubled before an attempt. -/
def doublings (attempt : UInt32) : UInt32 := min (attempt - 2) 16

/-- The factor of the retry delay before an attempt. -/
def doublingFactor (attempt : UInt32) : UInt64 := 1 <<< (doublings attempt).toUInt64

/-- The factor before an attempt is computed without a wrap: the difference does not fall below
zero, the shift is shorter than a word, and the factor is the power that it stands for. -/
structure ExactFactor (attempt : UInt32) : Prop where
  difference : (attempt - 2).toNat + 2 = attempt.toNat
  shift : (doublings attempt).toNat < 64
  factor : (doublingFactor attempt).toNat = 2 ^ min (attempt.toNat - 2) 16

theorem toNat_doublings {attempt : UInt32} (h : 1 < attempt.toNat) :
    (doublings attempt).toNat = min (attempt.toNat - 2) 16 := by
  have htwo : (2 : UInt32) ≤ attempt := UInt32.le_iff_toNat_le.2 h
  have hsub : (attempt - 2).toNat = attempt.toNat - 2 := UInt32.toNat_sub_of_le _ _ htwo
  unfold doublings
  show (if attempt - 2 ≤ 16 then attempt - 2 else 16).toNat = _
  split
  · rename_i hle
    have hle : (attempt - 2).toNat ≤ 16 := UInt32.le_iff_toNat_le.1 hle
    omega
  · rename_i hlt
    have hlt : ¬ (attempt - 2).toNat ≤ 16 := fun hle => hlt (UInt32.le_iff_toNat_le.2 hle)
    have hcut : (16 : UInt32).toNat = 16 := rfl
    omega

/-- After the first attempt nothing wraps around. -/
theorem ExactFactor.of_lt {attempt : UInt32} (h : 1 < attempt.toNat) : ExactFactor attempt := by
  have htwo : (2 : UInt32) ≤ attempt := UInt32.le_iff_toNat_le.2 h
  have hsub : (attempt - 2).toNat = attempt.toNat - 2 := UInt32.toNat_sub_of_le _ _ htwo
  have hdoublings := toNat_doublings h
  refine ⟨by omega, by omega, ?_⟩
  have hpow : 2 ^ min (attempt.toNat - 2) 16 < 2 ^ 64 := Nat.pow_lt_pow_right (by decide) (by omega)
  have hshift : min (attempt.toNat - 2) 16 % 64 = min (attempt.toNat - 2) 16 :=
    Nat.mod_eq_of_lt (by omega)
  rw [doublingFactor, UInt64.toNat_shiftLeft, UInt32.toNat_toUInt64, hdoublings, hshift,
    Nat.shiftLeft_eq, UInt64.toNat_one, Nat.one_mul, Nat.mod_eq_of_lt hpow]

/-! ## The wait -/

/-- A product saturates: it is the product, or the largest number of a word. -/
theorem toNat_saturatingMul (a b : UInt64) :
    (saturatingMul a b).toNat = min (a.toNat * b.toNat) (2 ^ 64 - 1) := by
  unfold saturatingMul
  split
  · rename_i h
    have hfits : a.toNat * b.toNat < 2 ^ 64 := h
    rw [UInt64.toNat_mul, Nat.mod_eq_of_lt hfits]
    omega
  · rename_i h
    have hlarge : 2 ^ 64 ≤ a.toNat * b.toNat := Nat.le_of_not_lt h
    have hlargest : (0xFFFFFFFFFFFFFFFF : UInt64).toNat = 2 ^ 64 - 1 := rfl
    rw [hlargest]
    omega

/-- **The cut of the exponent does not show**: zero stays zero, and everything else has passed the
longest wait after sixteen doublings. -/
theorem min_mul_pow_cut (delay exponent : Nat) :
    min (delay * 2 ^ min exponent 16) 60000 = min (delay * 2 ^ exponent) 60000 := by
  by_cases hcut : exponent ≤ 16
  · rw [Nat.min_eq_left hcut]
  · have hlonger : 2 ^ 16 ≤ 2 ^ exponent := Nat.pow_le_pow_right (by decide) (by omega)
    rw [Nat.min_eq_right (by omega : 16 ≤ exponent)]
    cases delay with
    | zero => rw [Nat.zero_mul, Nat.zero_mul]
    | succ delay =>
      have hone : 2 ^ 16 ≤ (delay + 1) * 2 ^ 16 := Nat.le_mul_of_pos_left _ (Nat.succ_pos delay)
      have hmore : (delay + 1) * 2 ^ 16 ≤ (delay + 1) * 2 ^ exponent :=
        Nat.mul_le_mul_left _ hlonger
      omega

namespace DispatcherSettings

variable (s : DispatcherSettings)

theorem delayBefore_eq (attempt : UInt32) :
    s.delayBefore attempt =
      if attempt ≤ 1 then 0
      else min (saturatingMul s.retryDelay (doublingFactor attempt)) maxRetryDelay := rfl

/-- **The wait before an attempt, in milliseconds**: none before the first, then the retry delay,
doubled for every further attempt, and a minute at most. -/
theorem toNat_delayBefore (attempt : UInt32) :
    (s.delayBefore attempt).toNat =
      if attempt.toNat ≤ 1 then 0
      else min (s.retryDelay.toNat * 2 ^ (attempt.toNat - 2)) 60000 := by
  rw [delayBefore_eq]
  by_cases hfirst : attempt ≤ 1
  · have hone : attempt.toNat ≤ 1 := UInt32.le_iff_toNat_le.1 hfirst
    rw [if_pos hfirst, if_pos hone]
    rfl
  · have hlater : ¬ attempt.toNat ≤ 1 := fun h => hfirst (UInt32.le_iff_toNat_le.2 h)
    rw [if_neg hfirst, if_neg hlater]
    have hexact := ExactFactor.of_lt (Nat.lt_of_not_le hlater)
    have hproduct := toNat_saturatingMul s.retryDelay (doublingFactor attempt)
    rw [hexact.factor] at hproduct
    have hlongest : maxRetryDelay.toNat = 60000 := rfl
    rw [← min_mul_pow_cut]
    -- where the product saturates, it is far beyond the longest wait
    show (if saturatingMul s.retryDelay (doublingFactor attempt) ≤ maxRetryDelay then
      saturatingMul s.retryDelay (doublingFactor attempt) else maxRetryDelay).toNat = _
    split
    · rename_i hle
      have hle := UInt64.le_iff_toNat_le.1 hle
      omega
    · rename_i hlt
      have hlt := mt UInt64.le_iff_toNat_le.2 hlt
      omega

-- a product that saturates, and an exponent that is cut off
example : DispatcherSettings.delayBefore { retryDelay := 0xFFFFFFFFFFFFFFFF } 3 = 60000 ∧
    DispatcherSettings.delayBefore { retryDelay := 1 } 0xFFFFFFFF = 60000 := by decide

/-- A later attempt does not wait for a shorter time. -/
theorem delayBefore_mono {a b : UInt32} (h : a ≤ b) : s.delayBefore a ≤ s.delayBefore b := by
  have hle : a.toNat ≤ b.toNat := UInt32.le_iff_toNat_le.1 h
  rw [UInt64.le_iff_toNat_le, toNat_delayBefore, toNat_delayBefore]
  by_cases hfirst : a.toNat ≤ 1
  · rw [if_pos hfirst]
    exact Nat.zero_le _
  · have hpow : 2 ^ (a.toNat - 2) ≤ 2 ^ (b.toNat - 2) :=
      Nat.pow_le_pow_right (by decide) (by omega)
    have hproduct := Nat.mul_le_mul_left s.retryDelay.toNat hpow
    rw [if_neg hfirst, if_neg (by omega)]
    omega

end DispatcherSettings

/-! ## The attempts of a run -/

variable {σ : Type} {s : DispatcherSettings}

/-- A delivery that is delivered again was not the last that is allowed. -/
theorem lt_of_verdict {x : Delivery} {failure : Option Failure} {f : Failure}
    (h : x.verdict s failure = .redelivery f) : x.attempt < s.maxAttempts := by
  cases failure with
  | none => cases h
  | some f' =>
    rcases failed_cases s x f' with ⟨-, hdrop, -⟩ | ⟨hlt, -, -⟩
    · rw [hdrop] at h
      cases h
    · exact hlt

/-- A delivery of a task that has so many runs behind it at most is one that is allowed. -/
theorem allows_of_mem_attempts {ticket : Nat} {task : Task} {outcomes : List (Option Failure)}
    (hmost : outcomes.length ≤ s.mostRuns) {x : Delivery × Option Failure}
    (hx : x ∈ attempts ticket task outcomes) : s.Allows x.1 := by
  obtain ⟨n, outcome, hn, rfl⟩ := mem_attempts.1 hx
  obtain ⟨hlt, -⟩ := List.getElem?_eq_some_iff.1 hn
  have hsmall : n + 1 < 2 ^ 32 := by
    have hmax := s.maxAttempts.toNat_lt
    unfold DispatcherSettings.mostRuns at hmost
    omega
  have hattempt : (UInt32.ofNat (n + 1)).toNat = n + 1 := UInt32.toNat_ofNat_of_lt' hsmall
  exact ⟨by show 1 ≤ (UInt32.ofNat (n + 1)).toNat; omega,
    by show (UInt32.ofNat (n + 1)).toNat ≤ s.mostRuns; omega⟩

namespace Ledger.Accounts

variable {l : Ledger} {d : Dispatcher σ} {report : Report}

/-- **Every delivery that was started is one of those that the settings allow.** -/
theorem allows_started (h : l.Accounts s d report) {x : Delivery} (hx : x ∈ d.started) :
    s.Allows x := by
  obtain ⟨task, htask⟩ := h.exists_task (h.started x hx)
  obtain ⟨outcomes, hlife⟩ := h.lives x.ticket task htask
  have hmem : x ∈ d.started.filter (·.ticket = x.ticket) :=
    List.mem_filter.2 ⟨hx, decide_eq_true rfl⟩
  rw [hlife.started] at hmem
  obtain ⟨y, hy, rfl⟩ := List.mem_map.1 hmem
  exact allows_of_mem_attempts hlife.most hy

end Ledger.Accounts

/-- **Retry delays are what they are meant to be.** The wait before an attempt is zero for the first
and then the retry delay times the power of two, capped at a minute, as if it were computed in
unbounded numbers; it never gets shorter. In every run of a dispatcher, whatever the handlers do and
whatever arrives, each delivery that is taken is one that the settings allow, its wait is computed
without a wrap, and the attempt of a redelivery is the next number. -/
theorem retry_delays_exact :
    (∀ (s : DispatcherSettings) (attempt : UInt32), (s.delayBefore attempt).toNat =
      if attempt.toNat ≤ 1 then 0
      else min (s.retryDelay.toNat * 2 ^ (attempt.toNat - 2)) 60000) ∧
    (∀ (s : DispatcherSettings) (a b : UInt32), a ≤ b → s.delayBefore a ≤ s.delayBefore b) ∧
    ∀ {σ : Type} (settings : DispatcherSettings) (now : Nat) (arrivals : List (Arrival σ))
      (state : σ) (calls : List (DispatcherCall σ)),
      let start := (({ settings, now, arrivals, state } : Dispatcher σ), ({} : Ledger))
      let p := calls.foldl DispatcherCall.perform start
      (∀ x ∈ p.1.marks.filterMap Mark.taken?,
        (1 ≤ x.attempt.toNat ∧ x.attempt.toNat ≤ max 1 settings.maxAttempts.toNat) ∧
        (¬ x.attempt ≤ 1 → ExactFactor x.attempt)) ∧
      ∀ x ∈ p.2.results, ∀ f, x.1.verdict settings x.2 = .redelivery f →
        x.1.next.attempt.toNat = x.1.attempt.toNat + 1 ∧
          x.1.attempt.toNat + 1 ≤ settings.maxAttempts.toNat := by
  refine ⟨DispatcherSettings.toNat_delayBefore, fun s a b => s.delayBefore_mono,
    fun settings now arrivals state calls => ?_⟩
  intro start p
  have hfresh : start.2.Accounts settings start.1 {} := .fresh settings now arrivals state
  have haccounts : p.2.Accounts settings p.1 {} := DispatcherCall.accounts_foldl hfresh calls
  obtain ⟨htaken, hstarted, -⟩ :=
    ((Chronicle.fresh settings now arrivals state).foldl (p := start) calls hfresh).carried
  refine ⟨fun x hx => ⟨?_, fun hlater => ?_⟩, fun x hx f hverdict => ?_⟩
  · have hran : x ∈ p.1.started := by
      rw [htaken, ← hstarted.mem_iff] at hx
      exact hx
    exact haccounts.allows_started hran
  · have hmore : ¬ x.attempt.toNat ≤ 1 := fun h => hlater (UInt32.le_iff_toNat_le.2 h)
    exact .of_lt (Nat.lt_of_not_le hmore)
  · have hbelow := lt_of_verdict hverdict
    exact ⟨DispatcherSettings.toNat_attempt_next hbelow, UInt32.lt_iff_toNat_lt.1 hbelow⟩

end FleetReconciler
