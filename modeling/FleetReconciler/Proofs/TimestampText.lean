import FleetReconciler.Timestamp.Reader
import FleetReconciler.Timestamp.Printer
import Mathlib.Algebra.Group.Nat.Defs

/-!
# The text of a timestamp

A timestamp is written with fields of fixed width, so its reader finds each where it stands, and the
fraction and the leap second come back as they were.

* `valueOf_padded`, `length_padded` — what a padded number denotes and how long it is;
* `number_padded`, `bounded_padded`, `yearNumber_yearText`, `fraction_fractionText` — one field;
* `ofLocal_eq` — the fields of a timestamp give the timestamp;
* `parse_zuluText` — **reading the text of a timestamp gives the timestamp**.
-/

namespace FleetReconciler

@[simp]
theorem ok_bind {ε α β : Type} (a : α) (f : α → Except ε β) : (Except.ok a >>= f) = f a := rfl

namespace Decimal

/-! ## Digits -/

theorem isDigit_digitChar : ∀ d, d < 10 → isDigit (digitChar d) = true := by decide

theorem digitValue_digitChar : ∀ d, d < 10 → digitValue (digitChar d) = d := by decide

theorem isDigit_of_mem_digitsOf (n : Nat) : ∀ c ∈ digitsOf n, isDigit c = true := by
  rw [digitsOf]
  split
  · rename_i h
    simpa using isDigit_digitChar n h
  · intro c hc
    rcases List.mem_append.1 hc with hc | hc
    · exact isDigit_of_mem_digitsOf (n / 10) c hc
    · obtain rfl := List.mem_singleton.1 hc
      exact isDigit_digitChar _ (by omega)
termination_by n
decreasing_by omega

theorem valueOf_append_singleton (ds : List Char) (c : Char) :
    valueOf (ds ++ [c]) = 10 * valueOf ds + digitValue c := by
  simp [valueOf, List.foldl_append]

theorem valueOf_digitsOf (n : Nat) : valueOf (digitsOf n) = n := by
  rw [digitsOf]
  split
  · rename_i h
    simpa [valueOf] using digitValue_digitChar n h
  · rw [valueOf_append_singleton, valueOf_digitsOf (n / 10), digitValue_digitChar _ (by omega)]
    omega
termination_by n
decreasing_by omega

theorem length_digitsOf_pos (n : Nat) : 0 < (digitsOf n).length := by
  rw [digitsOf]
  split
  · simp
  · simp

theorem length_digitsOf_le {n : Nat} : ∀ {width : Nat}, 0 < width → n < 10 ^ width →
    (digitsOf n).length ≤ width
  | width + 1, _, h => by
    rw [digitsOf]
    split
    · simp
    · rename_i hn
      have hwidth : 0 < width := by
        cases width with
        | zero => omega
        | succ w => omega
      have hdiv : n / 10 < 10 ^ width := by
        rw [Nat.pow_succ] at h
        omega
      have := length_digitsOf_le hwidth hdiv
      simp only [List.length_append, List.length_singleton]
      omega

/-! ## Numbers of a fixed width -/

theorem isDigit_of_mem_padded {width n : Nat} : ∀ c ∈ padded width n, isDigit c = true := by
  intro c hc
  rcases List.mem_append.1 hc with hc | hc
  · rw [(List.mem_replicate.1 hc).2]
    decide
  · exact isDigit_of_mem_digitsOf n c hc

theorem valueOf_zeros (count : Nat) (ds : List Char) :
    valueOf (List.replicate count '0' ++ ds) = valueOf ds := by
  induction count with
  | zero => rfl
  | succ count ih =>
    rw [List.replicate_succ, List.cons_append]
    have hzero : valueOf ('0' :: (List.replicate count '0' ++ ds)) =
        valueOf (List.replicate count '0' ++ ds) := rfl
    rw [hzero, ih]

theorem valueOf_padded (width n : Nat) : valueOf (padded width n) = n := by
  unfold padded
  rw [valueOf_zeros, valueOf_digitsOf]

theorem length_padded {width n : Nat} (hwidth : 0 < width) (h : n < 10 ^ width) :
    (padded width n).length = width := by
  have := length_digitsOf_le hwidth h
  simp only [padded, List.length_append, List.length_replicate]
  omega

theorem padded_ne_nil (width n : Nat) : padded width n ≠ [] := by
  have := length_digitsOf_pos n
  intro h
  rw [padded, List.append_eq_nil_iff] at h
  simp [h.2] at this

/-- A digit is not blank. -/
theorem not_blank_of_isDigit {c : Char} (h : isDigit c = true) : Text.isBlank c = false := by
  have hlo : 48 ≤ c.toNat := by
    have : '0' ≤ c := by
      simp only [isDigit, Bool.and_eq_true, decide_eq_true_eq] at h
      exact h.1
    exact this
  have hhi : c.toNat ≤ 57 := by
    have : c ≤ '9' := by
      simp only [isDigit, Bool.and_eq_true, decide_eq_true_eq] at h
      exact h.2
    exact this
  simp only [Text.isBlank, Bool.or_eq_false_iff, Bool.and_eq_false_iff, decide_eq_false_iff_not,
    beq_eq_false_iff_ne]
  omega

theorem dropWhile_blank_padded (width n : Nat) (rest : List Char) :
    (padded width n ++ rest).dropWhile Text.isBlank = padded width n ++ rest := by
  cases hds : padded width n with
  | nil => exact (padded_ne_nil width n hds).elim
  | cons c ds =>
    have hc : isDigit c = true := isDigit_of_mem_padded c (hds ▸ List.mem_cons_self)
    rw [List.cons_append, List.dropWhile_cons_of_neg (by simp [not_blank_of_isDigit hc])]

end Decimal

namespace Timestamp

open Decimal Text

/-! ## Fields -/

theorem takeWhile_isDigit_padded (width n : Nat) {rest : List Char}
    (hrest : ∀ c ∈ rest.head?, isDigit c = false) :
    (padded width n ++ rest).takeWhile isDigit = padded width n := by
  rw [List.takeWhile_append_of_pos isDigit_of_mem_padded]
  cases rest with
  | nil => simp
  | cons c rest => simp [hrest c rfl]

theorem number_padded {width n : Nat} (hwidth : 0 < width) (h : n < 10 ^ width)
    (hmax : n ≤ maxNumber) (rest : List Char) :
    number (some width) (padded width n ++ rest) = .ok (n, rest) := by
  have htake : (padded width n ++ rest).take width = padded width n :=
    List.take_left' (length_padded hwidth h)
  have hds : (padded width n).takeWhile isDigit = padded width n := by
    have happend : (padded width n ++ []).takeWhile isDigit = padded width n :=
      takeWhile_isDigit_padded width n (by simp)
    simpa using happend
  have hne := padded_ne_nil width n
  unfold number
  simp only [htake, hds, valueOf_padded]
  rw [if_neg (by simp [hne]), if_neg (by simpa using hne), if_neg (Nat.not_lt.2 hmax),
    List.drop_left]

/-- A number without a width takes all digits that are there. -/
theorem number_none_padded {width n : Nat} (hmax : n ≤ maxNumber) {rest : List Char}
    (hrest : ∀ c ∈ rest.head?, isDigit c = false) :
    number none (padded width n ++ rest) = .ok (n, rest) := by
  have hne := padded_ne_nil width n
  unfold number
  simp only [takeWhile_isDigit_padded width n hrest, valueOf_padded]
  rw [if_neg (by simp [hne]), if_neg (by simpa using hne), if_neg (Nat.not_lt.2 hmax),
    List.drop_left]

theorem bounded_padded {lo hi n : Nat} (hlo : lo ≤ n) (hhi : n ≤ hi) (hn : n < 100)
    (rest : List Char) : bounded lo hi (padded 2 n ++ rest) = .ok (n, rest) := by
  have hmax : n ≤ maxNumber := Nat.le_trans (Nat.le_of_lt hn) (by decide)
  unfold bounded
  rw [dropWhile_blank_padded, number_padded (by omega) (by omega) hmax]
  show (if lo ≤ n ∧ n ≤ hi then _ else _) = _
  rw [if_pos ⟨hlo, hhi⟩]
  rfl

theorem separator_cons {c : Char} (h : isBlank c = false) (rest : List Char) :
    separator c (c :: rest) = .ok ((), rest) := by
  unfold separator
  rw [List.dropWhile_cons_of_neg (by simp [h])]
  simp

/-- The first character of a padded number is no sign. -/
theorem padded_append_ne_cons {width n : Nat} {c : Char} (hc : isDigit c = false)
    (rest tail : List Char) : padded width n ++ rest ≠ c :: tail := by
  intro h
  cases hds : padded width n with
  | nil => exact padded_ne_nil width n hds
  | cons d ds =>
    rw [hds, List.cons_append] at h
    have hd : isDigit d = true := isDigit_of_mem_padded d (hds ▸ List.mem_cons_self)
    rw [(List.cons.inj h).1, hc] at hd
    cases hd

theorem year_in_range {year : Int} (hlo : firstYear ≤ year) (hhi : year ≤ lastYear)
    (rest : List Char) :
    (let limit : Int := Nat.pow 2 31
      if -limit ≤ year ∧ year < limit then pure (year, rest) else throw .outOfRange :
      Except TimestampError (Int × List Char)) = .ok (year, rest) := by
  have hpow : ((Nat.pow 2 31 : Nat) : Int) = 2147483648 := by decide
  have hlimit : -((Nat.pow 2 31 : Nat) : Int) ≤ year ∧ year < ((Nat.pow 2 31 : Nat) : Int) := by
    rw [hpow]
    unfold firstYear at hlo
    unfold lastYear at hhi
    omega
  exact if_pos hlimit

theorem yearNumber_yearText {year : Int} (hlo : firstYear ≤ year) (hhi : year ≤ lastYear)
    (rest : List Char) : yearNumber (yearText year ++ '-' :: rest) = .ok (year, '-' :: rest) := by
  have hmax : year.natAbs ≤ maxNumber := by
    have hle : year.natAbs ≤ 262143 := by
      unfold firstYear at hlo
      unfold lastYear at hhi
      omega
    exact Nat.le_trans hle (by decide)
  have hdash : ∀ c ∈ ('-' :: rest).head?, isDigit c = false := by
    intro c hc
    obtain rfl : '-' = c := by simpa using hc
    decide
  unfold yearText
  -- a step is not taken by evaluation below, or the limit of the year would be counted down
  by_cases hyear : 0 ≤ year ∧ year ≤ 9999
  · rw [if_pos hyear]
    have hn : year.toNat ≤ maxNumber := by omega
    have hcast : (year.toNat : Int) = year := by omega
    unfold yearNumber
    rw [dropWhile_blank_padded]
    split
    · rename_i hcs
      exact (padded_append_ne_cons (by decide) _ _ hcs).elim
    · rename_i hcs
      exact (padded_append_ne_cons (by decide) _ _ hcs).elim
    · rw [number_padded (by omega) (by omega) hn]
      simp -implicitDefEqProofs only [ok_bind, pure_bind, hcast]
      exact year_in_range hlo hhi _
  · rw [if_neg hyear]
    have hminus : isBlank '-' = false := by decide
    have hplus : isBlank '+' = false := by decide
    unfold yearNumber
    by_cases hneg : year < 0
    · have hcast : -(year.natAbs : Int) = year := by omega
      rw [if_pos hneg, List.cons_append, List.dropWhile_cons_of_neg (by simp [hminus])]
      simp -implicitDefEqProofs only [number_none_padded hmax hdash, ok_bind, pure_bind, hcast]
      exact year_in_range hlo hhi _
    · have hcast : (year.natAbs : Int) = year := by omega
      rw [if_neg hneg, List.cons_append, List.dropWhile_cons_of_neg (by simp [hplus])]
      simp -implicitDefEqProofs only [number_none_padded hmax hdash, ok_bind, pure_bind, hcast]
      exact year_in_range hlo hhi _

/-- The digits of a fraction count from the point. -/
theorem fraction_padded {width n : Nat} (hwidth : 0 < width) (hwidth' : width ≤ 9)
    (hn : n < 10 ^ width) :
    fraction ('.' :: (padded width n ++ ['Z'])) = .ok (n * 10 ^ (9 - width), ['Z']) := by
  have hmax : n ≤ maxNumber := by
    have hpow : 10 ^ width ≤ 10 ^ 9 := Nat.pow_le_pow_right (by omega) hwidth'
    exact Nat.le_trans (Nat.le_of_lt (Nat.lt_of_lt_of_le hn hpow)) (by decide)
  have hlength := length_padded hwidth hn
  have hzulu : isDigit 'Z' = false := by decide
  have htake : ((padded width n ++ ['Z']).take 9).takeWhile isDigit = padded width n := by
    rw [List.take_append, List.take_of_length_le (by omega)]
    refine takeWhile_isDigit_padded width n fun c hc => ?_
    have hmem : c ∈ ['Z'] := List.mem_of_mem_take (List.mem_of_mem_head? hc)
    rwa [List.mem_singleton.1 hmem]
  have hnumber : number (some 9) (padded width n ++ ['Z']) = .ok (n, ['Z']) := by
    have hne := padded_ne_nil width n
    unfold number
    simp only [htake, valueOf_padded]
    rw [if_neg (by simp), if_neg (by simpa using hne), if_neg (Nat.not_lt.2 hmax), List.drop_left]
  unfold fraction
  simp only [hnumber, ok_bind, List.length_append, List.length_singleton, hlength,
    Nat.add_sub_cancel]
  rfl

theorem fraction_fractionText {nano : Nat} (h : nano < nanosPerSecond) :
    fraction (fractionText nano ++ ['Z']) = .ok (nano, ['Z']) := by
  unfold nanosPerSecond at h
  unfold fractionText
  split
  · rename_i hzero
    subst hzero
    rfl
  · split
    · rw [List.cons_append, fraction_padded (by omega) (by omega) (by omega)]
      have : nano / 1000000 * 10 ^ (9 - 3) = nano := by omega
      rw [this]
    · split
      · rw [List.cons_append, fraction_padded (by omega) (by omega) (by omega)]
        have : nano / 1000 * 10 ^ (9 - 6) = nano := by omega
        rw [this]
      · rw [List.cons_append, fraction_padded (by omega) (by omega) (by omega)]
        simp

/-! ## The whole text -/

theorem ofParts?_self (t : Timestamp) : ofParts? t.date t.second t.nano = some t := by
  unfold ofParts?
  rw [dif_pos t.isTime]

theorem shift?_zero (t : Timestamp) : t.shift? (-0) = some t := by
  have hsecond := t.isTime.1
  have hmoved : (t.second : Int) + (-0) = t.second := by omega
  unfold shift?
  simp only [hmoved]
  rw [if_neg (by omega), if_pos (by omega), Int.toNat_natCast, ofParts?_self]

/-- The fields of a timestamp give the timestamp; the leap second comes back from second 60. -/
theorem ofLocal_eq (t : Timestamp) :
    ofLocal t.date.year t.date.month t.date.day (t.second / 3600) (t.second / 60 % 60)
      (t.second % 60 + if nanosPerSecond ≤ t.nano then 1 else 0)
      (if nanosPerSecond ≤ t.nano then t.nano - nanosPerSecond else t.nano) 0 = .ok t := by
  obtain ⟨hsecond, hnano, hleap⟩ := t.isTime
  have hdate : Date.ofParts? t.date.year t.date.month t.date.day = some t.date := by
    unfold Date.ofParts?
    rw [dif_pos t.date.isDate]
  have htotal : t.second / 3600 * 3600 + t.second / 60 % 60 * 60 + t.second % 60 = t.second := by
    omega
  have hzero : ¬ (0 : Int).natAbs ≥ secondsPerDay := by decide
  have hclock : (if (t.second % 60 + if nanosPerSecond ≤ t.nano then 1 else 0) = 60 then
      (59, (if nanosPerSecond ≤ t.nano then t.nano - nanosPerSecond else t.nano) + nanosPerSecond)
      else (t.second % 60 + (if nanosPerSecond ≤ t.nano then 1 else 0),
        if nanosPerSecond ≤ t.nano then t.nano - nanosPerSecond else t.nano)) =
      (t.second % 60, t.nano) := by
    by_cases hn : nanosPerSecond ≤ t.nano
    · have hlast := hleap hn
      simp only [if_pos hn]
      rw [if_pos (by omega), Nat.sub_add_cancel hn, hlast]
    · simp only [if_neg hn]
      rw [if_neg (by omega), Nat.add_zero]
  unfold ofLocal
  simp only [hdate, hclock, htotal, ofParts?_self, shift?_zero, if_neg hzero, pure, Except.pure]

/-- **Reading the text of a timestamp gives the timestamp.** -/
theorem parse_zuluText (t : Timestamp) : parse t.zuluText = .ok t := by
  obtain ⟨hsecond, hnano, hleap⟩ := t.isTime
  obtain ⟨hfirst, hlast, hmonth, hmonth', hday, hday'⟩ := t.date.isDate
  unfold secondsPerDay at hsecond
  have hdays : daysInMonth t.date.year t.date.month ≤ 31 := by
    unfold daysInMonth
    split
    · split <;> omega
    all_goals omega
  have hsixty : (t.second % 60 + if nanosPerSecond ≤ t.nano then 1 else 0) ≤ 60 := by
    split <;> omega
  have hfraction : (if nanosPerSecond ≤ t.nano then t.nano - nanosPerSecond else t.nano) <
      nanosPerSecond := by
    split <;> omega
  have hdash : isBlank '-' = false := by decide
  have hcolon : isBlank ':' = false := by decide
  have hzone : zone ['Z'] = .ok (0, []) := rfl
  unfold parse zuluText localText
  simp only [String.toList_ofList, List.append_assoc, List.cons_append]
  rw [yearNumber_yearText hfirst hlast]
  simp only [ok_bind, separator_cons hdash]
  rw [bounded_padded hmonth hmonth' (by omega)]
  simp only [ok_bind, separator_cons hdash]
  rw [bounded_padded hday (by omega) (by omega)]
  simp only [ok_bind, dateEnd, true_or, if_true]
  rw [bounded_padded (by omega) (by omega) (by omega)]
  simp only [ok_bind, separator_cons hcolon]
  rw [bounded_padded (by omega) (by omega) (by omega)]
  simp only [ok_bind, separator_cons hcolon]
  rw [bounded_padded (Nat.zero_le _) hsixty (by omega)]
  simp only [ok_bind]
  rw [fraction_fractionText hfraction]
  simp only [ok_bind, hzone]
  exact ofLocal_eq t

end Timestamp

end FleetReconciler
