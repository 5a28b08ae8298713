/-
  DidLedger/Proofs/Decimal/Finite.lean
  ====================================
  **Which decimal numerals stand for a finite number.**

  A numeral becomes a number in two roundings, so it can overshoot the largest
  number although its own value does not.  It does not overshoot if its power of
  ten is small, or if its value is at most the last number but one (`bound`).
  Both are shown by comparison: the rule keeps the order of numerals, and for
  each power of ten the largest numeral below the bound is looked at.

  The shortest decimal of a number rounds to the number, so it is at most the
  bound for every number but the last.
-/
import DidLedger.Json.Number
import DidLedger.Proofs.Decimal.Rounding
import Mathlib.Algebra.Order.Field.Power
import Mathlib.Tactic.Positivity

namespace DidLedger.Decimal

open DidLedger.Json (wordLimit)

namespace Binary64

/-! ### Products and quotients -/

def last : Fin rankLimit := ⟨rankLimit - 1, by decide⟩

def nextToLast : Fin rankLimit := ⟨rankLimit - 2, by decide⟩

/-- The magnitude of the last rank but one. -/
def bound : Nat := Nat.pow 2 1024 - Nat.pow 2 972

def one : Fin rankLimit := ⟨1023 * Nat.pow 2 52, by decide⟩

theorem landmarks :
    nearest 1 1 = some one ∧ numerator one = denominator ∧ nearest bound 1 = some nextToLast ∧
      nearest (numerator last) denominator = some last ∧
      (nearest (Nat.pow 10 maxPower) 1).isSome = true ∧ bound < Nat.pow 10 309 := by
  decide +kernel

theorem nearest_one : nearest 1 1 = some one := landmarks.1

theorem numerator_one : numerator one = denominator := landmarks.2.1

theorem nearest_bound : nearest bound 1 = some nextToLast := landmarks.2.2.1

theorem nearest_last : nearest (numerator last) denominator = some last := landmarks.2.2.2.1

theorem isSome_nearest_maxPower : (nearest (Nat.pow 10 maxPower) 1).isSome = true :=
  landmarks.2.2.2.2.1

theorem bound_lt : bound < Nat.pow 10 309 := landmarks.2.2.2.2.2

theorem mulRank_mono {a b a' b' r' : Fin rankLimit} (ha : a ≤ a') (hb : b ≤ b')
    (h : mulRank a' b' = some r') : ∃ r, mulRank a b = some r ∧ r ≤ r' := by
  have hd : 0 < denominator * denominator := Nat.mul_pos denominator_pos denominator_pos
  apply nearest_mono hd hd _ h
  exact Nat.mul_le_mul_right _ (Nat.mul_le_mul (numerator_mono ha) (numerator_mono hb))

theorem exists_divRank {b : Fin rankLimit} (hb : one ≤ b) (a : Fin rankLimit) :
    ∃ r, divRank a b = some r := by
  have hdenominator : denominator ≤ numerator b := numerator_one ▸ numerator_mono hb
  have hpos : 0 < numerator b := Nat.lt_of_lt_of_le denominator_pos hdenominator
  have hlast : numerator a ≤ numerator last := numerator_mono (Nat.le_sub_one_of_lt a.isLt)
  obtain ⟨r, hr, -⟩ := nearest_mono hpos denominator_pos
    (Nat.mul_le_mul hlast hdenominator) nearest_last
  exact ⟨r, hr⟩

/-! ### Powers of ten -/

theorem ten_pow_pos (k : Nat) : 0 < Nat.pow 10 k := Nat.pow_pos (by decide)

theorem ten_pow_mono {j k : Nat} (h : j ≤ k) : Nat.pow 10 j ≤ Nat.pow 10 k :=
  Nat.pow_le_pow_right (by decide) h

theorem exists_nearest_of_le {n m : Nat} (hpos : 0 < n) (hle : n ≤ m)
    (hm : (nearest m 1).isSome = true) : ∃ p, nearest n 1 = some p ∧ one ≤ p := by
  obtain ⟨top, htop⟩ := Option.isSome_iff_exists.1 hm
  obtain ⟨p, hp, -⟩ := nearest_mono Nat.one_pos Nat.one_pos (Nat.mul_le_mul_right 1 hle) htop
  obtain ⟨q, hq, hqp⟩ := nearest_mono Nat.one_pos Nat.one_pos (Nat.mul_le_mul_right 1 hpos) hp
  rw [nearest_one, Option.some.injEq] at hq
  exact ⟨p, hp, hq ▸ hqp⟩

theorem exists_nearest_tenPower {k : Nat} (hk : k ≤ maxPower) :
    ∃ p, nearest (Nat.pow 10 k) 1 = some p ∧ one ≤ p :=
  exists_nearest_of_le (ten_pow_pos k) (ten_pow_mono hk) isSome_nearest_maxPower

/-- **Division by a power of ten gives a finite number.** -/
theorem exists_divPower (rank : Fin rankLimit) (k : Nat) : ∃ r, divPower rank k = some r := by
  induction k using Nat.strongRecOn generalizing rank with
  | ind k ih =>
    by_cases hzero : rank.val = 0
    · exact ⟨rank, by rw [divPower, if_pos hzero]⟩
    · by_cases hk : k ≤ maxPower
      · obtain ⟨p, hp, hone⟩ := exists_nearest_tenPower hk
        obtain ⟨r, hr⟩ := exists_divRank hone rank
        refine ⟨r, ?_⟩
        rw [divPower, if_neg hzero, dif_pos hk, hp, Option.bind_eq_bind, Option.bind_some, hr]
      · obtain ⟨p, hp, hone⟩ := exists_nearest_tenPower (Nat.le_refl maxPower)
        obtain ⟨r, hr⟩ := exists_divRank hone rank
        have hless : k - maxPower < k := by
          simp only [maxPower] at *
          omega
        obtain ⟨r', hr'⟩ := ih (k - maxPower) hless r
        refine ⟨r', ?_⟩
        rw [divPower, if_neg hzero, dif_neg hk, hp, Option.bind_eq_bind, Option.bind_some, hr]
        exact hr'

/-- Whether the numeral `n · 10 ^ k` is finite. -/
def fits (n k : Nat) : Bool :=
  ((nearest n 1).bind fun a => (nearest (Nat.pow 10 k) 1).bind (mulRank a)).isSome

/-- What is not larger than a finite numeral, in digits and power, is finite. -/
theorem exists_mulPower {n k n' k' : Nat} (hn : n ≤ n') (hk : k ≤ k') (hk' : k' ≤ maxPower)
    (h : fits n' k' = true) : ∃ a r, nearest n 1 = some a ∧ mulPower a k = some r := by
  obtain ⟨r', hr'⟩ := Option.isSome_iff_exists.1 h
  obtain ⟨a', ha', hr'⟩ := Option.bind_eq_some_iff.1 hr'
  obtain ⟨p', hp', hr'⟩ := Option.bind_eq_some_iff.1 hr'
  obtain ⟨a, ha, hle⟩ := nearest_mono Nat.one_pos Nat.one_pos (Nat.mul_le_mul_right 1 hn) ha'
  obtain ⟨p, hp, hple⟩ :=
    nearest_mono Nat.one_pos Nat.one_pos (Nat.mul_le_mul_right 1 (ten_pow_mono hk)) hp'
  obtain ⟨r, hr, -⟩ := mulRank_mono hle hple hr'
  refine ⟨a, ?_⟩
  by_cases hzero : a.val = 0
  · exact ⟨a, ha, by rw [mulPower, if_pos hzero]⟩
  · refine ⟨r, ha, ?_⟩
    rw [mulPower, if_neg hzero, if_pos (hk.trans hk'), hp, Option.bind_eq_bind, Option.bind_some,
      hr]

theorem mulPower_zero {a : Fin rankLimit} (h : nearest 0 1 = some a) (k : Nat) :
    mulPower a k = some a := by
  rw [nearest_eq_some_iff, rounded_zero] at h
  rw [mulPower, if_pos h.symm]

/-- The powers of ten at which a numeral of one word may be too large are those from
    the 289th on. -/
theorem fits_largest :
    fits (wordLimit - 1) 288 = true ∧
      (List.range 20).all (fun i => fits (bound / Nat.pow 10 (289 + i)) (289 + i)) = true := by
  decide +kernel

theorem fits_bound {k : Nat} (hlow : 288 < k) (hhigh : k ≤ maxPower) :
    fits (bound / Nat.pow 10 k) k = true := by
  have hk : 289 + (k - 289) = k := by omega
  have hmem : k - 289 ∈ List.range 20 := by
    simp only [maxPower] at hhigh
    rw [List.mem_range]
    omega
  have hone := List.all_eq_true.1 fits_largest.2 _ hmem
  rwa [hk] at hone

/-- **A numeral is finite** if its digits fit a word and its power of ten is small, or
    if its value is at most the bound. -/
theorem exists_ofParts (negative : Bool) {n : Nat} {e : Int} (hn : n < wordLimit)
    (h : e ≤ 288 ∨ (n : ℚ) * 10 ^ e ≤ bound) : ∃ x, ofParts negative n e = some x := by
  obtain ⟨a, -, ha, -⟩ := exists_mulPower (Nat.le_sub_one_of_lt hn) (Nat.zero_le 288)
    (by decide) fits_largest.1
  cases e with
  | negSucc k =>
    obtain ⟨r, hr⟩ := exists_divPower a (k + 1)
    refine ⟨⟨negative, r⟩, ?_⟩
    simp only [ofParts, ha, hr, Option.bind_eq_bind, Option.bind_some, Option.pure_def]
  | ofNat k =>
    have hmul : ∃ r, mulPower a k = some r := by
      by_cases hsmall : k ≤ 288
      · obtain ⟨a', r, ha', hr⟩ := exists_mulPower (Nat.le_sub_one_of_lt hn) hsmall
          (by decide) fits_largest.1
        rw [ha, Option.some.injEq] at ha'
        exact ⟨r, ha' ▸ hr⟩
      · have hvalue : n * Nat.pow 10 k ≤ bound := by
          rcases h with h | h
          · exact absurd (Int.ofNat_le.1 h) hsmall
          · rw [Int.ofNat_eq_natCast, zpow_natCast] at h
            exact_mod_cast h
        have hdigits : n ≤ bound / Nat.pow 10 k := by
          rw [Nat.le_div_iff_mul_le (ten_pow_pos k)]
          exact hvalue
        by_cases hlarge : k ≤ maxPower
        · obtain ⟨a', r, ha', hr⟩ := exists_mulPower hdigits (Nat.le_refl k) hlarge
            (fits_bound (Nat.not_le.1 hsmall) hlarge)
          rw [ha, Option.some.injEq] at ha'
          exact ⟨r, ha' ▸ hr⟩
        · -- beyond the last power of ten only zero is below the bound
          have hbeyond : bound < Nat.pow 10 k := by
            apply Nat.lt_of_lt_of_le bound_lt
            apply ten_pow_mono
            simp only [maxPower] at hlarge
            omega
          rw [Nat.div_eq_of_lt hbeyond, Nat.le_zero] at hdigits
          subst hdigits
          exact ⟨a, mulPower_zero ha k⟩
    obtain ⟨r, hr⟩ := hmul
    refine ⟨⟨negative, r⟩, ?_⟩
    simp only [ofParts, ha, hr, Option.bind_eq_bind, Option.bind_some, Option.pure_def]

end Binary64

/-! ### Shortest decimals -/

namespace Scientific

open Binary64

/-- The number that a decimal stands for. -/
def value (s : Scientific) : ℚ := s.digits * 10 ^ s.exponent

theorem value_strip (fuel : Nat) (s : Scientific) : (strip fuel s).value = s.value := by
  induction fuel generalizing s with
  | zero => rfl
  | succ fuel ih =>
    rw [strip]
    split
    · rename_i hzero
      have hdigits : s.digits = s.digits / 10 * 10 := by omega
      have hcast : (s.digits : ℚ) = (s.digits / 10 : Nat) * 10 := by exact_mod_cast hdigits
      rw [ih]
      calc ((s.digits / 10 : Nat) : ℚ) * 10 ^ (s.exponent + 1)
          = (s.digits / 10 : Nat) * 10 * 10 ^ s.exponent := by
            rw [zpow_add_one₀ (by norm_num), mul_assoc, mul_comm (10 : ℚ)]
        _ = s.digits * 10 ^ s.exponent := by rw [← hcast]
    · rfl

theorem digits_strip {s : Scientific} (h : s.digits ≠ 0) (fuel : Nat) :
    (strip fuel s).digits ≠ 0 := by
  induction fuel generalizing s with
  | zero => exact h
  | succ fuel ih =>
    rw [strip]
    split
    · rename_i hzero
      have hrest : s.digits / 10 ≠ 0 := by omega
      exact ih hrest
    · exact h

theorem value_le_of_mul_le (digits k : Nat) (h : digits * Nat.pow 10 k ≤ bound) :
    value ⟨digits, .ofNat k⟩ ≤ bound := by
  rw [value, Int.ofNat_eq_natCast, zpow_natCast]
  exact_mod_cast h

/-- **A decimal that rounds to less than the bound is not larger than the bound.** -/
theorem value_le_of_nearestRank {s : Scientific} {r : Fin rankLimit}
    (h : nearestRank s.digits s.exponent = some r) (hr : r < nextToLast) : s.value ≤ bound := by
  obtain ⟨digits, exponent⟩ := s
  cases exponent with
  | ofNat k =>
    have hle : digits * Nat.pow 10 k ≤ bound := by
      apply Nat.le_of_not_lt
      intro hmore
      obtain ⟨b, hb, hbr⟩ := nearest_mono Nat.one_pos Nat.one_pos
        (Nat.mul_le_mul_right 1 (Nat.le_of_lt hmore)) h
      rw [nearest_bound, Option.some.injEq] at hb
      exact absurd hr (Fin.not_lt.2 (hb ▸ hbr))
    exact value_le_of_mul_le digits k hle
  | negSucc k =>
    have hle : digits ≤ bound * Nat.pow 10 (k + 1) := by
      apply Nat.le_of_not_lt
      intro hmore
      have hcross : bound * Nat.pow 10 (k + 1) ≤ digits * 1 := by omega
      obtain ⟨b, hb, hbr⟩ := nearest_mono Nat.one_pos (ten_pow_pos (k + 1)) hcross h
      rw [nearest_bound, Option.some.injEq] at hb
      exact absurd hr (Fin.not_lt.2 (hb ▸ hbr))
    rw [value, zpow_negSucc, ← div_eq_mul_inv, div_le_iff₀ (by positivity)]
    exact_mod_cast hle

theorem nearestRank_of_atExponent? {r : Fin rankLimit} {exponent : Int} {s : Scientific}
    (h : atExponent? r exponent = some s) : nearestRank s.digits s.exponent = some r := by
  unfold atExponent? at h
  simp only at h
  split at h
  · rename_i hbelow habove
    rw [Option.some.injEq] at h
    subst h
    split
    · exact beq_iff_eq.1 habove
    · exact beq_iff_eq.1 hbelow
  · rename_i hbelow _
    rw [Option.some.injEq] at h
    exact h ▸ beq_iff_eq.1 hbelow
  · rename_i _ habove
    rw [Option.some.injEq] at h
    exact h ▸ beq_iff_eq.1 habove
  · cases h

/-- The decimal of a number rounds to the number, or it is zero because none was found. -/
theorem ofRank_cases (r : Fin rankLimit) :
    (∃ s, ofRank r = strip 17 s ∧ nearestRank s.digits s.exponent = some r) ∨
      ofRank r = ⟨0, 0⟩ := by
  unfold ofRank
  simp only
  generalize leadingOf (numerator r) denominator = leading
  cases hfound : (List.range 17).findSome? fun (n : Nat) => atExponent? r (leading - (n : Int)) with
  | none => exact .inr rfl
  | some s =>
    obtain ⟨n, -, hs⟩ := List.exists_of_findSome?_eq_some hfound
    exact .inl ⟨s, rfl, nearestRank_of_atExponent? hs⟩

theorem ofRank_largest :
    ofRank last = ⟨17976931348623157, 292⟩ ∧ ofRank nextToLast = ⟨17976931348623155, 292⟩ := by
  decide +kernel

/-- **Below the last number the shortest decimals are at most the bound.** -/
theorem value_ofRank_le {r : Fin rankLimit} (h : r < last) : (ofRank r).value ≤ bound := by
  rcases Nat.lt_or_eq_of_le (Nat.le_sub_one_of_lt h) with hlt | heq
  · rcases ofRank_cases r with ⟨s, hs, hnearest⟩ | hzero
    · rw [hs, value_strip]
      exact value_le_of_nearestRank hnearest hlt
    · rw [hzero]
      exact value_le_of_mul_le 0 0 (Nat.zero_le _)
  · have hr : r = nextToLast := Fin.ext heq
    rw [hr, ofRank_largest.2]
    exact value_le_of_mul_le 17976931348623155 292 (by decide +kernel)

theorem nearestRank_zero {exponent : Int} {r : Fin rankLimit}
    (h : nearestRank 0 exponent = some r) : r.val = 0 := by
  cases exponent with
  | ofNat k =>
    rw [nearestRank, Nat.zero_mul, nearest_eq_some_iff, rounded_zero] at h
    exact h.symm
  | negSucc k =>
    rw [nearestRank, nearest_eq_some_iff, rounded_zero] at h
    exact h.symm

/-- Only zero has a decimal without digits, apart from where none was found. -/
theorem digits_ofRank {r : Fin rankLimit} (h : r.val ≠ 0) :
    (ofRank r).digits ≠ 0 ∨ ofRank r = ⟨0, 0⟩ := by
  rcases ofRank_cases r with ⟨s, hs, hnearest⟩ | hzero
  · left
    rw [hs]
    apply digits_strip
    intro hdigits
    rw [hdigits] at hnearest
    exact h (nearestRank_zero hnearest)
  · exact .inr hzero

end Scientific

end DidLedger.Decimal
