/-
  DidLedger/Proofs/Decimal/Rounding.lean
  ======================================
  **Rounding keeps the order of numbers.**

  Quotients are compared by their cross products.  Of two quotients the smaller
  is not rounded to the larger rank (`nearest_mono`): in one binade because whole
  quotients keep their order, and across two because the ranks of a binade end
  where those of the next begin.  So what is not larger than a number that is
  finite when it is rounded is finite itself, and so are products and quotients.
-/
import DidLedger.Decimal.Binary64
import Mathlib.Tactic.Ring

namespace DidLedger.Decimal.Binary64

variable {n d n₁ d₁ n₂ d₂ : Nat}

/-! ### Whole quotients -/

theorem div_mono (hd₁ : 0 < d₁) (hd₂ : 0 < d₂) (h : n₁ * d₂ ≤ n₂ * d₁) : n₁ / d₁ ≤ n₂ / d₂ := by
  rw [Nat.le_div_iff_mul_le hd₂]
  apply Nat.le_of_mul_le_mul_right _ hd₁
  calc n₁ / d₁ * d₂ * d₁ = n₁ / d₁ * d₁ * d₂ := by ring
    _ ≤ n₁ * d₂ := Nat.mul_le_mul_right _ (Nat.div_mul_le_self _ _)
    _ ≤ n₂ * d₁ := h

theorem le_roundDiv (n d : Nat) : n / d ≤ roundDiv n d := by
  unfold roundDiv
  split
  · exact Nat.le_refl _
  · split
    · exact Nat.le_succ _
    · exact Nat.le_add_right _ _

theorem roundDiv_le (n d : Nat) : roundDiv n d ≤ n / d + 1 := by
  unfold roundDiv
  split
  · exact Nat.le_succ _
  · split
    · exact Nat.le_refl _
    · have hparity := Nat.mod_lt (n / d) (show 0 < 2 by decide)
      omega

/-- **A quotient that is not larger is not rounded to more.** -/
theorem roundDiv_mono (hd₁ : 0 < d₁) (hd₂ : 0 < d₂) (h : n₁ * d₂ ≤ n₂ * d₁) :
    roundDiv n₁ d₁ ≤ roundDiv n₂ d₂ := by
  rcases Nat.lt_or_eq_of_le (div_mono hd₁ hd₂ h) with hlt | heq
  · exact (roundDiv_le n₁ d₁).trans (Nat.le_trans hlt (le_roundDiv n₂ d₂))
  · -- with the same whole part the rests decide
    have hrests : n₁ % d₁ * d₂ ≤ n₂ % d₂ * d₁ := by
      have hsplit₁ := Nat.div_add_mod n₁ d₁
      have hsplit₂ := Nat.div_add_mod n₂ d₂
      rw [← hsplit₁, ← hsplit₂, Nat.add_mul, Nat.add_mul, heq] at h
      have hwhole : d₁ * (n₂ / d₂) * d₂ = d₂ * (n₂ / d₂) * d₁ := by ring
      omega
    have hdouble : 2 * (n₁ % d₁) * d₂ ≤ 2 * (n₂ % d₂) * d₁ := by
      rw [Nat.mul_assoc, Nat.mul_assoc]
      exact Nat.mul_le_mul_left 2 hrests
    rcases Nat.lt_trichotomy (2 * (n₁ % d₁)) d₁ with hbelow | htie | habove
    · have hdown : roundDiv n₁ d₁ = n₁ / d₁ := if_pos hbelow
      rw [hdown, heq]
      exact le_roundDiv n₂ d₂
    · have hhalf : d₂ ≤ 2 * (n₂ % d₂) := by
        rw [htie, Nat.mul_comm] at hdouble
        exact Nat.le_of_mul_le_mul_right hdouble hd₁
      unfold roundDiv
      rw [htie, if_neg (Nat.lt_irrefl _), if_neg (Nat.lt_irrefl _), if_neg (Nat.not_lt.2 hhalf),
        heq]
      split
      · have hparity := Nat.mod_lt (n₂ / d₂) (show 0 < 2 by decide)
        omega
      · exact Nat.le_refl _
    · have hmore : d₂ < 2 * (n₂ % d₂) := by
        apply Nat.lt_of_mul_lt_mul_right (a := d₁)
        calc d₂ * d₁ = d₁ * d₂ := Nat.mul_comm _ _
          _ < 2 * (n₁ % d₁) * d₂ := Nat.mul_lt_mul_of_pos_right habove hd₂
          _ ≤ 2 * (n₂ % d₂) * d₁ := hdouble
      have hup : roundDiv n₂ d₂ = n₂ / d₂ + 1 := by
        unfold roundDiv
        rw [if_neg (Nat.not_lt.2 (Nat.le_of_lt hmore)), if_pos hmore]
      rw [hup, ← heq]
      exact roundDiv_le n₁ d₁

/-! ### Binades -/

theorem two_pow_pos (e : Nat) : 0 < Nat.pow 2 e := Nat.pow_pos (by decide)

theorem denominator_pos : 0 < denominator := by
  unfold denominator
  generalize 1074 = e
  exact two_pow_pos e

theorem two_pow_succ (e : Nat) : Nat.pow 2 (e + 1) = Nat.pow 2 e * 2 := Nat.pow_succ 2 e

theorem log2_mono {a b : Nat} (h : a ≤ b) : a.log2 ≤ b.log2 := by
  rcases Nat.eq_zero_or_pos a with rfl | ha
  · rw [Nat.log2_zero]
    exact Nat.zero_le _
  · have hlow := Nat.log2_self_le (Nat.pos_iff_ne_zero.1 ha)
    exact (Nat.le_log2 (Nat.pos_iff_ne_zero.1 (Nat.lt_of_lt_of_le ha h))).2 (hlow.trans h)

theorem binade_mono (hd₁ : 0 < d₁) (hd₂ : 0 < d₂) (h : n₁ * d₂ ≤ n₂ * d₁) :
    binade n₁ d₁ ≤ binade n₂ d₂ := by
  have hscaled : n₁ * denominator / d₁ ≤ n₂ * denominator / d₂ := by
    apply div_mono hd₁ hd₂
    calc n₁ * denominator * d₂ = n₁ * d₂ * denominator := by ring
      _ ≤ n₂ * d₁ * denominator := Nat.mul_le_mul_right _ h
      _ = n₂ * denominator * d₁ := by ring
  exact Nat.sub_le_sub_right (log2_mono hscaled) 52

/-- In its binade a number has a significand of at most 53 bits. -/
theorem roundDiv_binade_le (n d : Nat) :
    roundDiv (n * denominator) (d * Nat.pow 2 (binade n d)) ≤ Nat.pow 2 53 := by
  have hscaled : n * denominator / d < Nat.pow 2 (53 + binade n d) := by
    apply Nat.lt_of_lt_of_le Nat.lt_log2_self
    apply Nat.pow_le_pow_right (by decide)
    simp only [binade]
    omega
  have hwhole : n * denominator / (d * Nat.pow 2 (binade n d)) < Nat.pow 2 53 := by
    rw [← Nat.div_div_eq_div_mul, Nat.div_lt_iff_lt_mul (two_pow_pos _)]
    have hsplit : Nat.pow 2 (53 + binade n d) = Nat.pow 2 53 * Nat.pow 2 (binade n d) :=
      Nat.pow_add 2 53 _
    rwa [hsplit] at hscaled
  exact (roundDiv_le _ _).trans hwhole

/-- Above the first binade a significand has 53 bits. -/
theorem le_roundDiv_binade (hbinade : 0 < binade n d) :
    Nat.pow 2 52 ≤ roundDiv (n * denominator) (d * Nat.pow 2 (binade n d)) := by
  have hlog : binade n d = (n * denominator / d).log2 - 52 := rfl
  have hne : n * denominator / d ≠ 0 := by
    intro hzero
    rw [hzero, Nat.log2_zero] at hlog
    omega
  have hscaled : Nat.pow 2 (52 + binade n d) ≤ n * denominator / d := by
    apply Nat.le_trans _ (Nat.log2_self_le hne)
    apply Nat.pow_le_pow_right (by decide)
    omega
  apply Nat.le_trans _ (le_roundDiv _ _)
  rw [← Nat.div_div_eq_div_mul, Nat.le_div_iff_mul_le (two_pow_pos _)]
  have hsplit : Nat.pow 2 (52 + binade n d) = Nat.pow 2 52 * Nat.pow 2 (binade n d) :=
    Nat.pow_add 2 52 _
  rwa [hsplit] at hscaled

/-! ### Nearest numbers -/

/-- The rank of a rounded quotient, whether it is finite or not. -/
def rounded (n d : Nat) : Nat :=
  binade n d * Nat.pow 2 52 + roundDiv (n * denominator) (d * Nat.pow 2 (binade n d))

theorem nearest_eq_some_iff {r : Fin rankLimit} : nearest n d = some r ↔ rounded n d = r := by
  unfold nearest rounded
  simp only
  split
  · rename_i h
    rw [Option.some.injEq, Fin.ext_iff]
  · rename_i h
    constructor
    · intro hnone
      cases hnone
    · intro heq
      exact absurd (heq ▸ r.isLt) h

theorem rounded_zero (d : Nat) : rounded 0 d = 0 := by
  simp [rounded, binade, roundDiv]

theorem rounded_mono (hd₁ : 0 < d₁) (hd₂ : 0 < d₂) (h : n₁ * d₂ ≤ n₂ * d₁) :
    rounded n₁ d₁ ≤ rounded n₂ d₂ := by
  unfold rounded
  rcases Nat.lt_or_eq_of_le (binade_mono hd₁ hd₂ h) with hlt | heq
  · have hupper := roundDiv_binade_le n₁ d₁
    have hlower := le_roundDiv_binade (Nat.zero_lt_of_lt hlt)
    have hdouble : Nat.pow 2 53 = Nat.pow 2 52 + Nat.pow 2 52 := by decide
    have hstep : (binade n₁ d₁ + 1) * Nat.pow 2 52 ≤ binade n₂ d₂ * Nat.pow 2 52 :=
      Nat.mul_le_mul_right _ hlt
    rw [Nat.succ_mul] at hstep
    omega
  · rw [heq]
    apply Nat.add_le_add_left
    apply roundDiv_mono (Nat.mul_pos hd₁ (two_pow_pos _)) (Nat.mul_pos hd₂ (two_pow_pos _))
    calc n₁ * denominator * (d₂ * Nat.pow 2 (binade n₂ d₂))
        = n₁ * d₂ * (denominator * Nat.pow 2 (binade n₂ d₂)) := by ring
      _ ≤ n₂ * d₁ * (denominator * Nat.pow 2 (binade n₂ d₂)) := Nat.mul_le_mul_right _ h
      _ = n₂ * denominator * (d₁ * Nat.pow 2 (binade n₂ d₂)) := by ring

/-- **What is not larger than a number with a finite rounding has one, too.** -/
theorem nearest_mono (hd₁ : 0 < d₁) (hd₂ : 0 < d₂) (h : n₁ * d₂ ≤ n₂ * d₁) {r₂ : Fin rankLimit}
    (hr₂ : nearest n₂ d₂ = some r₂) : ∃ r₁, nearest n₁ d₁ = some r₁ ∧ r₁ ≤ r₂ := by
  have hle := rounded_mono hd₁ hd₂ h
  rw [nearest_eq_some_iff.1 hr₂] at hle
  exact ⟨⟨rounded n₁ d₁, Nat.lt_of_le_of_lt hle r₂.isLt⟩, nearest_eq_some_iff.2 rfl, hle⟩

/-! ### Magnitudes -/

theorem significand_lt (r : Nat) : significand r < Nat.pow 2 53 := by
  have hdouble : Nat.pow 2 53 = Nat.pow 2 52 + Nat.pow 2 52 := by decide
  unfold significand
  split
  · omega
  · have hrest := Nat.mod_lt r (two_pow_pos 52)
    omega

theorem numerator_mono {r s : Nat} (h : r ≤ s) : numerator r ≤ numerator s := by
  have hdouble : Nat.pow 2 53 = Nat.pow 2 52 * 2 := by decide
  have hbias : ∀ {a b : Nat}, a ≤ b → Nat.pow 2 a ≤ Nat.pow 2 b :=
    fun hab => Nat.pow_le_pow_right (by decide) hab
  have hdivs := Nat.div_le_div_right (c := Nat.pow 2 52) h
  unfold numerator biasedExponent
  by_cases hs : s < Nat.pow 2 52
  · have hr : r < Nat.pow 2 52 := Nat.lt_of_le_of_lt h hs
    rw [Nat.div_eq_of_lt hr, Nat.div_eq_of_lt hs, significand, significand, if_pos hr, if_pos hs]
    exact Nat.mul_le_mul_right _ h
  · rcases Nat.lt_or_eq_of_le hdivs with hlt | heq
    · -- in another binade the last significand is not beyond the first one of the next
      have hsignificand : Nat.pow 2 52 ≤ significand s := by
        rw [significand, if_neg hs]
        exact Nat.le_add_left _ _
      by_cases hr : r < Nat.pow 2 52
      · rw [Nat.div_eq_of_lt hr, significand, if_pos hr]
        calc r * Nat.pow 2 (0 - 1) = r := Nat.mul_one r
          _ ≤ Nat.pow 2 52 := Nat.le_of_lt hr
          _ ≤ significand s := hsignificand
          _ ≤ significand s * Nat.pow 2 (s / Nat.pow 2 52 - 1) :=
            Nat.le_mul_of_pos_right _ (two_pow_pos _)
      · have hpos : 0 < r / Nat.pow 2 52 := Nat.div_pos (Nat.not_lt.1 hr) (two_pow_pos 52)
        have hnext : Nat.pow 2 (r / Nat.pow 2 52 - 1 + 1) ≤ Nat.pow 2 (s / Nat.pow 2 52 - 1) :=
          hbias (by omega)
        calc significand r * Nat.pow 2 (r / Nat.pow 2 52 - 1)
            ≤ Nat.pow 2 52 * 2 * Nat.pow 2 (r / Nat.pow 2 52 - 1) :=
              Nat.mul_le_mul_right _ (hdouble ▸ Nat.le_of_lt (significand_lt r))
          _ = Nat.pow 2 52 * Nat.pow 2 (r / Nat.pow 2 52 - 1 + 1) := by
              rw [two_pow_succ (r / Nat.pow 2 52 - 1), Nat.mul_assoc, Nat.mul_comm 2]
          _ ≤ significand s * Nat.pow 2 (s / Nat.pow 2 52 - 1) :=
              Nat.mul_le_mul hsignificand hnext
    · have hsignificand : significand r ≤ significand s := by
        have hr : ¬r < Nat.pow 2 52 := by
          intro hr
          have hpos : 0 < s / Nat.pow 2 52 := Nat.div_pos (Nat.not_lt.1 hs) (two_pow_pos 52)
          rw [Nat.div_eq_of_lt hr] at heq
          omega
        rw [significand, significand, if_neg hr, if_neg hs]
        have hsplit₁ := Nat.div_add_mod r (Nat.pow 2 52)
        have hsplit₂ := Nat.div_add_mod s (Nat.pow 2 52)
        rw [heq] at hsplit₁
        omega
      rw [heq]
      exact Nat.mul_le_mul_right _ hsignificand

end DidLedger.Decimal.Binary64
