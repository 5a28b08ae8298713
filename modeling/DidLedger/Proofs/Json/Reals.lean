/-
  DidLedger/Proofs/Json/Reals.lean
  ================================
  **A floating-point number that was written reads as a number.**

  The text of a number is that of a numeral (`realNumeral`).  The numeral is
  finite: where it is written positionally its power of ten is small, and where
  it is written with an exponent its value is at most the bound below which
  every numeral is finite.  Digits that the reader drops only lower the value.
  The last number is looked at by itself.

  The number that is read need not be the one that was written, since the reader
  rounds twice.
-/
import DidLedger.Proofs.Decimal.Finite
import DidLedger.Proofs.Json.Tokens

namespace DidLedger.Json.Parser

open DidLedger.Decimal Binary64

/-! ### Gathered digits -/

theorem gather_lt {word : Nat} (h : word < wordLimit) (cs : List Char) :
    (gather word cs).1 < wordLimit := by
  induction cs generalizing word with
  | nil => exact h
  | cons c cs ih =>
    rw [gather]
    simp only
    split
    · rename_i hfits
      exact ih hfits
    · exact h

theorem gather_length_le (word : Nat) (cs : List Char) : (gather word cs).2 ≤ cs.length := by
  induction cs generalizing word with
  | nil => exact Nat.le_refl 0
  | cons c cs ih =>
    rw [gather]
    simp only
    split
    · exact Nat.succ_le_succ (ih _)
    · exact Nat.zero_le _

/-- **What is gathered is not more than what is written**, when each dropped digit
    counts as a power of ten. -/
theorem gather_mul_le (word : Nat) (cs : List Char) :
    (gather word cs).1 * 10 ^ (cs.length - (gather word cs).2) ≤ Nat.ofDigitChars 10 cs word := by
  induction cs generalizing word with
  | nil => exact Nat.le_of_eq (Nat.mul_one word)
  | cons c cs ih =>
    rw [gather]
    simp only
    split
    · have hmore := ih (word * 10 + (c.toNat - '0'.toNat))
      rw [List.length_cons, Nat.add_sub_add_right, Nat.ofDigitChars_cons, Nat.mul_comm 10]
      exact hmore
    · rw [Nat.ofDigitChars_eq_ofDigitChars_zero, Nat.mul_comm, Nat.sub_zero]
      exact Nat.le_add_right _ _

/-! ### Finite numerals -/

theorem word_pos : 0 < wordLimit := by decide

theorem exists_real?_of_short {n : Numeral}
    (h : (n.whole.length : Int) + n.exponent.getD 0 ≤ 288) : ∃ x, n.real? = some x := by
  have hword := gather_lt (gather_lt word_pos n.whole) n.fraction
  apply exists_ofParts n.negative hword
  left
  omega

/-- A numeral with one digit before its point is finite if its value is at most the
    bound. -/
theorem exists_real?_of_value {negative : Bool} {d : Char} {fraction : List Char} {exponent : Int}
    (hd : d.isDigit = true)
    (h : (Nat.ofDigitChars 10 (d :: fraction) 0 : ℚ) * 10 ^ (exponent - fraction.length) ≤ bound) :
    ∃ x, Numeral.real? ⟨negative, [d], fraction, some exponent⟩ = some x := by
  have hnine : d.toNat - '0'.toNat ≤ 9 := by
    have hrange := Char.isDigit_iff_toNat.1 hd
    have hlast : '9'.toNat = 57 := rfl
    have hfirst : '0'.toNat = 48 := rfl
    omega
  have hfirst : gather 0 [d] = (d.toNat - '0'.toNat, 1) := by
    have hfits : 0 * 10 + (d.toNat - '0'.toNat) < wordLimit := by
      have hlimit : 9 < wordLimit := by decide
      omega
    rw [gather]
    simp only
    rw [if_pos hfits, gather, Nat.zero_mul, Nat.zero_add]
  have hword := gather_lt (Nat.lt_of_le_of_lt hnine (by decide)) fraction
  have hkept := gather_length_le (d.toNat - '0'.toNat) fraction
  have hle := gather_mul_le (d.toNat - '0'.toNat) fraction
  have hdigits : Nat.ofDigitChars 10 (d :: fraction) 0 =
      Nat.ofDigitChars 10 fraction (d.toNat - '0'.toNat) := by
    rw [Nat.ofDigitChars_cons, Nat.mul_zero, Nat.zero_add]
  rw [hdigits] at h
  unfold Numeral.real?
  simp only [hfirst]
  generalize gather (d.toNat - '0'.toNat) fraction = gathered at hword hkept hle ⊢
  obtain ⟨word, places⟩ := gathered
  apply exists_ofParts negative hword
  right
  have hexponent : ((([d].length - 1 : Nat) : Int) - (places : Int) + (some exponent).getD 0) =
      ((fraction.length - places : Nat) : Int) + (exponent - fraction.length) := by
    simp only [List.length_singleton, Option.getD_some]
    omega
  have hcast : (word : ℚ) * 10 ^ (fraction.length - places) ≤
      Nat.ofDigitChars 10 fraction (d.toNat - '0'.toNat) := by exact_mod_cast hle
  rw [hexponent, zpow_add₀ (by norm_num), zpow_natCast, ← mul_assoc]
  exact (mul_le_mul_of_nonneg_right hcast (by positivity)).trans h

/-! ### The numeral of a number -/

/-- Digits laid out around a point. -/
def positionalNumeral (negative : Bool) (digits : List Char) : Int → Numeral
  | .ofNat k =>
    let whole := digits.take (k + 1)
    let fraction := digits.drop (k + 1)
    ⟨negative, whole ++ List.replicate (k + 1 - whole.length) '0',
      if fraction.isEmpty then ['0'] else fraction, none⟩
  | .negSucc k => ⟨negative, ['0'], List.replicate k '0' ++ digits, none⟩

/-- Digits laid out with an exponent. -/
def exponentialNumeral (negative : Bool) (digits : List Char) (leading : Int) : Numeral :=
  ⟨negative, digits.take 1, digits.drop 1, some leading⟩

def decimalNumeral (negative : Bool) (s : Scientific) : Numeral :=
  if Number.layout.minPositional ≤ s.leading ∧ s.leading ≤ Number.layout.maxPositional then
    positionalNumeral negative (Nat.toDigits 10 s.digits) s.leading
  else exponentialNumeral negative (Nat.toDigits 10 s.digits) s.leading

def realNumeral (x : Binary64) : Numeral :=
  if x.rank.val = 0 then positionalNumeral x.negative ['0'] 0
  else decimalNumeral x.negative (Scientific.ofRank x.rank)

section
variable {negative : Bool} {digits : List Char}

theorem fraction_positional_ne_nil (negative : Bool) (hne : digits ≠ []) (leading : Int) :
    (positionalNumeral negative digits leading).fraction ≠ [] := by
  cases leading with
  | ofNat k =>
    unfold positionalNumeral
    simp only
    split
    · exact List.cons_ne_nil _ _
    · rename_i hsome
      intro hnil
      exact hsome (List.isEmpty_iff.2 hnil)
  | negSucc k => exact List.append_ne_nil_of_right_ne_nil _ hne

theorem unsignedChars_positional (hne : digits ≠ []) (leading : Int) :
    unsignedChars (positionalNumeral negative digits leading) = positional digits leading := by
  have hsome := fraction_positional_ne_nil negative hne leading
  have hpoint : fractionChars (positionalNumeral negative digits leading).fraction =
      '.' :: (positionalNumeral negative digits leading).fraction :=
    if_neg fun hnil => hsome (List.isEmpty_iff.1 hnil)
  unfold unsignedChars
  rw [hpoint]
  cases leading with
  | ofNat k =>
    simp only [positionalNumeral, positional, exponentChars, List.append_nil, List.append_assoc]
  | negSucc k =>
    simp only [positionalNumeral, positional, exponentChars, List.append_nil, List.cons_append,
      List.nil_append]

theorem unsignedChars_exponential (leading : Int) :
    unsignedChars (exponentialNumeral negative digits leading) =
      exponential Number.layout digits leading := by
  unfold exponential
  rw [List.append_assoc, List.append_assoc]
  cases leading with
  | ofNat k => rfl
  | negSucc k => rfl

theorem negative_positional (leading : Int) :
    (positionalNumeral negative digits leading).negative = negative := by
  cases leading with
  | ofNat k => rfl
  | negSucc k => rfl

end

/-- **The text of a number is that of its numeral.** -/
theorem numeralChars_realNumeral (x : Binary64) :
    numeralChars (realNumeral x) = x.render Number.layout := by
  unfold numeralChars realNumeral Binary64.render decimalNumeral Layout.render
  by_cases hzero : x.rank.val = 0
  · rw [if_pos hzero, if_pos hzero, negative_positional,
      unsignedChars_positional (List.cons_ne_nil _ _)]
  · rw [if_neg hzero, if_neg hzero]
    simp only
    split
    · rw [negative_positional, unsignedChars_positional Nat.toDigits_ne_nil]
    · rw [unsignedChars_exponential]
      rfl

/-! ### It is read back -/

section
variable {negative : Bool} {digits : List Char}

theorem proper_positional (hdigits : ∀ c ∈ digits, c.isDigit = true) {leading : Int}
    (hleads : (∃ c ∈ digits.head?, c ≠ '0') ∨ digits = ['0'] ∧ leading = 0) :
    Proper (positionalNumeral negative digits leading) := by
  have hzeros : ∀ n, ∀ c ∈ List.replicate n '0', c.isDigit = true := by
    intro n c hc
    rw [List.eq_of_mem_replicate hc]
    rfl
  cases leading with
  | ofNat k =>
    refine ⟨?_, ?_, ?_⟩
    · rcases hleads with ⟨c, hc, hne⟩ | ⟨rfl, hleading⟩
      · right
        cases digits with
        | nil => cases hc
        | cons d ds =>
          cases hc
          refine ⟨List.cons_ne_nil _ _, ?_⟩
          intro e he
          cases he
          exact hne
      · left
        cases hleading
        rfl
    · intro c hc
      rcases List.mem_append.1 hc with hc | hc
      · exact hdigits c (List.mem_of_mem_take hc)
      · exact hzeros _ c hc
    · intro c hc
      simp only [positionalNumeral] at hc
      split at hc
      · exact hzeros 1 c hc
      · exact hdigits c (List.mem_of_mem_drop hc)
  | negSucc k =>
    refine ⟨.inl rfl, hzeros 1, ?_⟩
    intro c hc
    rcases List.mem_append.1 hc with hc | hc
    · exact hzeros k c hc
    · exact hdigits c hc

theorem proper_exponential (hne : digits ≠ []) (hdigits : ∀ c ∈ digits, c.isDigit = true)
    (leading : Int) : Proper (exponentialNumeral negative digits leading) := by
  refine ⟨?_, fun c hc => hdigits c (List.mem_of_mem_take hc),
    fun c hc => hdigits c (List.mem_of_mem_drop hc)⟩
  cases digits with
  | nil => exact absurd rfl hne
  | cons d ds =>
    by_cases hd : d = '0'
    · exact .inl (congrArg (fun c => [c]) hd)
    · right
      refine ⟨List.cons_ne_nil _ _, ?_⟩
      intro c hc
      cases hc
      exact hd

end

theorem proper_decimalNumeral (negative : Bool) {s : Scientific}
    (h : s.digits ≠ 0 ∨ s = ⟨0, 0⟩) : Proper (decimalNumeral negative s) := by
  have hdigits : ∀ c ∈ Nat.toDigits 10 s.digits, c.isDigit = true :=
    fun _ => isDigit_of_mem_toDigits
  unfold decimalNumeral
  split
  · apply proper_positional hdigits
    rcases h with h | rfl
    · left
      have hhead := head_toDigits (Nat.pos_of_ne_zero h)
      cases hcs : Nat.toDigits 10 s.digits with
      | nil => exact absurd hcs Nat.toDigits_ne_nil
      | cons c cs =>
        rw [hcs] at hhead
        exact ⟨c, rfl, hhead c rfl⟩
    · exact .inr ⟨rfl, rfl⟩
  · exact proper_exponential Nat.toDigits_ne_nil hdigits s.leading

theorem proper_realNumeral (x : Binary64) : Proper (realNumeral x) := by
  unfold realNumeral
  split
  · exact proper_positional (List.forall_mem_singleton.2 rfl) (.inr ⟨rfl, rfl⟩)
  · rename_i h
    exact proper_decimalNumeral x.negative (Scientific.digits_ofRank h)

/-! ### It is finite -/

theorem exists_real?_positional (negative : Bool) {digits : List Char} {leading : Int}
    (h : leading ≤ 15) : ∃ y, (positionalNumeral negative digits leading).real? = some y := by
  apply exists_real?_of_short
  cases leading with
  | ofNat k =>
    have hk : k ≤ 15 := Int.ofNat_le.1 h
    have htake := List.length_take_le (k + 1) digits
    simp only [positionalNumeral, List.length_append, List.length_replicate, Option.getD_none]
    omega
  | negSucc k =>
    have hone : (1 : Int) + 0 ≤ 288 := by decide
    exact hone

theorem exists_real?_exponential (negative : Bool) {s : Scientific} (h : s.value ≤ bound) :
    ∃ y, (exponentialNumeral negative (Nat.toDigits 10 s.digits) s.leading).real? = some y := by
  have hdigits : ∀ c ∈ Nat.toDigits 10 s.digits, c.isDigit = true :=
    fun _ => isDigit_of_mem_toDigits
  have hvalue := Nat.ofDigitChars_ten_toDigits (n := s.digits)
  have hwidth : s.leading = s.exponent + ((Nat.toDigits 10 s.digits).length : Int) - 1 := rfl
  cases hcs : Nat.toDigits 10 s.digits with
  | nil => exact absurd hcs Nat.toDigits_ne_nil
  | cons d ds =>
    rw [hcs] at hdigits hvalue hwidth
    apply exists_real?_of_value (hdigits d List.mem_cons_self)
    have hexponent : s.leading - (ds.length : Int) = s.exponent := by
      rw [List.length_cons] at hwidth
      omega
    rw [List.drop_one, List.tail_cons, hvalue, hexponent]
    exact h

/-- The last number is written with the exponent 308. -/
theorem exists_real?_last (negative : Bool) :
    ∃ y, (decimalNumeral negative (Scientific.ofRank last)).real? = some y := by
  have hboth : ∀ negative : Bool,
      (decimalNumeral negative ⟨17976931348623157, 292⟩).real?.isSome = true := by decide +kernel
  rw [Scientific.ofRank_largest.1]
  exact Option.isSome_iff_exists.1 (hboth negative)

/-- **The numeral of a number is finite.** -/
theorem exists_real?_realNumeral (x : Binary64) : ∃ y, (realNumeral x).real? = some y := by
  unfold realNumeral
  split
  · exact exists_real?_positional x.negative (by decide)
  · rcases Nat.lt_or_eq_of_le (Nat.le_sub_one_of_lt x.rank.isLt) with hlt | heq
    · unfold decimalNumeral
      split
      · rename_i hlayout
        exact exists_real?_positional x.negative hlayout.2
      · exact exists_real?_exponential x.negative (Scientific.value_ofRank_le hlt)
    · have hlast : x.rank = last := Fin.ext heq
      rw [hlast]
      exact exists_real?_last x.negative

theorem integer?_realNumeral (x : Binary64) : (realNumeral x).integer? = none := by
  have hpositional : ∀ (negative : Bool) (digits : List Char), digits ≠ [] → ∀ leading,
      (positionalNumeral negative digits leading).integer? = none := by
    intro negative digits hne leading
    have hsome := fraction_positional_ne_nil negative hne leading
    apply if_pos
    simp [hsome]
  unfold realNumeral decimalNumeral
  split
  · exact hpositional _ _ (List.cons_ne_nil _ _) 0
  · split
    · exact hpositional _ _ Nat.toDigits_ne_nil _
    · apply if_pos
      simp [exponentialNumeral]

end DidLedger.Json.Parser
