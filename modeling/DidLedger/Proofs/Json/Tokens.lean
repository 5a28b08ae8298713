/-
  DidLedger/Proofs/Json/Tokens.lean
  =================================
  **String literals and numerals that were written are read back.**

  A character of a string is written as itself or as an escape, and the reader
  takes either to the character again, whatever follows (`stringTail_escape`).
  A numeral is read back part by part (`numeral?_chars`) if it has no leading
  zero and what follows cannot go on with it (`EndsNumeral`).  The numeral of an
  integer is one of these, and its value is the integer.
-/
import DidLedger.Json.Parser
import DidLedger.Json.Printer
import DidLedger.Proofs.Text.Front
import DidLedger.Proofs.Text.Percent

namespace DidLedger.Json.Parser

open DidLedger.Text

/-! ### Strings -/

theorem hex4?_lower {n : Nat} (h : n < 0x20) :
    hex4? '0' '0' (Hex.lower (n / 16)) (Hex.lower (n % 16)) = some n := by
  have hzero : Hex.digit? '0' = some 0 := rfl
  have hhigh := Percent.digit?_lower (show n / 16 < 16 by omega)
  have hlow := Percent.digit?_lower (show n % 16 < 16 by omega)
  have hvalue : ((0 * 16 + 0) * 16 + n / 16) * 16 + n % 16 = n := by omega
  simp only [hex4?, hzero, hhigh, hlow, Option.bind_eq_bind, Option.bind_some, Option.pure_def,
    hvalue]

theorem pushUnit_of_lt {state : StringState} {n : Nat} (h : n < 0x20) :
    state.pushUnit n = state.push (Char.ofNat n) := by
  rw [StringState.pushUnit, if_neg (by omega), if_neg (by omega)]

/-- A character is read back, however it was written. -/
theorem stringTail_escape (state : StringState) (c : Char) (rest : List Char) :
    stringTail state (escape c ++ rest) = stringTail (state.push c) rest := by
  unfold escape
  -- the seven characters that have an escape of one letter
  iterate 7
    split
    · rename_i hc
      subst hc
      rfl
  split
  · -- other control characters
    rename_i hcontrol
    simp only [List.cons_append, List.nil_append]
    rw [stringTail, hex4?_lower hcontrol]
    simp only [pushUnit_of_lt hcontrol, Char.ofNat_toNat]
  · -- characters that stand for themselves
    rename_i hquote hbackslash _ _ _ _ _ hplain
    simp only [List.cons_append, List.nil_append]
    rw [stringTail.eq_def]
    split
    · rename_i heq
      cases heq
    · rename_i heq
      cases heq
      exact absurd rfl hquote
    · rename_i heq
      cases heq
      exact absurd rfl hbackslash
    · rename_i heq
      cases heq
      exact absurd rfl hbackslash
    · rename_i heq
      cases heq
      rw [if_neg (not_or.2 ⟨hbackslash, hplain⟩)]

theorem stringTail_flatMap_escape (cs seen : List Char) (rest : List Char) :
    stringTail ⟨seen, none, false⟩ (cs.flatMap escape ++ '"' :: rest) =
      some (some (String.ofList (seen.reverse ++ cs)), rest) := by
  induction cs generalizing seen with
  | nil => simp [stringTail, StringState.text?]
  | cons c cs ih =>
    rw [List.flatMap_cons, List.append_assoc, stringTail_escape]
    simp only [StringState.push, Bool.false_or, Option.isSome_none]
    rw [ih, List.reverse_cons, List.append_assoc, List.singleton_append]

/-- **A string literal is read back.** -/
theorem stringTail_quoted (s : String) (rest : List Char) :
    stringTail .start (s.toList.flatMap escape ++ '"' :: rest) = some (some s, rest) := by
  rw [StringState.start, stringTail_flatMap_escape, List.reverse_nil, List.nil_append,
    String.ofList_toList]

/-! ### Numerals -/

/-- The fraction of a numeral as it is written. -/
def fractionChars (fraction : List Char) : List Char :=
  if fraction.isEmpty then [] else '.' :: fraction

/-- The exponent of a numeral as it is written. -/
def exponentChars : Option Int → List Char
  | none => []
  | some (.ofNat k) => 'e' :: '+' :: Nat.toDigits 10 k
  | some (.negSucc k) => 'e' :: '-' :: Nat.toDigits 10 (k + 1)

def unsignedChars (n : Numeral) : List Char :=
  n.whole ++ (fractionChars n.fraction ++ exponentChars n.exponent)

def numeralChars (n : Numeral) : List Char :=
  (if n.negative then ['-'] else []) ++ unsignedChars n

/-- Digits that can stand before the point. -/
def Leads (whole : List Char) : Prop :=
  whole = ['0'] ∨ whole ≠ [] ∧ ∀ c ∈ whole.head?, c ≠ '0'

/-- What a numeral has to be like to be read back. -/
structure Proper (n : Numeral) : Prop where
  leads : Leads n.whole
  whole : ∀ c ∈ n.whole, c.isDigit = true
  fraction : ∀ c ∈ n.fraction, c.isDigit = true

/-- What can follow digits. -/
def EndsDigits (rest : List Char) : Prop :=
  ∀ c ∈ rest.head?, c.isDigit = false

/-- What can follow a numeral: nothing that the numeral could go on with. -/
def EndsNumeral (rest : List Char) : Prop :=
  ∀ c ∈ rest.head?, c.isDigit = false ∧ c ≠ '.' ∧ c ≠ 'e' ∧ c ≠ 'E'

theorem EndsNumeral.endsDigits {rest : List Char} (h : EndsNumeral rest) : EndsDigits rest :=
  fun c hc => (h c hc).1

theorem endsDigits_cons {c : Char} (h : c.isDigit = false) (rest : List Char) :
    EndsDigits (c :: rest) := by
  intro d hd
  cases hd
  exact h

theorem digits?_append {ds rest : List Char} (hne : ds ≠ []) (hdigits : ∀ c ∈ ds, c.isDigit = true)
    (hrest : EndsDigits rest) : digits? (ds ++ rest) = some (ds, rest) := by
  have htake := takeWhile_append_of_head hdigits hrest
  have hdrop := dropWhile_append_of_head hdigits hrest
  simp [digits?, htake, hdrop, hne]

theorem isDigit_of_mem_toDigits {n : Nat} {c : Char} (h : c ∈ Nat.toDigits 10 n) :
    c.isDigit = true :=
  Nat.isDigit_of_mem_toDigits (by omega) (by omega) h

theorem digits?_toDigits (n : Nat) {rest : List Char} (hrest : EndsDigits rest) :
    digits? (Nat.toDigits 10 n ++ rest) = some (Nat.toDigits 10 n, rest) :=
  digits?_append Nat.toDigits_ne_nil (fun _ => isDigit_of_mem_toDigits) hrest

theorem whole?_append {whole rest : List Char} (hleads : Leads whole)
    (hdigits : ∀ c ∈ whole, c.isDigit = true) (hrest : EndsDigits rest) :
    whole? (whole ++ rest) = some (whole, rest) := by
  rcases hleads with rfl | ⟨hne, hhead⟩
  · rfl
  · have hread := digits?_append hne hdigits hrest
    cases whole with
    | nil => exact absurd rfl hne
    | cons c cs =>
      rw [List.cons_append] at hread ⊢
      rw [whole?, hread]
      rintro r heq
      cases heq
      exact hhead '0' rfl rfl

theorem fraction?_append {fraction rest : List Char}
    (hdigits : ∀ c ∈ fraction, c.isDigit = true) (hrest : EndsDigits rest)
    (hpoint : ∀ c ∈ rest.head?, c ≠ '.') :
    fraction? (fractionChars fraction ++ rest) = some (fraction, rest) := by
  cases fraction with
  | nil =>
    cases rest with
    | nil => rfl
    | cons c rest =>
      change fraction? (c :: rest) = _
      rw [fraction?]
      rintro r heq
      cases heq
      exact hpoint '.' rfl rfl
  | cons c cs => exact digits?_append (List.cons_ne_nil c cs) hdigits hrest

theorem exponent?_append (exponent : Option Int) {rest : List Char} (hrest : EndsNumeral rest) :
    exponent? (exponentChars exponent ++ rest) = some (exponent, rest) := by
  match exponent with
  | none =>
    cases rest with
    | nil => rfl
    | cons c rest =>
      obtain ⟨-, -, he, hE⟩ := hrest c rfl
      exact if_neg (not_or.2 ⟨he, hE⟩)
  | some (.ofNat k) =>
    have hread := digits?_toDigits k hrest.endsDigits
    simp only [exponentChars, List.cons_append, exponent?, hread, Option.map_some,
      Nat.ofDigitChars_ten_toDigits]
    rfl
  | some (.negSucc k) =>
    have hread := digits?_toDigits (k + 1) hrest.endsDigits
    simp only [exponentChars, List.cons_append, exponent?, hread, Option.map_some,
      Nat.ofDigitChars_ten_toDigits]
    rfl

/-- What follows the fraction goes on neither with a digit nor with a point. -/
theorem head_exponentChars (exponent : Option Int) {rest : List Char} (hrest : EndsNumeral rest) :
    ∀ c ∈ (exponentChars exponent ++ rest).head?, c.isDigit = false ∧ c ≠ '.' := by
  match exponent with
  | none => exact fun c hc => ⟨(hrest c hc).1, (hrest c hc).2.1⟩
  | some (.ofNat k) | some (.negSucc k) =>
    rintro c hc
    cases hc
    decide

theorem unsigned?_chars {n : Numeral} (hn : Proper n) {rest : List Char}
    (hrest : EndsNumeral rest) :
    unsigned? n.negative (unsignedChars n ++ rest) = some (n, rest) := by
  have htail := head_exponentChars n.exponent hrest
  have hdot : EndsDigits (fractionChars n.fraction ++ (exponentChars n.exponent ++ rest)) := by
    unfold fractionChars
    split
    · exact fun c hc => (htail c hc).1
    · exact endsDigits_cons (by decide) _
  have hwhole := whole?_append hn.leads hn.whole hdot
  have hfraction := fraction?_append hn.fraction (fun c hc => (htail c hc).1)
    fun c hc => (htail c hc).2
  simp only [unsigned?, unsignedChars, List.append_assoc, hwhole, hfraction,
    exponent?_append n.exponent hrest, Option.bind_eq_bind, Option.bind_some, Option.pure_def]

theorem head_unsignedChars {n : Numeral} (hn : Proper n) :
    ∃ c cs, unsignedChars n = c :: cs ∧ c.isDigit = true := by
  obtain ⟨hleads, hwhole, -⟩ := hn
  obtain ⟨negative, whole, fraction, exponent⟩ := n
  cases whole with
  | nil =>
    rcases hleads with hzero | ⟨hne, -⟩
    · cases hzero
    · exact absurd rfl hne
  | cons c cs => exact ⟨c, _, rfl, hwhole c List.mem_cons_self⟩

theorem head_numeralChars {n : Numeral} (hn : Proper n) :
    ∃ c cs, numeralChars n = c :: cs ∧ (c.isDigit = true ∨ c = '-') := by
  unfold numeralChars
  split
  · exact ⟨'-', _, rfl, .inr rfl⟩
  · obtain ⟨c, cs, hcs, hdigit⟩ := head_unsignedChars hn
    exact ⟨c, cs, hcs, .inl hdigit⟩

/-- **A numeral is read back.** -/
theorem numeral?_chars {n : Numeral} (hn : Proper n) {rest : List Char}
    (hrest : EndsNumeral rest) : numeral? (numeralChars n ++ rest) = some (n, rest) := by
  have hunsigned := unsigned?_chars hn hrest
  unfold numeralChars
  split
  · rename_i hnegative
    rw [hnegative] at hunsigned
    exact hunsigned
  · rename_i hnegative
    rw [Bool.not_eq_true] at hnegative
    rw [hnegative] at hunsigned
    obtain ⟨c, cs, hcs, hdigit⟩ := head_unsignedChars hn
    rw [List.nil_append, ← hunsigned, hcs, List.cons_append, numeral?]
    rintro r heq
    cases heq
    exact absurd hdigit (by decide)

/-! ### Integers -/

theorem head_toDigits {n : Nat} (h : 0 < n) : ∀ c ∈ (Nat.toDigits 10 n).head?, c ≠ '0' := by
  induction n using Nat.strongRecOn with
  | ind n ih =>
    by_cases hlt : n < 10
    · rw [Nat.toDigits_of_lt_base hlt]
      have hall : ∀ k : Fin 10, 0 < k.val → k.val.digitChar ≠ '0' := by decide
      simpa using hall ⟨n, hlt⟩ h
    · rw [Nat.toDigits_of_base_le (by omega) (by omega)]
      have hfront := ih (n / 10) (by omega) (by omega)
      cases hcs : Nat.toDigits 10 (n / 10) with
      | nil => exact absurd hcs Nat.toDigits_ne_nil
      | cons c cs =>
        rw [hcs] at hfront
        exact hfront

theorem leads_toDigits (n : Nat) : Leads (Nat.toDigits 10 n) := by
  rcases Nat.eq_zero_or_pos n with rfl | hpos
  · exact .inl rfl
  · exact .inr ⟨Nat.toDigits_ne_nil, head_toDigits hpos⟩

def integerNumeral : Int → Numeral
  | .ofNat n => ⟨false, Nat.toDigits 10 n, [], none⟩
  | .negSucc n => ⟨true, Nat.toDigits 10 (n + 1), [], none⟩

theorem proper_integerNumeral (n : Int) : Proper (integerNumeral n) := by
  cases n with
  | ofNat n => exact ⟨leads_toDigits n, fun _ => isDigit_of_mem_toDigits, fun _ hc => by cases hc⟩
  | negSucc n =>
    exact ⟨leads_toDigits (n + 1), fun _ => isDigit_of_mem_toDigits, fun _ hc => by cases hc⟩

theorem numeralChars_integerNumeral (n : Int) :
    numeralChars (integerNumeral n) = renderInteger n := by
  cases n with
  | ofNat n => exact List.append_nil _
  | negSucc n => exact congrArg (List.cons '-') (List.append_nil _)

/-- **An integer that fits 64 bits is read back.** -/
theorem value?_integerNumeral {n : Int} (hlow : -((wordLimit / 2 : Nat) : Int) ≤ n)
    (hhigh : n < (wordLimit : Int)) : (integerNumeral n).value? = some (.integer n) := by
  cases n with
  | ofNat n =>
    have hfits : n < wordLimit := Int.ofNat_lt.1 hhigh
    simp [Numeral.value?, Numeral.integer?, integerNumeral, Nat.ofDigitChars_ten_toDigits, hfits]
  | negSucc n =>
    have hfits : 0 < n + 1 ∧ n + 1 ≤ wordLimit / 2 := by omega
    simp only [Numeral.value?, Numeral.integer?, integerNumeral, Nat.ofDigitChars_ten_toDigits,
      List.isEmpty_nil, Bool.not_true, Option.isSome_none, Bool.or_self, Bool.false_eq_true,
      if_false, if_true]
    rw [if_pos hfits]
    rfl

end DidLedger.Json.Parser
