/-
  DidLedger/Proofs/Text/Percent.lean
  ==================================
  **A percent-coded text is one path segment and is read back as it was.**

  Writing gives unreserved characters and escapes of two hexadecimal digits only
  (`coded_encode`), so no slash and nothing else with a meaning in a URL occurs in
  it.  Reading undoes the code octet by octet, whatever follows, so what is
  written for a text decodes to the octets of the text and then to the text
  (`decode?_encode`).
-/
import DidLedger.Proofs.Text.Utf8
import DidLedger.Text.Percent

namespace DidLedger.Text.Percent

/-! ### Hexadecimal digits -/

theorem digit?_upper {n : Nat} (h : n < 16) : Hex.digit? (Hex.upper n) = some n := by
  have hall : ∀ k : Fin 16, Hex.digit? (Hex.upper k) = some k.val := by decide
  exact hall ⟨n, h⟩

theorem digit?_lower {n : Nat} (h : n < 16) : Hex.digit? (Hex.lower n) = some n := by
  have hall : ∀ k : Fin 16, Hex.digit? (Hex.lower k) = some k.val := by decide
  exact hall ⟨n, h⟩

/-! ### The characters of a segment -/

/-- A character that stands in a path segment for itself. -/
def isPlain (c : Char) : Bool :=
  c == '%' || c.toNat < 0x80 && isUnreserved (UInt8.ofNat c.toNat)

/-- What holds of the plain ASCII characters holds of all plain characters. -/
theorem of_isPlain {p : Char → Bool}
    (hascii : ∀ n : Fin 128, isPlain (Char.ofNat n) = true → p (Char.ofNat n) = true) {c : Char}
    (h : isPlain c = true) : p c = true := by
  have hlt : c.toNat < 128 := by
    simp only [isPlain, Bool.or_eq_true, beq_iff_eq, Bool.and_eq_true, decide_eq_true_eq] at h
    rcases h with rfl | ⟨hlt, -⟩
    · decide
    · exact hlt
  have hc := hascii ⟨c.toNat, hlt⟩
  simp only [Char.ofNat_toNat] at hc
  exact hc h

theorem isPlain_of_isDigit {c : Char} (h : c.isDigit = true) : isPlain c = true := by
  have hrange : 48 ≤ c.toNat ∧ c.toNat ≤ 57 := Char.isDigit_iff_toNat.1 h
  have hall : ∀ n : Fin 58, (Char.ofNat n).isDigit = true → isPlain (Char.ofNat n) = true := by
    decide
  have hc := hall ⟨c.toNat, by omega⟩
  simp only [Char.ofNat_toNat] at hc
  exact hc h

theorem isPlain_of_isUnreserved {b : UInt8} (h : isUnreserved b = true) :
    isPlain (Char.ofNat b.toNat) = true := by
  have hall : ∀ n : Fin 256, isUnreserved (UInt8.ofNat n) = true →
      isPlain (Char.ofNat n) = true := by decide +kernel
  have hb := hall ⟨b.toNat, b.toNat_lt⟩
  simp only [UInt8.ofNat_toNat] at hb
  exact hb h

theorem isPlain_upper {n : Nat} (h : n < 16) : isPlain (Hex.upper n) = true := by
  have hall : ∀ k : Fin 16, isPlain (Hex.upper k) = true := by decide
  exact hall ⟨n, h⟩

theorem isPlain_of_mem_encodeByte {b : UInt8} {c : Char} (h : c ∈ encodeByte b) :
    isPlain c = true := by
  have hb : b.toNat < 256 := b.toNat_lt
  unfold encodeByte at h
  split at h
  · rename_i hunreserved
    rw [List.mem_singleton] at h
    rw [h]
    exact isPlain_of_isUnreserved hunreserved
  · simp only [escape, List.mem_cons, List.not_mem_nil, or_false] at h
    rcases h with rfl | rfl | rfl
    · rfl
    · exact isPlain_upper (by omega)
    · exact isPlain_upper (by omega)

theorem isPlain_of_mem_encode {s : String} {c : Char} (h : c ∈ (encode s).toList) :
    isPlain c = true := by
  rw [encode, String.toList_ofList, encodeBytes, List.mem_flatMap] at h
  obtain ⟨b, -, hc⟩ := h
  exact isPlain_of_mem_encodeByte hc

/-- **A coded text is one segment: it holds no slash.** -/
theorem slash_notMem_encode (s : String) : '/' ∉ (encode s).toList := by
  intro h
  have hplain := isPlain_of_mem_encode h
  exact absurd hplain (by decide)

/-- Texts of unreserved characters and of escapes of two hexadecimal digits. -/
inductive Coded : List Char → Prop
  | nil : Coded []
  | unreserved {c : Char} {rest : List Char}
      (hc : c.isAlphanum = true ∨ c ∈ ['-', '.', '_', '~']) (hrest : Coded rest) :
      Coded (c :: rest)
  | escape {high low : Char} {rest : List Char} (hhigh : high ∈ "0123456789ABCDEF".toList)
      (hlow : low ∈ "0123456789ABCDEF".toList) (hrest : Coded rest) :
      Coded ('%' :: high :: low :: rest)

theorem upper_mem {n : Nat} (h : n < 16) : Hex.upper n ∈ "0123456789ABCDEF".toList := by
  have hall : ∀ k : Fin 16, Hex.upper k ∈ "0123456789ABCDEF".toList := by decide
  exact hall ⟨n, h⟩

/-- What is written for an octet goes in front of any coded text. -/
theorem coded_encodeByte (b : UInt8) {rest : List Char} (hrest : Coded rest) :
    Coded (encodeByte b ++ rest) := by
  have hb : b.toNat < 256 := b.toNat_lt
  have hall : ∀ n : Fin 256, isUnreserved (UInt8.ofNat n) = true →
      (Char.ofNat n).isAlphanum = true ∨ Char.ofNat n ∈ ['-', '.', '_', '~'] := by
    decide +kernel
  unfold encodeByte
  split
  · rename_i hunreserved
    have hc := hall ⟨b.toNat, hb⟩
    simp only [UInt8.ofNat_toNat] at hc
    exact .unreserved (hc hunreserved) hrest
  · exact .escape (upper_mem (by omega)) (upper_mem (by omega)) hrest

/-- **A coded text holds unreserved characters and escapes only.** -/
theorem coded_encode (s : String) : Coded (encode s).toList := by
  rw [encode, String.toList_ofList, encodeBytes]
  induction Utf8.encode s with
  | nil => exact .nil
  | cons b bytes ih => exact coded_encodeByte b ih

/-! ### Reading -/

theorem decodeChars_escape (b : UInt8) (rest : List Char) :
    decodeChars (escape b ++ rest) = b :: decodeChars rest := by
  have hb : b.toNat < 256 := b.toNat_lt
  have hdigits : b.toNat / 16 * 16 + b.toNat % 16 = b.toNat := by omega
  simp only [escape, List.cons_append, List.nil_append]
  rw [decodeChars, digit?_upper (by omega), digit?_upper (by omega)]
  simp only [hdigits, UInt8.ofNat_toNat]

theorem decodeChars_cons {c : Char} (hc : c ≠ '%') (rest : List Char) :
    decodeChars (c :: rest) = String.utf8EncodeChar c ++ decodeChars rest := by
  rw [decodeChars]
  rintro a b r rfl
  exact absurd rfl hc

theorem decodeChars_encodeByte (b : UInt8) (rest : List Char) :
    decodeChars (encodeByte b ++ rest) = b :: decodeChars rest := by
  have hall : ∀ n : Fin 256, isUnreserved (UInt8.ofNat n) = true →
      Char.ofNat n ≠ '%' ∧ String.utf8EncodeChar (Char.ofNat n) = [UInt8.ofNat n] := by
    decide +kernel
  unfold encodeByte
  split
  · rename_i hunreserved
    have hb := hall ⟨b.toNat, b.toNat_lt⟩
    simp only [UInt8.ofNat_toNat] at hb
    obtain ⟨hne, hoctet⟩ := hb hunreserved
    rw [List.singleton_append, decodeChars_cons hne, hoctet, List.singleton_append]
  · exact decodeChars_escape b rest

theorem decodeChars_encodeBytes (bytes : List UInt8) :
    decodeChars (encodeBytes bytes) = bytes := by
  induction bytes with
  | nil => rfl
  | cons b bytes ih =>
    rw [encodeBytes, List.flatMap_cons, decodeChars_encodeByte]
    exact congrArg _ ih

/-- **Reading undoes the code.** -/
@[simp] theorem decode?_encode (s : String) : decode? (encode s) = .ok s := by
  rw [decode?, decodeBytes, encode, String.toList_ofList, decodeChars_encodeBytes,
    Utf8.decode?_encode]

end DidLedger.Text.Percent
