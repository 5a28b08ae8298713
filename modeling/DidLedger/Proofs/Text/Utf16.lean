/-
  DidLedger/Proofs/Text/Utf16.lean
  ================================
  **Text that was written in UTF-16 is read back, in either byte order.**

  A character is one code unit or a pair of them.  The reader gets back what was
  written unit by unit: a unit that is no surrogate is its own character, and a pair
  holds the bits that the character has above FFFF (`decodeFrom_encodeChar`).

  What is no text costs one mark each time: a half whose other half does not come,
  and octets that are left over at the end.
-/
import DidLedger.Text.Utf16

namespace DidLedger.Text.Utf16

/-! ### Writing -/

/-- The code units of a character. -/
def units (c : Char) : List Nat :=
  if c.toNat < 0x10000 then [c.toNat]
  else [0xD800 + (c.toNat - 0x10000) / 0x400, 0xDC00 + (c.toNat - 0x10000) % 0x400]

/-- The octets of a code unit. -/
def ByteOrder.octets : ByteOrder → Nat → List UInt8
  | .little, unit => [UInt8.ofNat unit, UInt8.ofNat (unit / 0x100)]
  | .big, unit => [UInt8.ofNat (unit / 0x100), UInt8.ofNat unit]

def encodeChar (order : ByteOrder) (c : Char) : List UInt8 :=
  (units c).flatMap order.octets

def encode (order : ByteOrder) (s : String) : List UInt8 :=
  s.toList.flatMap (encodeChar order)

/-! ### Units -/

theorem exists_octets (order : ByteOrder) {unit : Nat} (h : unit < 0x10000) :
    ∃ a b, order.octets unit = [a, b] ∧ order.unit a b = unit := by
  cases order with
  | little =>
    refine ⟨_, _, rfl, ?_⟩
    simp only [ByteOrder.unit, UInt8.toNat_ofNat']
    omega
  | big =>
    refine ⟨_, _, rfl, ?_⟩
    simp only [ByteOrder.unit, UInt8.toNat_ofNat']
    omega

variable {order : ByteOrder} {unit : Nat}

theorem decodeFrom_unit (h : unit < 0x10000) (rest : List UInt8) :
    decodeFrom order none (order.octets unit ++ rest) =
      if isHigh unit then decodeFrom order (some unit) rest
      else if isLow unit then replacement :: decodeFrom order none rest
      else Char.ofNat unit :: decodeFrom order none rest := by
  obtain ⟨a, b, hoctets, hunit⟩ := exists_octets order h
  rw [hoctets, List.cons_append, List.cons_append, List.nil_append, decodeFrom, hunit]

theorem decodeFrom_unit_of_high {high : Nat} (h : unit < 0x10000) (rest : List UInt8) :
    decodeFrom order (some high) (order.octets unit ++ rest) =
      if isLow unit then
        Char.ofNat (0x10000 + (high - 0xD800) * 0x400 + (unit - 0xDC00)) ::
          decodeFrom order none rest
      else replacement :: decodeFrom order none (order.octets unit ++ rest) := by
  rw [decodeFrom_unit h]
  obtain ⟨a, b, hoctets, hunit⟩ := exists_octets order h
  rw [hoctets, List.cons_append, List.cons_append, List.nil_append, decodeFrom, hunit]
  by_cases hlow : isLow unit = true
  · simp only [hlow, if_true]
  · simp only [hlow, Bool.false_eq_true, if_false]

/-! ### Characters and texts -/

/-- **The octets of a character are read as that character.** -/
theorem decodeFrom_encodeChar (order : ByteOrder) (c : Char) (rest : List UInt8) :
    decodeFrom order none (encodeChar order c ++ rest) = c :: decodeFrom order none rest := by
  have hvalid : c.toNat < 0xD800 ∨ 0xDFFF < c.toNat ∧ c.toNat < 0x110000 := c.valid
  unfold encodeChar units
  split
  · rename_i hunit
    have hhigh : isHigh c.toNat = false := decide_eq_false (by omega)
    have hlow : isLow c.toNat = false := decide_eq_false (by omega)
    rw [List.flatMap_singleton, decodeFrom_unit hunit, hhigh, hlow]
    simp only [Bool.false_eq_true, if_false, Char.ofNat_toNat]
  · -- the first half leaves the reader waiting for the second
    have hhigh : isHigh (0xD800 + (c.toNat - 0x10000) / 0x400) = true :=
      decide_eq_true (by omega)
    have hlow : isLow (0xDC00 + (c.toNat - 0x10000) % 0x400) = true := decide_eq_true (by omega)
    have hpair : 0x10000 + (0xD800 + (c.toNat - 0x10000) / 0x400 - 0xD800) * 0x400 +
        (0xDC00 + (c.toNat - 0x10000) % 0x400 - 0xDC00) = c.toNat := by omega
    rw [List.flatMap_cons, List.flatMap_singleton, List.append_assoc,
      decodeFrom_unit (by omega), hhigh, if_pos rfl, decodeFrom_unit_of_high (by omega), hlow,
      if_pos rfl, hpair, Char.ofNat_toNat]

theorem decodeFrom_append (order : ByteOrder) (s : String) (rest : List UInt8) :
    decodeFrom order none (encode order s ++ rest) = s.toList ++ decodeFrom order none rest := by
  unfold encode
  induction s.toList with
  | nil => rfl
  | cons c cs ih =>
    rw [List.flatMap_cons, List.append_assoc, decodeFrom_encodeChar, ih, List.cons_append]

/-- **The reader undoes writing.** -/
@[simp] theorem decodeLossy_encode (order : ByteOrder) (s : String) :
    decodeLossy order (encode order s) = s := by
  have h := decodeFrom_append order s []
  rw [List.append_nil] at h
  rw [decodeLossy, h, decodeFrom, List.append_nil, String.ofList_toList]

/-! ### What is no text -/

/-- Octets that are no character, in front of `rest`: the half of a pair whose other half
    does not come, or what is left over at the end. -/
inductive Broken (order : ByteOrder) : List UInt8 → List UInt8 → Prop
  | second {low : Nat} {rest : List UInt8} (hlow : 0xDC00 ≤ low ∧ low < 0xE000) :
      Broken order (order.octets low) rest
  | first {high unit : Nat} {rest : List UInt8} (hhigh : 0xD800 ≤ high ∧ high < 0xDC00)
      (hunit : unit < 0x10000) (hother : ¬(0xDC00 ≤ unit ∧ unit < 0xE000)) :
      Broken order (order.octets high) (order.octets unit ++ rest)
  | atEnd {high : Nat} (hhigh : 0xD800 ≤ high ∧ high < 0xDC00) : Broken order (order.octets high) []
  | odd (b : UInt8) : Broken order [b] []
  | oddAtEnd {high : Nat} (hhigh : 0xD800 ≤ high ∧ high < 0xDC00) (b : UInt8) :
      Broken order (order.octets high ++ [b]) []

/-- **What is no character is read as one mark.** -/
theorem decodeFrom_broken {run rest : List UInt8} (h : Broken order run rest) :
    decodeFrom order none (run ++ rest) = replacement :: decodeFrom order none rest := by
  cases h with
  | second hlow =>
    rename_i low
    have hnot : isHigh low = false := decide_eq_false (by omega)
    rw [decodeFrom_unit (by omega), hnot, if_neg Bool.false_ne_true, isLow, decide_eq_true hlow,
      if_pos rfl]
  | first hhigh hunit hother =>
    rename_i high unit rest
    rw [decodeFrom_unit (by omega), isHigh, decide_eq_true hhigh, if_pos rfl,
      decodeFrom_unit_of_high hunit, isLow, decide_eq_false hother, if_neg Bool.false_ne_true]
  | atEnd hhigh =>
    rw [decodeFrom_unit (by omega), isHigh, decide_eq_true hhigh, if_pos rfl]
    rfl
  | odd b => rfl
  | oddAtEnd hhigh b =>
    rw [List.append_assoc, decodeFrom_unit (by omega), isHigh, decide_eq_true hhigh, if_pos rfl]
    rfl

/-- **In place of each broken run the reader has one mark.** -/
theorem decodeLossy_broken {run rest : List UInt8} (h : Broken order run rest) (s : String) :
    decodeLossy order (encode order s ++ (run ++ rest)) =
      s ++ ("\uFFFD" ++ decodeLossy order rest) := by
  have hmark : "\uFFFD" = String.ofList [replacement] := rfl
  rw [decodeLossy, decodeFrom_append, decodeFrom_broken h, String.ofList_append,
    String.ofList_toList, ← List.singleton_append, String.ofList_append, hmark, decodeLossy]

end DidLedger.Text.Utf16
