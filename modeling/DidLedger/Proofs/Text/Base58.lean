/-
  DidLedger/Proofs/Text/Base58.lean
  =================================
  **Bytes that are written in base 58 are read back as they were.**

  A number is cut into places and put together again, in whichever base
  (`ofPlaces_places`, `places_ofPlaces`); the places are the digits of the
  library, most significant first.  Zeros at the front carry no weight in either
  direction, so they are counted apart: a code begins with as many zero digits as
  the bytes begin with zero bytes, and what follows begins with none of them.
-/
import DidLedger.Proofs.Text.Front
import DidLedger.Text.Base58
import Mathlib.Data.Nat.Digits.Lemmas

namespace DidLedger.Text.Base58

/-! ### Places of a number -/

variable {base : Nat}

theorem places_eq_digits (hbase : 1 < base) (n : Nat) :
    places base n = (Nat.digits base n).reverse := by
  induction n using Nat.strong_induction_on with
  | _ n ih =>
    rw [places]
    by_cases hn : n = 0
    · rw [dif_pos (.inr hn), hn, Nat.digits_zero, List.reverse_nil]
    · have hpos : 0 < n := Nat.pos_of_ne_zero hn
      have hless : n / base < n := Nat.div_lt_self hpos hbase
      rw [dif_neg (by omega), ih _ hless, Nat.digits_def' hbase hpos, List.reverse_cons]

theorem ofPlaces_eq_ofDigits (base : Nat) (ds : List Nat) :
    ofPlaces base ds = Nat.ofDigits base ds.reverse := by
  rw [ofPlaces, Nat.ofDigits_eq_foldr, List.foldr_reverse]
  simp only [Nat.cast_id, Nat.mul_comm base, Nat.add_comm]

theorem ofPlaces_places (hbase : 1 < base) (n : Nat) : ofPlaces base (places base n) = n := by
  rw [ofPlaces_eq_ofDigits, places_eq_digits hbase, List.reverse_reverse, Nat.ofDigits_digits]

theorem places_ofPlaces (hbase : 1 < base) {ds : List Nat} (hlt : ∀ d ∈ ds, d < base)
    (hhead : ds.head? ≠ some 0) : places base (ofPlaces base ds) = ds := by
  have hlast : ∀ h : ds.reverse ≠ [], ds.reverse.getLast h ≠ 0 := by
    intro h hzero
    rw [List.getLast_reverse] at hzero
    exact hhead (by rw [← hzero, List.head?_eq_some_head])
  rw [ofPlaces_eq_ofDigits, places_eq_digits hbase,
    Nat.digits_ofDigits base hbase _ (fun d hd => hlt d (List.mem_reverse.1 hd)) hlast,
    List.reverse_reverse]

theorem lt_of_mem_places (hbase : 1 < base) {n d : Nat} (h : d ∈ places base n) : d < base := by
  rw [places_eq_digits hbase, List.mem_reverse] at h
  exact Nat.digits_lt_base hbase h

theorem head?_places_ne (hbase : 1 < base) (n : Nat) : (places base n).head? ≠ some 0 := by
  rw [places_eq_digits hbase, List.head?_reverse, ne_eq, List.getLast?_eq_some_iff]
  rintro ⟨front, hdigits⟩
  have hn : n ≠ 0 := by
    rintro rfl
    rw [Nat.digits_zero] at hdigits
    exact absurd hdigits (by simp)
  have hlast := Nat.getLast_digit_ne_zero base hn
  simp only [hdigits, List.getLast_append_singleton] at hlast
  exact hlast rfl

theorem ofPlaces_replicate_append (base k : Nat) (ds : List Nat) :
    ofPlaces base (List.replicate k 0 ++ ds) = ofPlaces base ds := by
  rw [ofPlaces_eq_ofDigits, List.reverse_append, List.reverse_replicate,
    Nat.ofDigits_append_replicate_zero, ofPlaces_eq_ofDigits]

/-! ### Zeros in front -/

/-- Bytes are zeros followed by bytes that begin with none. -/
theorem exists_zeros (bytes : List UInt8) :
    ∃ k rest, bytes = List.replicate k 0 ++ rest ∧ rest.head? ≠ some 0 := by
  refine ⟨(bytes.takeWhile (· == 0)).length, bytes.dropWhile (· == 0), ?_, ?_⟩
  · have hzeros : bytes.takeWhile (· == 0) =
        List.replicate (bytes.takeWhile (· == 0)).length 0 :=
      List.eq_replicate_iff.2 ⟨rfl, fun b hb =>
        beq_iff_eq.1 (List.mem_takeWhile_imp (p := (· == 0)) hb)⟩
    rw [← hzeros, List.takeWhile_append_dropWhile]
  · intro hhead
    have hnot := List.head?_dropWhile_not (· == (0 : UInt8)) bytes
    rw [hhead] at hnot
    exact absurd hnot (by decide)

/-! ### Codes -/

theorem digit?_digitChar {n : Nat} (h : n < 58) : digit? (digitChar n) = some n := by
  have hall : ∀ k : Fin 58, digit? (digitChar k) = some k.val := by decide +kernel
  exact hall ⟨n, h⟩

theorem mapM_digit?_map {ds : List Nat} (h : ∀ d ∈ ds, d < 58) :
    (ds.map digitChar).mapM digit? = some ds := by
  induction ds with
  | nil => rfl
  | cons d ds ih =>
    have hd := digit?_digitChar (h d List.mem_cons_self)
    have hds := ih fun e he => h e (List.mem_cons_of_mem d he)
    rw [List.map_cons, List.mapM_cons, hd, hds]
    rfl

/-- A code is made of the zero digits for the zero bytes and the places of the
    number of the other bytes. -/
theorem encode_replicate_append {k : Nat} {rest : List UInt8} (h : rest.head? ≠ some 0) :
    encode (List.replicate k 0 ++ rest) = String.ofList
      ((List.replicate k 0 ++ places 58 (ofPlaces 256 (rest.map UInt8.toNat))).map digitChar) := by
  have hzeros : (List.replicate k 0 ++ rest).takeWhile (· == 0) = List.replicate k 0 := by
    apply takeWhile_append_of_head
    · intro b hb
      rw [List.eq_of_mem_replicate hb]
      rfl
    · intro b hb
      rw [beq_eq_false_iff_ne]
      rintro rfl
      exact h hb
  have hzero : digitChar 0 = zeroDigit := rfl
  rw [encode, hzeros, List.map_append, List.map_replicate, List.map_append, List.map_replicate,
    List.map_replicate, hzero]
  exact congrArg (fun n => String.ofList (_ ++ (places 58 n).map digitChar))
    (ofPlaces_replicate_append 256 k _)

/-- **Bytes that were written are read back.** -/
theorem decode?_encode (bytes : List UInt8) : decode? (encode bytes) = some bytes := by
  obtain ⟨k, rest, rfl, hrest⟩ := exists_zeros bytes
  have hsmall : ∀ b ∈ rest.map UInt8.toNat, b < 256 := by
    intro b hb
    obtain ⟨byte, -, rfl⟩ := List.mem_map.1 hb
    exact byte.toNat_lt
  have hhead : (rest.map UInt8.toNat).head? ≠ some 0 := by
    rw [List.head?_map, ne_eq, Option.map_eq_some_iff]
    rintro ⟨byte, hbyte, hzero⟩
    have hbyte0 : byte = 0 := UInt8.toNat_inj.1 hzero
    exact hrest (hbyte0 ▸ hbyte)
  have hdigits : ∀ d ∈ List.replicate k 0 ++ places 58 (ofPlaces 256 (rest.map UInt8.toNat)),
      d < 58 := by
    intro d hd
    rcases List.mem_append.1 hd with hd | hd
    · rw [List.eq_of_mem_replicate hd]
      decide
    · exact lt_of_mem_places (by decide) hd
  have hzeros : (List.replicate k 0 ++
      places 58 (ofPlaces 256 (rest.map UInt8.toNat))).takeWhile (· == 0) =
        List.replicate k 0 := by
    apply takeWhile_append_of_head
    · intro d hd
      rw [List.eq_of_mem_replicate hd]
      rfl
    · intro d hd
      rw [beq_eq_false_iff_ne]
      rintro rfl
      exact head?_places_ne (by decide) _ hd
  have hbytes : (rest.map UInt8.toNat).map UInt8.ofNat = rest := by
    simp only [List.map_map, Function.comp_def, UInt8.ofNat_toNat, List.map_id']
  rw [encode_replicate_append hrest, decode?, String.toList_ofList, mapM_digit?_map hdigits]
  simp only [Option.pure_def, Option.bind_eq_bind, Option.bind_some]
  rw [hzeros, ofPlaces_replicate_append, ofPlaces_places (by decide),
    places_ofPlaces (by decide) hsmall hhead, hbytes, List.map_replicate]

end DidLedger.Text.Base58
