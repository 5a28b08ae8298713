/-
  DidLedger/Proofs/Text/Charset.lean
  ==================================
  **Octets are read as the text that was written, in the encoding that they have.**

  What a reader of an encoding has to do is said without the reader: it gives back
  any text that was written in the encoding, and one replacement character for
  octets that are broken (`Reads`).  Since all octets are texts and broken runs in
  turn, no two readers do this.

  Which reader is chosen is the other half (`Faithful`): the one of the mark at the
  front, then the one of the label, then the one of UTF-8.
-/
import DidLedger.Proofs.Text.Utf8
import DidLedger.Proofs.Text.Utf16
import DidLedger.Text.Charset

namespace DidLedger.Text

namespace Encoding

/-! ### Writing -/

/-- The octets of a text. -/
def encode : Encoding → String → List UInt8
  | .utf8 => Utf8.encode
  | .utf16 order => Utf16.encode order

/-- The byte order mark as it is written. -/
def mark (encoding : Encoding) : List UInt8 :=
  encoding.encode "\uFEFF"

/-- Octets that are no character, in front of others. -/
def Broken : Encoding → List UInt8 → List UInt8 → Prop
  | .utf8 => Utf8.Broken
  | .utf16 order => Utf16.Broken order

/-! ### Reading -/

/-- What a reader of an encoding does: texts are read as they were written, and in place of
    broken octets there is one replacement character. -/
structure Reads (encoding : Encoding) (read : List UInt8 → String) : Prop where
  text : ∀ s, read (encoding.encode s) = s
  broken : ∀ s run rest, encoding.Broken run rest →
    read (encoding.encode s ++ (run ++ rest)) = s ++ ("\uFFFD" ++ read rest)

theorem reads_decode (encoding : Encoding) : encoding.Reads encoding.decode := by
  cases encoding with
  | utf8 => exact ⟨Utf8.decodeLossy_encode, fun s run rest h => Utf8.decodeLossy_broken h s⟩
  | utf16 order =>
    exact ⟨Utf16.decodeLossy_encode order, fun s run rest h => Utf16.decodeLossy_broken h s⟩

/-! ### Marks and labels -/

theorem ofMark?_mark_append (encoding : Encoding) (bytes : List UInt8) :
    ofMark? (encoding.mark ++ bytes) = some (encoding, bytes) := by
  cases encoding with
  | utf8 => rfl
  | utf16 order => cases order <;> rfl

theorem ofMark?_eq_none {bytes : List UInt8}
    (h : ∀ encoding : Encoding, ¬encoding.mark <+: bytes) : ofMark? bytes = none := by
  unfold ofMark?
  split
  · exact absurd (List.prefix_append _ _) (h .utf8)
  · exact absurd (List.prefix_append _ _) (h (.utf16 .big))
  · exact absurd (List.prefix_append _ _) (h (.utf16 .little))
  · rfl

end Encoding

/-! ### Choosing a reader -/

/-- Whether octets begin with the mark of an encoding. -/
def Marked (bytes : List UInt8) : Prop :=
  ∃ encoding : Encoding, encoding.mark <+: bytes

/-- The encoding that a label stands for, if it is one of Unicode. -/
def Names (charset : Option String) (encoding : Encoding) : Prop :=
  match charset with
  | none => encoding = .utf8
  | some label => Encoding.plainLabel label ∈ encoding.labels

/-- Octets without a label are in UTF-8. -/
theorem names_none : Names none .utf8 := rfl

/-- What a reader of labelled octets does: a mark decides, then a label of Unicode, then an
    older label, and what has no label that is known is UTF-8. -/
structure Faithful (legacy : Legacy) (read : Option String → List UInt8 → String) : Prop where
  marked : ∀ (charset : Option String) (encoding : Encoding),
    encoding.Reads fun bytes => read charset (encoding.mark ++ bytes)
  named : ∀ charset encoding, Names charset encoding →
    ∃ reader, encoding.Reads reader ∧ ∀ bytes, ¬Marked bytes → read charset bytes = reader bytes
  older : ∀ label, (∀ encoding, ¬Names (some label) encoding) → ∃ reader,
    (legacy (Encoding.plainLabel label) = some reader ∨
      legacy (Encoding.plainLabel label) = none ∧ Encoding.utf8.Reads reader) ∧
    ∀ bytes, ¬Marked bytes → read (some label) bytes = reader bytes

theorem decodeAs_mark_append (legacy : Legacy) (charset : Option String) (encoding : Encoding)
    (bytes : List UInt8) :
    decodeAs legacy charset (encoding.mark ++ bytes) = encoding.decode bytes := by
  rw [decodeAs, Encoding.ofMark?_mark_append]

theorem decodeAs_of_not_marked {legacy : Legacy} {charset : Option String} {bytes : List UInt8}
    (h : ¬Marked bytes) : decodeAs legacy charset bytes = readerOf legacy charset bytes := by
  rw [decodeAs, Encoding.ofMark?_eq_none fun encoding hmark => h ⟨encoding, hmark⟩]

theorem ofLabel?_eq_some_iff {label : String} {encoding : Encoding} :
    Encoding.ofLabel? label = some encoding ↔ Names (some label) encoding := by
  constructor
  · intro h
    rw [Encoding.ofLabel?] at h
    have hlisted := List.find?_some h
    exact List.contains_iff_mem.1 hlisted
  · intro h
    -- no label stands for two encodings
    have hall : (Encoding.all.all fun encoding => encoding.labels.all fun label =>
        (Encoding.all.find? fun other => other.labels.contains label) == some encoding) = true := by
      decide
    have hmem : encoding ∈ Encoding.all := by
      cases encoding with
      | utf8 => decide
      | utf16 order => cases order <;> decide
    exact beq_iff_eq.1 (List.all_eq_true.1 (List.all_eq_true.1 hall _ hmem) _ h)

/-- **Octets are read in the encoding that their mark or their label tells.** -/
theorem faithful_decodeAs (legacy : Legacy) : Faithful legacy (decodeAs legacy) where
  marked charset encoding := by
    simp only [decodeAs_mark_append]
    exact encoding.reads_decode
  named charset encoding h := by
    refine ⟨encoding.decode, encoding.reads_decode, fun bytes hbytes => ?_⟩
    rw [decodeAs_of_not_marked hbytes]
    cases charset with
    | none =>
      cases h
      rfl
    | some label => rw [readerOf, ofLabel?_eq_some_iff.2 h]
  older label h := by
    have hnone : Encoding.ofLabel? label = none := by
      cases hlabel : Encoding.ofLabel? label with
      | none => rfl
      | some encoding => exact absurd (ofLabel?_eq_some_iff.1 hlabel) (h encoding)
    refine ⟨(legacy (Encoding.plainLabel label)).getD Utf8.decodeLossy, ?_, fun bytes hbytes => ?_⟩
    · cases hreader : legacy (Encoding.plainLabel label) with
      | some reader => exact .inl rfl
      | none => exact .inr ⟨rfl, Encoding.reads_decode .utf8⟩
    · rw [decodeAs_of_not_marked hbytes, readerOf, hnone]

/-! ### Texts in UTF-8 -/

/-- The byte order mark, which is not part of the text that it begins. -/
def byteOrderMark : Char := '\uFEFF'

theorem head_pieces_encode (text : String) :
    (Utf8.pieces (Utf8.encode text)).head? = text.toList.head?.map Utf8.Piece.scalar := by
  rw [Utf8.pieces_encode, List.head?_map]

/-- The octets of a text that begins with no mark begin with none. -/
theorem not_marked_encode {text : String} (h : text.toList.head? ≠ some byteOrderMark) :
    ¬Marked (Utf8.encode text) := by
  rintro ⟨encoding, rest, hrest⟩
  have hhead := head_pieces_encode text
  rw [← hrest] at hhead
  cases encoding with
  | utf8 =>
    have hmark : text.toList.head?.map Utf8.Piece.scalar = some (.scalar byteOrderMark) :=
      hhead.symm
    obtain ⟨c, hc, hscalar⟩ := Option.map_eq_some_iff.1 hmark
    cases hscalar
    exact h hc
  | utf16 order =>
    -- the marks of UTF-16 begin with an octet that begins no character
    have hinvalid : text.toList.head?.map Utf8.Piece.scalar = some (.invalid 1) := by
      rw [← hhead]
      cases order <;> rfl
    obtain ⟨c, -, hscalar⟩ := Option.map_eq_some_iff.1 hinvalid
    cases hscalar

/-- **A text in UTF-8 that begins with no mark is read as it is**, with the label of UTF-8 or
    with none. -/
theorem decodeAs_encode (legacy : Legacy) {charset : Option String} (hcharset : Names charset .utf8)
    {text : String} (h : text.toList.head? ≠ some byteOrderMark) :
    decodeAs legacy charset (Utf8.encode text) = text := by
  rw [decodeAs_of_not_marked (not_marked_encode h)]
  cases charset with
  | none => exact Utf8.decodeLossy_encode text
  | some label =>
    rw [readerOf, ofLabel?_eq_some_iff.2 hcharset]
    exact Utf8.decodeLossy_encode text

end DidLedger.Text
