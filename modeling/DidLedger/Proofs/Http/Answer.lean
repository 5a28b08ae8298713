/-
  DidLedger/Proofs/Http/Answer.lean
  =================================
  **The text of a response is the text that was sent.**

  A body in UTF-8 has its own text unless that text begins with a byte order
  mark.  So a value that was written as the text of a successful response is the
  answer, and a text that was sent with another status is the body of the
  rejection.
-/
import DidLedger.Http.Client
import DidLedger.Proofs.Json.RoundTrip
import DidLedger.Proofs.Text.Charset

namespace DidLedger.Http

open DidLedger.Text

/-- **A text that begins with no mark is the text of its octets.** -/
theorem bodyText_encode (client : Client) {status : UInt16} {charset location : Option String}
    (hcharset : Names charset .utf8) {text : String}
    (h : text.toList.head? ≠ some byteOrderMark) :
    bodyText client ⟨status, charset, location⟩ (Utf8.encode text) = text :=
  decodeAs_encode client.legacy hcharset h

/-! ### Answers -/

theorem answerOf_rejected {status : UInt16} (h : isSuccess status = false) (text : String) :
    answerOf status text = .error (.rejected status text) := by
  simp [answerOf, h]

theorem isBlank_render (v : Json) : Blank.isBlank v.render = false := by
  obtain ⟨c, cs, hcs, hopens⟩ := Json.Parser.head_chars v
  simp [Blank.isBlank, Json.render, hcs, hopens.not_isSpace]

theorem head_render_ne_mark (v : Json) : v.render.toList.head? ≠ some byteOrderMark := by
  obtain ⟨c, cs, hcs, hopens⟩ := Json.Parser.head_chars v
  rw [Json.render, String.toList_ofList, hcs, List.head?_cons, ne_eq, Option.some.injEq]
  rintro rfl
  exact absurd hopens.isAscii (by decide)

/-- **A value that was sent with a status of success is the answer.** -/
theorem answerOf_render {status : UInt16} (h : isSuccess status = true) {v : Json}
    (hv : v.Portable Json.Parser.maxDepth) : answerOf status v.render = .ok v := by
  simp [answerOf, h, isBlank_render v, Json.parse?_render hv]

end DidLedger.Http
