/-
  DidLedger/Proofs/Text/Utf8.lean
  ===============================
  **Text that was written in UTF-8 is read back, by either reader.**

  The machine of `Text/Utf8` is fed the octets of one character and ends between
  characters again, having put out that character (`piecesFrom_encodeChar`).  The
  octets of a text are therefore cut into its characters and nothing else, and
  both readers give the text (`decode?_encode`, `decodeLossy_encode`).

  The first octet of a character of three or four octets may leave a narrower
  range for the octet after it.  Which range it is depends on the octet, but the
  octet that was written next always lies in it: this is where the bounds on the
  character and the absence of surrogates are used.

  What is no text is said with the forms that the octets of a character have
  (`forms`), and not with the machine: octets are broken if no form begins with
  them, or if a form begins with them and does not go on (`Broken`).  The lenient
  reader has one mark for each broken run (`decodeLossy_broken`).
-/
import DidLedger.Text.Utf8

namespace DidLedger.Text.Utf8

/-! ### Continuation octets -/

/-- The continuation octet that carries the six low bits of `n`. -/
def continuation (n : Nat) : UInt8 := UInt8.ofNat (n % 0x40 + 0x80)

theorem toNat_continuation (n : Nat) : (continuation n).toNat = n % 0x40 + 0x80 := by
  simp only [continuation, UInt8.toNat_ofNat']
  omega

theorem extend_continuation (p : Pending) (n : Nat) :
    p.extend (continuation n) = p.bits * 0x40 + n % 0x40 := by
  have hoctet := toNat_continuation n
  unfold Pending.extend
  omega

/-- Whether the octet that carries the six low bits of `n` may come next. -/
def Pending.Allows (p : Pending) (n : Nat) : Prop :=
  p.low.toNat ≤ n % 0x40 + 0x80 ∧ n % 0x40 + 0x80 ≤ p.high.toNat

theorem Pending.Allows.inRange {p : Pending} {n : Nat} (h : p.Allows n) :
    p.low ≤ continuation n ∧ continuation n ≤ p.high := by
  simp only [UInt8.le_iff_toNat_le, toNat_continuation]
  exact h

/-- After the octets that have a range of their own every continuation octet may
    come next. -/
theorem Pending.allows_mk (owed bits taken n : Nat) :
    Pending.Allows ⟨owed, 0x80, 0xBF, bits, taken⟩ n := by
  constructor
  · exact Nat.le_add_left _ _
  · show n % 0x40 + 0x80 ≤ 0xBF
    omega

theorem piecesFrom_last (low high : UInt8) (bits taken n : Nat) (rest : List UInt8)
    (h : Pending.Allows ⟨1, low, high, bits, taken⟩ n) :
    piecesFrom (some ⟨1, low, high, bits, taken⟩) (continuation n :: rest) =
      .scalar (Char.ofNat (bits * 0x40 + n % 0x40)) :: piecesFrom none rest := by
  rw [piecesFrom, if_pos h.inRange, if_pos rfl, extend_continuation]

theorem piecesFrom_more (owed : Nat) (low high : UInt8) (bits taken n : Nat) (rest : List UInt8)
    (h : Pending.Allows ⟨owed + 2, low, high, bits, taken⟩ n) :
    piecesFrom (some ⟨owed + 2, low, high, bits, taken⟩) (continuation n :: rest) =
      piecesFrom (some ⟨owed + 1, 0x80, 0xBF, bits * 0x40 + n % 0x40, taken + 1⟩) rest := by
  rw [piecesFrom, if_pos h.inRange, if_neg (by simp), extend_continuation]
  rfl

/-! ### First octets -/

theorem opening_two {n : Nat} (hlow : 0x80 ≤ n) (hhigh : n ≤ 0x7FF) :
    opening (UInt8.ofNat (n / 0x40 % 0x20 + 0xC0)) = .more ⟨1, 0x80, 0xBF, n / 0x40, 1⟩ := by
  have hoctet : (UInt8.ofNat (n / 0x40 % 0x20 + 0xC0)).toNat = n / 0x40 + 0xC0 := by
    simp only [UInt8.toNat_ofNat']
    omega
  simp only [opening, hoctet]
  rw [if_neg (by omega), if_neg (by omega), if_pos (by omega), Nat.add_sub_cancel]

theorem opening_three {n : Nat} (hlow : 0x800 ≤ n) (hhigh : n ≤ 0xFFFF)
    (hsurrogate : n < 0xD800 ∨ 0xDFFF < n) :
    ∃ low high : UInt8,
      opening (UInt8.ofNat (n / 0x1000 % 0x10 + 0xE0)) = .more ⟨2, low, high, n / 0x1000, 1⟩ ∧
        Pending.Allows ⟨2, low, high, n / 0x1000, 1⟩ (n / 0x40) := by
  have hoctet : (UInt8.ofNat (n / 0x1000 % 0x10 + 0xE0)).toNat = n / 0x1000 + 0xE0 := by
    simp only [UInt8.toNat_ofNat']
    omega
  simp only [opening, hoctet]
  rw [if_neg (by omega), if_neg (by omega), if_neg (by omega)]
  by_cases h0 : n / 0x1000 = 0
  · -- overlong forms are kept out
    refine ⟨0xA0, 0xBF, by simp [h0], ?_, ?_⟩
    · show 0xA0 ≤ n / 0x40 % 0x40 + 0x80
      omega
    · show n / 0x40 % 0x40 + 0x80 ≤ 0xBF
      omega
  · rw [if_neg (by omega)]
    by_cases hd : n / 0x1000 = 0xD
    · -- surrogates are kept out
      refine ⟨0x80, 0x9F, by simp [hd], ?_, ?_⟩
      · show 0x80 ≤ n / 0x40 % 0x40 + 0x80
        omega
      · show n / 0x40 % 0x40 + 0x80 ≤ 0x9F
        omega
    · rw [if_neg (by omega), if_pos (by omega)]
      exact ⟨0x80, 0xBF, by simp, Pending.allows_mk _ _ _ _⟩

theorem opening_four {n : Nat} (hlow : 0x10000 ≤ n) (hhigh : n ≤ 0x10FFFF) :
    ∃ low high : UInt8,
      opening (UInt8.ofNat (n / 0x40000 % 0x08 + 0xF0)) = .more ⟨3, low, high, n / 0x40000, 1⟩ ∧
        Pending.Allows ⟨3, low, high, n / 0x40000, 1⟩ (n / 0x1000) := by
  have hoctet : (UInt8.ofNat (n / 0x40000 % 0x08 + 0xF0)).toNat = n / 0x40000 + 0xF0 := by
    simp only [UInt8.toNat_ofNat']
    omega
  simp only [opening, hoctet]
  rw [if_neg (by omega), if_neg (by omega), if_neg (by omega), if_neg (by omega),
    if_neg (by omega), if_neg (by omega)]
  by_cases h0 : n / 0x40000 = 0
  · -- overlong forms are kept out
    refine ⟨0x90, 0xBF, by simp [h0], ?_, ?_⟩
    · show 0x90 ≤ n / 0x1000 % 0x40 + 0x80
      omega
    · show n / 0x1000 % 0x40 + 0x80 ≤ 0xBF
      omega
  · rw [if_neg (by omega)]
    by_cases h4 : n / 0x40000 = 4
    · -- values above 10FFFF are kept out
      refine ⟨0x80, 0x8F, by simp [h4], ?_, ?_⟩
      · show 0x80 ≤ n / 0x1000 % 0x40 + 0x80
        omega
      · show n / 0x1000 % 0x40 + 0x80 ≤ 0x8F
        omega
    · rw [if_pos (by omega)]
      exact ⟨0x80, 0xBF, by simp, Pending.allows_mk _ _ _ _⟩

/-! ### Characters and texts -/

/-- **The octets of a character are cut into that character.** -/
theorem piecesFrom_encodeChar (c : Char) (rest : List UInt8) :
    piecesFrom none (String.utf8EncodeChar c ++ rest) = .scalar c :: piecesFrom none rest := by
  have hvalid : c.toNat < 0xD800 ∨ 0xDFFF < c.toNat ∧ c.toNat < 0x110000 := c.valid
  have hchar : ∀ n, n = c.toNat → Char.ofNat n = c := by
    intro n hn
    rw [hn, Char.ofNat_toNat]
  have hval : c.val.toNat = c.toNat := rfl
  simp only [String.utf8EncodeChar, hval]
  split
  · -- one octet
    have hoctet : (UInt8.ofNat c.toNat).toNat = c.toNat := by
      simp only [UInt8.toNat_ofNat']
      omega
    simp only [List.cons_append, List.nil_append, piecesFrom, opening, hoctet]
    rw [if_pos (by omega), hchar _ rfl]
  split
  · -- two octets
    simp only [List.cons_append, List.nil_append]
    rw [piecesFrom, opening_two (by omega) (by omega)]
    change piecesFrom _ (continuation c.toNat :: rest) = _
    rw [piecesFrom_last _ _ _ _ _ _ (Pending.allows_mk _ _ _ _), hchar]
    omega
  split
  · -- three octets
    obtain ⟨low, high, hopening, hallows⟩ :=
      opening_three (n := c.toNat) (by omega) (by omega) (by omega)
    simp only [List.cons_append, List.nil_append]
    rw [piecesFrom, hopening]
    change piecesFrom _ (continuation (c.toNat / 0x40) :: continuation c.toNat :: rest) = _
    rw [piecesFrom_more 0 _ _ _ _ _ _ hallows,
      piecesFrom_last _ _ _ _ _ _ (Pending.allows_mk _ _ _ _), hchar]
    omega
  · -- four octets
    obtain ⟨low, high, hopening, hallows⟩ := opening_four (n := c.toNat) (by omega) (by omega)
    simp only [List.cons_append, List.nil_append]
    rw [piecesFrom, hopening]
    change piecesFrom _ (continuation (c.toNat / 0x1000) :: continuation (c.toNat / 0x40) ::
      continuation c.toNat :: rest) = _
    rw [piecesFrom_more 1 _ _ _ _ _ _ hallows,
      piecesFrom_more 0 _ _ _ _ _ _ (Pending.allows_mk _ _ _ _),
      piecesFrom_last _ _ _ _ _ _ (Pending.allows_mk _ _ _ _), hchar]
    omega

theorem pieces_encode_append (s : String) (rest : List UInt8) :
    pieces (encode s ++ rest) = s.toList.map .scalar ++ pieces rest := by
  unfold encode
  induction s.toList with
  | nil => rfl
  | cons c cs ih =>
    rw [List.flatMap_cons, List.append_assoc, pieces, piecesFrom_encodeChar, List.map_cons]
    exact congrArg _ ih

theorem pieces_encode (s : String) : pieces (encode s) = s.toList.map .scalar := by
  have h := pieces_encode_append s []
  have hnil : pieces [] = [] := rfl
  rwa [List.append_nil, hnil, List.append_nil] at h

theorem scalars?_map_scalar (index : Nat) (cs : List Char) :
    scalars? index (cs.map .scalar) = .ok cs := by
  induction cs generalizing index with
  | nil => rfl
  | cons c cs ih =>
    rw [List.map_cons, scalars?, ih]
    rfl

/-- **The strict reader undoes writing.** -/
@[simp] theorem decode?_encode (s : String) : decode? (encode s) = .ok s := by
  rw [decode?, pieces_encode, scalars?_map_scalar]
  exact congrArg Except.ok String.ofList_toList

/-- **The lenient reader undoes writing.** -/
@[simp] theorem decodeLossy_encode (s : String) : decodeLossy (encode s) = s := by
  have hshown : Piece.shown ∘ Piece.scalar = id := rfl
  rw [decodeLossy, pieces_encode, List.map_map, hshown, List.map_id, String.ofList_toList]

/-! ### What is no text -/

/-- Octets from one to another, both included. -/
abbrev Span := UInt8 × UInt8

/-- The forms that the octets of a character have. -/
def forms : List (List Span) :=
  [[(0x00, 0x7F)],
   [(0xC2, 0xDF), (0x80, 0xBF)],
   [(0xE0, 0xE0), (0xA0, 0xBF), (0x80, 0xBF)],
   [(0xE1, 0xEC), (0x80, 0xBF), (0x80, 0xBF)],
   [(0xED, 0xED), (0x80, 0x9F), (0x80, 0xBF)],
   [(0xEE, 0xEF), (0x80, 0xBF), (0x80, 0xBF)],
   [(0xF0, 0xF0), (0x90, 0xBF), (0x80, 0xBF), (0x80, 0xBF)],
   [(0xF1, 0xF3), (0x80, 0xBF), (0x80, 0xBF), (0x80, 0xBF)],
   [(0xF4, 0xF4), (0x80, 0x8F), (0x80, 0xBF), (0x80, 0xBF)]]

def Span.Holds (span : Span) (b : UInt8) : Prop := span.1 ≤ b ∧ b ≤ span.2

instance (span : Span) (b : UInt8) : Decidable (span.Holds b) :=
  inferInstanceAs (Decidable (_ ∧ _))

/-- Octets that lie in the spans of a list, one in each. -/
def LieIn : List UInt8 → List Span → Prop
  | [], [] => True
  | b :: run, span :: spans => span.Holds b ∧ LieIn run spans
  | _, _ => False

/-- Whether a form begins with octets, and goes on with `back`. -/
def Leaves (run : List UInt8) (back : List Span) : Prop :=
  ∃ front, front ++ back ∈ forms ∧ LieIn run front

/-- Octets that are no character, in front of `rest`: one that begins none, or the beginning
    of one that does not go on. -/
inductive Broken : List UInt8 → List UInt8 → Prop
  | stray {b : UInt8} {rest : List UInt8} (h : ∀ back, ¬Leaves [b] back) : Broken [b] rest
  | cutOff {run rest : List UInt8} {back : List Span} (hrun : run ≠ []) (hback : back ≠ [])
      (h : Leaves run back) (hstop : ∀ b ∈ rest.head?, ∀ back', ¬Leaves (run ++ [b]) back') :
      Broken run rest

theorem lieIn_append {run : List UInt8} {front : List Span} (h : LieIn run front) {b : UInt8}
    {span : Span} (hb : span.Holds b) : LieIn (run ++ [b]) (front ++ [span]) := by
  induction run, front using LieIn.induct with
  | case1 => exact ⟨hb, trivial⟩
  | case2 d run other spans ih => exact ⟨h.1, ih h.2⟩
  | case3 run spans hnil hcons => simp [LieIn] at h

/-- Whether a character under way waits for octets of the given spans. -/
def Pending.awaits (p : Pending) (spans : List Span) : Bool :=
  p.owed == spans.length && spans.head? == some (p.low, p.high) &&
    spans.tail.all (· == (0x80, 0xBF))

theorem Pending.awaits_iff {p : Pending} {spans : List Span} :
    p.awaits spans = true ↔ (p.owed = spans.length ∧ spans.head? = some (p.low, p.high)) ∧
      ∀ span ∈ spans.tail, span = (0x80, 0xBF) := by
  simp only [awaits, Bool.and_eq_true, beq_iff_eq, List.all_eq_true]

/-- Whether a form begins with an octet. -/
def opens (b : UInt8) : List Span → Bool
  | [] => false
  | span :: _ => decide (span.Holds b)

/-- Whether the machine takes a first octet as the forms do. -/
def Opening.agrees (b : UInt8) : Opening → Bool
  | .done (.invalid n) => n == 1 && !forms.any (opens b)
  | .done _ => forms.any (opens b) && forms.all fun form => !opens b form || form.tail.isEmpty
  | .more p => forms.any (opens b) && forms.all fun form => !opens b form || p.awaits form.tail

theorem agrees_opening (b : UInt8) : (opening b).agrees b = true := by
  have hall : ∀ n : Fin 256, (opening (UInt8.ofNat n)).agrees (UInt8.ofNat n) = true := by
    decide +kernel
  have hb := hall ⟨b.toNat, b.toNat_lt⟩
  rwa [UInt8.ofNat_toNat] at hb

theorem any_opens_iff {b : UInt8} :
    forms.any (opens b) = true ↔ ∃ back, Leaves [b] back := by
  rw [List.any_eq_true]
  constructor
  · rintro ⟨form, hform, hopens⟩
    cases form with
    | nil => cases hopens
    | cons span back => exact ⟨back, [span], hform, of_decide_eq_true hopens, trivial⟩
  · rintro ⟨back, front, hform, hlie⟩
    cases front with
    | nil => cases hlie
    | cons span front => exact ⟨_, hform, decide_eq_true hlie.1⟩

/-- An octet that begins no form is a piece of its own. -/
theorem opening_of_stray {b : UInt8} (h : ∀ back, ¬Leaves [b] back) :
    opening b = .done (.invalid 1) := by
  have hnone : forms.any (opens b) = false := by
    rw [← Bool.not_eq_true, any_opens_iff]
    rintro ⟨back, hleaves⟩
    exact h back hleaves
  have hagrees := agrees_opening b
  cases hopening : opening b with
  | more p => simp [hopening, Opening.agrees, hnone] at hagrees
  | done piece =>
    cases piece with
    | scalar c => simp [hopening, Opening.agrees, hnone] at hagrees
    | cutOff n => simp [hopening, Opening.agrees, hnone] at hagrees
    | invalid n =>
      simp only [hopening, Opening.agrees, Bool.and_eq_true, beq_iff_eq] at hagrees
      rw [hagrees.1]

/-- The first octet of a form that goes on leaves the machine waiting for the others. -/
theorem exists_opening {b : UInt8} {span : Span} {back : List Span} (hform : span :: back ∈ forms)
    (hb : span.Holds b) (hback : back ≠ []) :
    ∃ p, opening b = .more p ∧ p.awaits back = true := by
  have hopens : opens b (span :: back) = true := decide_eq_true hb
  have hany : forms.any (opens b) = true := List.any_eq_true.2 ⟨_, hform, hopens⟩
  have hends : ∀ keeps : List Span → Bool,
      (forms.all fun form => !opens b form || keeps form.tail) = true → keeps back = true := by
    intro keeps hall
    simpa [hopens] using List.all_eq_true.1 hall _ hform
  have hagrees := agrees_opening b
  cases hopening : opening b with
  | more p =>
    simp only [hopening, Opening.agrees, Bool.and_eq_true] at hagrees
    exact ⟨p, rfl, hends _ hagrees.2⟩
  | done piece =>
    cases piece with
    | scalar c =>
      simp only [hopening, Opening.agrees, Bool.and_eq_true] at hagrees
      exact absurd (List.isEmpty_iff.1 (hends _ hagrees.2)) hback
    | cutOff n =>
      simp only [hopening, Opening.agrees, Bool.and_eq_true] at hagrees
      exact absurd (List.isEmpty_iff.1 (hends _ hagrees.2)) hback
    | invalid n => simp [hopening, Opening.agrees, hany] at hagrees

theorem exists_awaits_tail {p : Pending} {span next : Span} {spans : List Span}
    (h : p.awaits (span :: next :: spans) = true) {b : UInt8} (hb : span.Holds b) :
    ∃ q : Pending, q.awaits (next :: spans) = true ∧
      ∀ rest, piecesFrom (some p) (b :: rest) = piecesFrom (some q) rest := by
  obtain ⟨⟨howed, hhead⟩, htail⟩ := Pending.awaits_iff.1 h
  have hnext : next = (0x80, 0xBF) := htail next List.mem_cons_self
  cases hhead
  have hrange : p.low ≤ b ∧ b ≤ p.high := hb
  refine ⟨⟨p.owed - 1, 0x80, 0xBF, p.extend b, p.taken + 1⟩,
    Pending.awaits_iff.2 ⟨⟨?_, ?_⟩, ?_⟩, ?_⟩
  · simp [howed]
  · rw [hnext, List.head?_cons]
  · exact fun span hspan => htail span (List.mem_cons_of_mem _ hspan)
  · intro rest
    rw [piecesFrom, if_pos hrange, if_neg (by simp [howed])]

/-- What lies in the spans that come first is taken in. -/
theorem exists_awaits_back {run : List UInt8} {front back : List Span} (hrun : LieIn run front)
    (hback : back ≠ []) {p : Pending} (h : p.awaits (front ++ back) = true) :
    ∃ q : Pending, q.awaits back = true ∧
      ∀ rest, piecesFrom (some p) (run ++ rest) = piecesFrom (some q) rest := by
  induction run, front using LieIn.induct generalizing p with
  | case1 => exact ⟨p, h, fun _ => rfl⟩
  | case2 b run span spans ih =>
    obtain ⟨next, others, hothers⟩ :=
      List.exists_cons_of_ne_nil (List.append_ne_nil_of_right_ne_nil spans hback)
    rw [List.cons_append, hothers] at h
    obtain ⟨q, hq, hstep⟩ := exists_awaits_tail h hrun.1
    rw [← hothers] at hq
    obtain ⟨r, hr, hsteps⟩ := ih hrun.2 hq
    exact ⟨r, hr, fun rest => (hstep _).trans (hsteps rest)⟩
  | case3 run spans hnil hcons => simp [LieIn] at hrun

/-- A character that does not go on is shown as one mark. -/
theorem exists_piece_of_awaits {q : Pending} {back : List Span} (h : q.awaits back = true)
    {rest : List UInt8} (hstop : ∀ b ∈ rest.head?, ∀ span ∈ back.head?, ¬span.Holds b) :
    ∃ piece, Piece.shown piece = replacement ∧
      piecesFrom (some q) rest = piece :: pieces rest := by
  cases rest with
  | nil => exact ⟨.cutOff q.taken, rfl, rfl⟩
  | cons b rest =>
    have hout : ¬(q.low ≤ b ∧ b ≤ q.high) := hstop b rfl (q.low, q.high) (Pending.awaits_iff.1 h).1.2
    refine ⟨.invalid q.taken, rfl, ?_⟩
    rw [piecesFrom, if_neg hout]
    rfl

/-- **Broken octets are cut off as one piece.** -/
theorem exists_piece_of_broken {run rest : List UInt8} (h : Broken run rest) :
    ∃ piece, Piece.shown piece = replacement ∧ pieces (run ++ rest) = piece :: pieces rest := by
  cases h with
  | stray h =>
    refine ⟨.invalid 1, rfl, ?_⟩
    rw [List.singleton_append, pieces, piecesFrom, opening_of_stray h]
    rfl
  | cutOff hrun hback h hstop =>
    rename_i back
    obtain ⟨front, hform, hlie⟩ := h
    have hends : ∀ b ∈ rest.head?, ∀ span ∈ back.head?, ¬span.Holds b := by
      intro b hb span hspan hholds
      obtain ⟨back', rfl⟩ := List.head?_eq_some_iff.1 hspan
      refine hstop b hb back' ⟨front ++ [span], ?_, lieIn_append hlie hholds⟩
      rwa [List.append_assoc, List.singleton_append]
    cases run with
    | nil => exact absurd rfl hrun
    | cons b run =>
      cases front with
      | nil => cases hlie
      | cons span front =>
        obtain ⟨p, hopening, hp⟩ := exists_opening hform hlie.1
          (List.append_ne_nil_of_right_ne_nil front hback)
        obtain ⟨q, hq, hsteps⟩ := exists_awaits_back hlie.2 hback hp
        obtain ⟨piece, hshown, hpiece⟩ := exists_piece_of_awaits hq hends
        refine ⟨piece, hshown, ?_⟩
        rw [List.cons_append, pieces, piecesFrom, hopening]
        exact (hsteps rest).trans hpiece

/-- **In place of each broken run the lenient reader has one mark.** -/
theorem decodeLossy_broken {run rest : List UInt8} (h : Broken run rest) (s : String) :
    decodeLossy (encode s ++ (run ++ rest)) = s ++ ("\uFFFD" ++ decodeLossy rest) := by
  obtain ⟨piece, hshown, hpieces⟩ := exists_piece_of_broken h
  have hscalar : Piece.shown ∘ Piece.scalar = id := rfl
  have hmark : "\uFFFD" = String.ofList [replacement] := rfl
  rw [decodeLossy, pieces_encode_append, hpieces, List.map_append, List.map_cons, hshown,
    List.map_map, hscalar, List.map_id, String.ofList_append, String.ofList_toList,
    ← List.singleton_append, String.ofList_append, hmark, decodeLossy]

end DidLedger.Text.Utf8
