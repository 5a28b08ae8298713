/-
  DidLedger/Proofs/Json/RoundTrip.lean
  ====================================
  **A value that was written as compact text is read back.**

  `value?_chars` is the statement that the induction needs: the reader is given
  the characters of a value and anything after them that cannot go on a numeral,
  and it takes the characters of the value and gives its tree.  The induction is
  over the value; elements and members are the values in front of the others.
  Twice the number of characters is fuel enough, since an array or an object
  takes two steps before its first element and has two characters of its own.

  What a text loses is the exact value of a floating-point number and what is nested
  too deep; its tree has the members where they were (`Exact.tree?_render`), and only
  the value of the tree has them in order.  So a value that is well formed and has at
  most 127 levels reads as itself but for its floating-point numbers (`reread`,
  `parse?_render_reread`), and if it has none of these, as itself
  (`parse?_render`).  Every such text has something in it: a text of white space alone
  is no value (`parse?_of_isBlank`).
-/
import DidLedger.Proofs.Json.Reals
import DidLedger.Proofs.Json.Sorted
import DidLedger.Text.Blank

namespace DidLedger.Json

open DidLedger.Text

mutual

/-- No number in the value is a floating-point number. -/
def Integral : Json → Prop
  | .number (.real _) => False
  | .array elements => IntegralElements elements
  | .object members => IntegralMembers members
  | _ => True

/-- All elements are integral. -/
def IntegralElements : List Json → Prop
  | [] => True
  | e :: es => e.Integral ∧ IntegralElements es

/-- The values of all members are integral. -/
def IntegralMembers : List (String × Json) → Prop
  | [] => True
  | (_, v) :: ms => v.Integral ∧ IntegralMembers ms

end

mutual

/-- How many arrays and objects stand inside each other. -/
def depth : Json → Nat
  | .array elements => depthElements elements + 1
  | .object members => depthMembers members + 1
  | _ => 0

/-- The depth of the deepest element. -/
def depthElements : List Json → Nat
  | [] => 0
  | e :: es => max e.depth (depthElements es)

/-- The depth of the deepest member. -/
def depthMembers : List (String × Json) → Nat
  | [] => 0
  | (_, v) :: ms => max v.depth (depthMembers ms)

end

/-! ### Numbers -/

/-- What the text of a number reads as. -/
def Number.reread : Number → Number
  | .integer n => .integer n
  | .real x => .real ((Parser.realNumeral x).real?.getD x)

mutual

/-- The value with every number reread. -/
def reread : Json → Json
  | .null => .null
  | .bool b => .bool b
  | .number n => .number n.reread
  | .string s => .string s
  | .array elements => .array (rereadElements elements)
  | .object members => .object (rereadMembers members)

def rereadElements : List Json → List Json
  | [] => []
  | e :: es => e.reread :: rereadElements es

def rereadMembers : List (String × Json) → List (String × Json)
  | [] => []
  | (k, v) :: ms => (k, v.reread) :: rereadMembers ms

end

mutual

/-- Without floating-point numbers there is nothing to lose. -/
theorem reread_of_integral : (v : Json) → v.Integral → v.reread = v
  | .null, _ => rfl
  | .bool _, _ => rfl
  | .number (.integer _), _ => rfl
  | .number (.real _), h => h.elim
  | .string _, _ => rfl
  | .array elements, h => congrArg Json.array (rereadElements_of_integral elements h)
  | .object members, h => congrArg Json.object (rereadMembers_of_integral members h)

theorem rereadElements_of_integral : (elements : List Json) → IntegralElements elements →
    rereadElements elements = elements
  | [], _ => rfl
  | e :: es, h => by
    rw [rereadElements, reread_of_integral e h.1, rereadElements_of_integral es h.2]

theorem rereadMembers_of_integral : (members : List (String × Json)) →
    IntegralMembers members → rereadMembers members = members
  | [], _ => rfl
  | (k, v) :: ms, h => by
    rw [rereadMembers, reread_of_integral v h.1, rereadMembers_of_integral ms h.2]

end

theorem keys_rereadMembers (members : List (String × Json)) :
    (rereadMembers members).map Prod.fst = members.map Prod.fst := by
  induction members with
  | nil => rfl
  | cons m ms ih =>
    obtain ⟨k, v⟩ := m
    rw [rereadMembers, List.map_cons, List.map_cons, ih]

mutual

theorem WellFormed.reread : (v : Json) → v.WellFormed → v.reread.WellFormed
  | .null, _ => trivial
  | .bool _, _ => trivial
  | .number (.integer _), h => h
  | .number (.real _), _ => trivial
  | .string _, _ => trivial
  | .array elements, h => WellFormedElements.reread elements h
  | .object members, h => by
    refine ⟨?_, WellFormedMembers.reread members h.2⟩
    rw [← List.pairwise_map (f := Prod.fst) (R := (· < ·)), keys_rereadMembers, List.pairwise_map]
    exact h.1

theorem WellFormedElements.reread : (elements : List Json) → WellFormedElements elements →
    WellFormedElements (rereadElements elements)
  | [], _ => trivial
  | e :: es, h => ⟨WellFormed.reread e h.1, WellFormedElements.reread es h.2⟩

theorem WellFormedMembers.reread : (members : List (String × Json)) → WellFormedMembers members →
    WellFormedMembers (rereadMembers members)
  | [], _ => trivial
  | (_, v) :: ms, h => ⟨WellFormed.reread v h.1, WellFormedMembers.reread ms h.2⟩

end

namespace Parser

def numberNumeral : Number → Numeral
  | .integer n => integerNumeral n
  | .real x => realNumeral x

theorem proper_numberNumeral (n : Number) : Proper (numberNumeral n) := by
  cases n with
  | integer n => exact proper_integerNumeral n
  | real x => exact proper_realNumeral x

theorem numeralChars_numberNumeral (n : Number) : numeralChars (numberNumeral n) = n.chars := by
  cases n with
  | integer n => exact numeralChars_integerNumeral n
  | real x => exact numeralChars_realNumeral x

theorem value?_numberNumeral {n : Number} (h : (Json.number n).Fits) :
    (numberNumeral n).value? = some n.reread := by
  cases n with
  | integer n => exact value?_integerNumeral h.1 h.2
  | real x =>
    obtain ⟨y, hy⟩ := exists_real?_realNumeral x
    simp only [numberNumeral, Number.reread, Numeral.value?, integer?_realNumeral, hy,
      Option.map_some, Option.getD_some]

/-- **A number is read back.** -/
theorem numeral?_number (n : Number) {rest : List Char} (hrest : EndsNumeral rest) :
    numeral? (n.chars ++ rest) = some (numberNumeral n, rest) := by
  rw [← numeralChars_numberNumeral]
  exact numeral?_chars (proper_numberNumeral n) hrest

theorem head_number (n : Number) : ∃ c cs, n.chars = c :: cs ∧ (c.isDigit = true ∨ c = '-') := by
  rw [← numeralChars_numberNumeral]
  exact head_numeralChars (proper_numberNumeral n)

/-! ### The front of a value -/

theorem skipBlanks_cons {c : Char} (h : isBlank c = false) (cs : List Char) :
    skipBlanks (c :: cs) = c :: cs := by
  simp [skipBlanks, h]

theorem endsNumeral_cons {c : Char}
    (h : c.isDigit = false ∧ c ≠ '.' ∧ c ≠ 'e' ∧ c ≠ 'E') (rest : List Char) :
    EndsNumeral (c :: rest) := by
  intro d hd
  cases hd
  exact h

theorem isBlank_of_isSpace {c : Char} (h : Blank.isSpace c = false) : isBlank c = false := by
  simp only [isBlank, Bool.or_eq_false_iff, beq_eq_false_iff_ne, ne_eq]
  refine ⟨⟨⟨?_, ?_⟩, ?_⟩, ?_⟩ <;>
    · rintro rfl
      exact absurd h (by decide)

theorem isSpace_of_isDigit_or_minus {c : Char} (h : c.isDigit = true ∨ c = '-') :
    Blank.isSpace c = false := by
  rcases h with h | rfl
  · have hrange : 48 ≤ c.toNat ∧ c.toNat ≤ 57 := Char.isDigit_iff_toNat.1 h
    have hapart : ∀ r ∈ Blank.spaceRanges, r.2 < 48 ∨ 57 < r.1 := by decide
    rw [Blank.isSpace, List.any_eq_false]
    intro r hr
    have hr := hapart r hr
    simp only [Bool.and_eq_true, decide_eq_true_eq]
    omega
  · decide

/-- What begins like a numeral is read as one. -/
theorem value?_numeral {c : Char} (h : c.isDigit = true ∨ c = '-') (fuel depth : Nat)
    (cs : List Char) :
    value? (fuel + 1) depth (c :: cs) =
      (numeral? (c :: cs)).map fun (n, r) => (part (n.value?.map .number), r) := by
  unfold value?
  rw [skipBlanks_cons (isBlank_of_isSpace (isSpace_of_isDigit_or_minus h))]
  split <;> first
    | rfl
    | · rename_i heq
        cases heq
        exact absurd h (by decide)

theorem value?_array {c : Char} (hblank : isBlank c = false) (hclose : c ≠ ']')
    (fuel depth : Nat) (cs : List Char) :
    value? (fuel + 1) (depth + 1) ('[' :: c :: cs) =
      (elements? fuel depth (c :: cs)).map fun (es, r) => (.array es, r) := by
  rw [value?, skipBlanks_cons rfl]
  simp only [skipBlanks_cons hblank]
  split
  · rename_i heq
    cases heq
    exact absurd rfl hclose
  · rfl

theorem value?_object {c : Char} (hblank : isBlank c = false) (hclose : c ≠ '}')
    (fuel depth : Nat) (cs : List Char) :
    value? (fuel + 1) (depth + 1) ('{' :: c :: cs) =
      (members? fuel depth (c :: cs)).map fun (ms, r) => (.object ms, r) := by
  rw [value?, skipBlanks_cons rfl]
  simp only [skipBlanks_cons hblank]
  split
  · rename_i heq
    cases heq
    exact absurd rfl hclose
  · rfl

/-- What the first character of a value is like. -/
structure Opens (c : Char) : Prop where
  isAscii : c.toNat < 0x80
  not_isSpace : Blank.isSpace c = false
  not_close : c ≠ ']'

theorem opens_of_isDigit_or_minus {c : Char} (h : c.isDigit = true ∨ c = '-') : Opens c := by
  refine ⟨?_, isSpace_of_isDigit_or_minus h, ?_⟩
  · rcases h with h | rfl
    · have hrange : 48 ≤ c.toNat ∧ c.toNat ≤ 57 := Char.isDigit_iff_toNat.1 h
      omega
    · decide
  · rintro rfl
    exact absurd h (by decide)

theorem head_chars (v : Json) : ∃ c cs, v.chars = c :: cs ∧ Opens c := by
  match v with
  | .null => exact ⟨'n', _, rfl, by decide, by decide, by decide⟩
  | .bool true => exact ⟨'t', _, rfl, by decide, by decide, by decide⟩
  | .bool false => exact ⟨'f', _, rfl, by decide, by decide, by decide⟩
  | .number n =>
    obtain ⟨c, cs, hcs, hc⟩ := head_number n
    exact ⟨c, cs, hcs, opens_of_isDigit_or_minus hc⟩
  | .string s => exact ⟨'"', _, rfl, by decide, by decide, by decide⟩
  | .array [] => exact ⟨'[', _, rfl, by decide, by decide, by decide⟩
  | .array (e :: es) => exact ⟨'[', _, rfl, by decide, by decide, by decide⟩
  | .object [] => exact ⟨'{', _, rfl, by decide, by decide, by decide⟩
  | .object (m :: ms) => exact ⟨'{', _, rfl, by decide, by decide, by decide⟩

/-! ### Values, elements and members -/

/-- The elements of an array with its end. -/
def elementChars : List Json → List Char
  | [] => []
  | e :: es => e.chars ++ moreElements es

/-- The members of an object with its end. -/
def memberChars : List (String × Json) → List Char
  | [] => []
  | (k, v) :: ms => quoted k ++ ':' :: v.chars ++ moreMembers ms

theorem moreElements_cons (e : Json) (es : List Json) :
    moreElements (e :: es) = ',' :: elementChars (e :: es) := rfl

theorem moreMembers_cons (m : String × Json) (ms : List (String × Json)) :
    moreMembers (m :: ms) = ',' :: memberChars (m :: ms) := rfl

theorem chars_array_cons (e : Json) (es : List Json) :
    (Json.array (e :: es)).chars = '[' :: elementChars (e :: es) := rfl

theorem chars_object_cons (m : String × Json) (ms : List (String × Json)) :
    (Json.object (m :: ms)).chars = '{' :: memberChars (m :: ms) := rfl

mutual

theorem value?_chars : (v : Json) → v.Fits → ∀ {fuel depth : Nat},
    v.depth ≤ depth → 2 * v.chars.length ≤ fuel → ∀ {rest : List Char}, EndsNumeral rest →
    value? fuel depth (v.chars ++ rest) = some (.ofJson v.reread, rest)
  | v, hv, fuel, depth, hdepth, hfuel, rest, hrest => by
    obtain ⟨c, cs, hcs, -⟩ := head_chars v
    -- every value has a character, so there is fuel for one step
    have hpositive : 0 < v.chars.length := by simp [hcs]
    obtain ⟨fuel, rfl⟩ : ∃ f, fuel = f + 1 := ⟨fuel - 1, by omega⟩
    match v with
    | .null => rfl
    | .bool true => rfl
    | .bool false => rfl
    | .number n =>
      obtain ⟨c, cs, hcs, hc⟩ := head_number n
      have hread := numeral?_number n hrest
      have hchars : (Json.number n).chars = c :: cs := hcs
      rw [hcs] at hread
      rw [hchars, List.cons_append, value?_numeral hc, ← List.cons_append, hread]
      simp only [Option.map_some, value?_numberNumeral hv]
      rfl
    | .string s =>
      have hchars : (Json.string s).chars ++ rest =
          '"' :: (s.toList.flatMap escape ++ '"' :: rest) := by
        simp [chars, quoted]
      rw [hchars]
      simp only [value?, skipBlanks_cons (show isBlank '"' = false from rfl), stringTail_quoted]
      rfl
    | .array [] =>
      obtain ⟨depth, rfl⟩ : ∃ d, depth = d + 1 := ⟨depth - 1, (Nat.succ_pred_eq_of_pos hdepth).symm⟩
      rfl
    | .array (e :: es) =>
      rw [Json.depth] at hdepth
      obtain ⟨depth, rfl⟩ : ∃ d, depth = d + 1 := ⟨depth - 1, by omega⟩
      rw [chars_array_cons, List.length_cons] at hfuel
      have hread := elements?_chars (e :: es) (List.cons_ne_nil _ _) hv
        (show _ ≤ depth by omega) (show _ ≤ fuel by omega) rest
      obtain ⟨c, cs, hcs, hopens⟩ := head_chars e
      have hfront : elementChars (e :: es) ++ rest = c :: (cs ++ moreElements es ++ rest) := by
        simp [elementChars, hcs]
      rw [hfront] at hread
      rw [chars_array_cons, List.cons_append, hfront,
        value?_array (isBlank_of_isSpace hopens.not_isSpace) hopens.not_close, hread]
      rfl
    | .object [] =>
      obtain ⟨depth, rfl⟩ : ∃ d, depth = d + 1 := ⟨depth - 1, (Nat.succ_pred_eq_of_pos hdepth).symm⟩
      rfl
    | .object (m :: ms) =>
      rw [Json.depth] at hdepth
      obtain ⟨depth, rfl⟩ : ∃ d, depth = d + 1 := ⟨depth - 1, by omega⟩
      rw [chars_object_cons, List.length_cons] at hfuel
      have hread := members?_chars (m :: ms) (List.cons_ne_nil _ _) hv
        (show _ ≤ depth by omega) (show _ ≤ fuel by omega) rest
      obtain ⟨cs, hfront⟩ : ∃ cs, memberChars (m :: ms) ++ rest = '"' :: cs := ⟨_, rfl⟩
      rw [hfront] at hread
      rw [chars_object_cons, List.cons_append, hfront, value?_object rfl (by decide), hread]
      rfl

theorem elements?_chars : (elements : List Json) → elements ≠ [] → FitsElements elements →
    ∀ {fuel depth : Nat}, depthElements elements ≤ depth →
    2 * (elementChars elements).length + 1 ≤ fuel → ∀ rest : List Char,
    elements? fuel depth (elementChars elements ++ rest) =
      some (Written.ofElements (rereadElements elements), rest)
  | [], hne, _, _, _, _, _, _ => absurd rfl hne
  | e :: es, _, hv, fuel, depth, hdepth, hfuel, rest => by
    obtain ⟨fuel, rfl⟩ : ∃ f, fuel = f + 1 := ⟨fuel - 1, by omega⟩
    simp only [depthElements, Nat.max_le] at hdepth
    rw [elementChars, List.append_assoc]
    rw [elementChars, List.length_append] at hfuel
    cases es with
    | nil =>
      have hread := value?_chars e hv.1 hdepth.1 (show _ ≤ fuel by omega)
        (endsNumeral_cons (c := ']') (by decide) rest)
      simp only [elements?, moreElements, List.singleton_append, hread]
      rfl
    | cons e' es =>
      -- the comma ends what is in front of it, also a numeral
      rw [moreElements_cons, List.length_cons] at hfuel
      have hread := value?_chars e hv.1 hdepth.1 (show _ ≤ fuel by omega)
        (endsNumeral_cons (c := ',') (by decide) (elementChars (e' :: es) ++ rest))
      have hmore := elements?_chars (e' :: es) (List.cons_ne_nil _ _) hv.2 hdepth.2
        (show _ ≤ fuel by omega) rest
      rw [moreElements_cons, List.cons_append]
      simp only [elements?, hread, skipBlanks_cons (show isBlank ',' = false from rfl), hmore]
      rfl

theorem members?_chars : (members : List (String × Json)) → members ≠ [] →
    FitsMembers members → ∀ {fuel depth : Nat},
    depthMembers members ≤ depth → 2 * (memberChars members).length + 1 ≤ fuel →
    ∀ rest : List Char,
    members? fuel depth (memberChars members ++ rest) =
      some (Written.ofMembers (rereadMembers members), rest)
  | [], hne, _, _, _, _, _, _ => absurd rfl hne
  | (k, v) :: ms, _, hv, fuel, depth, hdepth, hfuel, rest => by
    obtain ⟨fuel, rfl⟩ : ∃ f, fuel = f + 1 := ⟨fuel - 1, by omega⟩
    simp only [depthMembers, Nat.max_le] at hdepth
    have hchars : memberChars ((k, v) :: ms) ++ rest =
        '"' :: (k.toList.flatMap escape ++
          '"' :: ':' :: (v.chars ++ (moreMembers ms ++ rest))) := by
      simp [memberChars, quoted]
    -- the quotation marks and the colon pay for the step to the value
    have hlength : v.chars.length + (moreMembers ms).length + 3 ≤
        (memberChars ((k, v) :: ms)).length := by
      simp only [memberChars, quoted, List.length_append, List.length_cons, List.length_nil]
      omega
    rw [hchars]
    simp only [members?, skipBlanks_cons (show isBlank '"' = false from rfl), stringTail_quoted,
      skipBlanks_cons (show isBlank ':' = false from rfl)]
    cases ms with
    | nil =>
      have hread := value?_chars v hv.1 hdepth.1 (show _ ≤ fuel by omega)
        (endsNumeral_cons (c := '}') (by decide) rest)
      simp only [moreMembers, List.singleton_append, hread]
      rfl
    | cons m ms =>
      rw [moreMembers_cons, List.length_cons] at hlength
      have hmore := members?_chars (m :: ms) (List.cons_ne_nil _ _) hv.2 hdepth.2
        (show _ ≤ fuel by omega) rest
      have hread := value?_chars v hv.1 hdepth.1 (show _ ≤ fuel by omega)
        (endsNumeral_cons (c := ',') (by decide) (memberChars (m :: ms) ++ rest))
      rw [moreMembers_cons, List.cons_append]
      simp only [hread, skipBlanks_cons (show isBlank ',' = false from rfl), hmore]
      rfl

end

/-- **The text of a value is read as the tree of the value**, each member at its place. -/
theorem tree?_render {v : Json} (hfits : v.Fits) (hdepth : v.depth ≤ maxDepth) :
    tree? v.render = some (.ofJson v.reread) := by
  have hread : value? (2 * v.chars.length + 2) maxDepth v.chars = some (.ofJson v.reread, []) := by
    have hrest : EndsNumeral [] := fun c hc => by cases hc
    have hchars := value?_chars v hfits hdepth (show _ ≤ 2 * v.chars.length + 2 by omega) hrest
    rwa [List.append_nil] at hchars
  simp only [tree?, render, String.toList_ofList, hread]
  rfl

/-! ### White space -/

theorem numeral?_of_isSpace {cs : List Char} (h : ∀ c ∈ cs.head?, Blank.isSpace c = true) :
    numeral? cs = none := by
  cases cs with
  | nil => rfl
  | cons c cs =>
    have hspace : Blank.isSpace c = true := h c rfl
    have hdigit : c.isDigit = false := by
      by_contra hc
      have hnot := isSpace_of_isDigit_or_minus (.inl (Bool.not_eq_false _ ▸ hc))
      simp [hspace] at hnot
    have hminus : c ≠ '-' := by
      rintro rfl
      exact absurd hspace (by decide)
    have hzero : c ≠ '0' := by
      rintro rfl
      exact absurd hdigit (by decide)
    have hdigits : digits? (c :: cs) = none := by
      simp [digits?, hdigit]
    have hwhole : whole? (c :: cs) = none := by
      rw [← hdigits]
      unfold whole?
      split
      · rename_i heq
        cases heq
        exact absurd rfl hzero
      · rfl
    unfold numeral?
    split
    · rename_i heq
      cases heq
      exact absurd rfl hminus
    · simp [unsigned?, hwhole]

/-- What is all white space is no value. -/
theorem value?_of_isSpace {cs : List Char} (h : ∀ c ∈ cs, Blank.isSpace c = true)
    (fuel depth : Nat) : value? fuel depth cs = none := by
  cases fuel with
  | zero => rfl
  | succ fuel =>
    have hhead : ∀ c ∈ (skipBlanks cs).head?, Blank.isSpace c = true := by
      intro c hc
      exact h c ((List.dropWhile_sublist _).subset (List.mem_of_mem_head? hc))
    rw [value?]
    split
    case h_7 =>
      rw [numeral?_of_isSpace hhead]
      rfl
    -- the other forms of a value begin with a character that is no white space
    all_goals
      rename_i heq
      exact absurd (hhead _ (congrArg List.head? heq)) (by decide)

end Parser

/-! ### Texts and values -/

/-- What a value has to be like for its text to be read, inside of which at most
    `levels` arrays and objects may still be opened. -/
structure Readable (levels : Nat) (v : Json) : Prop where
  wellFormed : v.WellFormed
  depth_le : v.depth ≤ levels

theorem readable_string (levels : Nat) (s : String) : (Json.string s).Readable levels :=
  ⟨trivial, Nat.zero_le _⟩

theorem readable_object {levels : Nat} {members : List (String × Json)}
    (hascending : (members.map Prod.fst).Pairwise (· < ·))
    (h : members.Forall fun m => m.2.Readable levels) :
    (Json.object members).Readable (levels + 1) := by
  have hall : WellFormedMembers members ∧ depthMembers members ≤ levels := by
    clear hascending
    induction members with
    | nil => exact ⟨trivial, Nat.zero_le _⟩
    | cons m ms ih =>
      rw [List.forall_cons] at h
      obtain ⟨hv, hd⟩ := h.1
      obtain ⟨hvs, hds⟩ := ih h.2
      exact ⟨⟨hv, hvs⟩, Nat.max_le.2 ⟨hd, hds⟩⟩
  exact ⟨⟨List.pairwise_map.1 hascending, hall.1⟩, Nat.succ_le_succ hall.2⟩

/-- What a value has to be like for its text to have the tree of the value, in whatever
    order the members are. -/
structure Exact (levels : Nat) (v : Json) : Prop where
  fits : v.Fits
  integral : v.Integral
  depth_le : v.depth ≤ levels

theorem exact_string (levels : Nat) (s : String) : (Json.string s).Exact levels :=
  ⟨trivial, trivial, Nat.zero_le _⟩

theorem exact_null (levels : Nat) : Json.null.Exact levels :=
  ⟨trivial, trivial, Nat.zero_le _⟩

theorem exact_ofNat (levels : Nat) {n : Nat} (h : n < wordLimit) :
    (Json.ofNat n).Exact levels := by
  refine ⟨?_, trivial, Nat.zero_le _⟩
  rw [ofNat, Fits]
  omega

theorem exact_array {levels : Nat} {elements : List Json} (h : ∀ e ∈ elements, e.Exact levels) :
    (Json.array elements).Exact (levels + 1) := by
  have hall : FitsElements elements ∧ IntegralElements elements ∧
      depthElements elements ≤ levels := by
    induction elements with
    | nil => exact ⟨trivial, trivial, Nat.zero_le _⟩
    | cons e es ih =>
      obtain ⟨hv, hi, hd⟩ := h e List.mem_cons_self
      obtain ⟨hvs, his, hds⟩ := ih fun e' he => h e' (List.mem_cons_of_mem _ he)
      exact ⟨⟨hv, hvs⟩, ⟨hi, his⟩, Nat.max_le.2 ⟨hd, hds⟩⟩
  exact ⟨hall.1, hall.2.1, Nat.succ_le_succ hall.2.2⟩

theorem exact_object {levels : Nat} {members : List (String × Json)}
    (h : ∀ m ∈ members, m.2.Exact levels) : (Json.object members).Exact (levels + 1) := by
  have hall : FitsMembers members ∧ IntegralMembers members ∧ depthMembers members ≤ levels := by
    induction members with
    | nil => exact ⟨trivial, trivial, Nat.zero_le _⟩
    | cons m ms ih =>
      obtain ⟨hv, hi, hd⟩ := h m List.mem_cons_self
      obtain ⟨hvs, his, hds⟩ := ih fun m' hm => h m' (List.mem_cons_of_mem _ hm)
      exact ⟨⟨hv, hvs⟩, ⟨hi, his⟩, Nat.max_le.2 ⟨hd, hds⟩⟩
  exact ⟨hall.1, hall.2.1, Nat.succ_le_succ hall.2.2⟩

/-- **The text of such a value has its tree.** -/
theorem Exact.tree?_render {v : Json} (h : v.Exact Parser.maxDepth) :
    Parser.tree? v.render = some (.ofJson v) := by
  rw [Parser.tree?_render h.fits h.depth_le, reread_of_integral v h.integral]

/-- What a value has to be like to come through as text. -/
structure Portable (levels : Nat) (v : Json) : Prop where
  wellFormed : v.WellFormed
  integral : v.Integral
  depth_le : v.depth ≤ levels

theorem Portable.readable {levels : Nat} {v : Json} (h : v.Portable levels) : v.Readable levels :=
  ⟨h.wellFormed, h.depth_le⟩

theorem Portable.exact {levels : Nat} {v : Json} (h : v.Portable levels) : v.Exact levels :=
  ⟨WellFormed.fits v h.wellFormed, h.integral, h.depth_le⟩

theorem portable_string (levels : Nat) (s : String) : (Json.string s).Portable levels :=
  ⟨trivial, trivial, Nat.zero_le _⟩

theorem portable_null (levels : Nat) : Json.null.Portable levels :=
  ⟨trivial, trivial, Nat.zero_le _⟩

theorem portable_array {levels : Nat} {elements : List Json}
    (h : ∀ e ∈ elements, e.Portable levels) : (Json.array elements).Portable (levels + 1) := by
  have hexact : (Json.array elements).Exact (levels + 1) := exact_array fun e he => (h e he).exact
  have hv : WellFormedElements elements := by
    clear hexact
    induction elements with
    | nil => trivial
    | cons e es ih =>
      exact ⟨(h e List.mem_cons_self).wellFormed, ih fun e' he => h e' (List.mem_cons_of_mem _ he)⟩
  exact ⟨hv, hexact.integral, hexact.depth_le⟩

theorem portable_object {levels : Nat} {members : List (String × Json)}
    (hascending : (members.map Prod.fst).Pairwise (· < ·))
    (h : members.Forall fun m => m.2.Portable levels) :
    (Json.object members).Portable (levels + 1) := by
  obtain ⟨hv, hd⟩ := readable_object hascending (h.imp fun _ hm => hm.readable)
  have hexact : (Json.object members).Exact (levels + 1) :=
    exact_object fun m hm => (List.forall_iff_forall_mem.1 h m hm).exact
  exact ⟨hv, hexact.integral, hd⟩

/-- **A value that was written is read back**, with its numbers as they read. -/
theorem parse?_render_reread {v : Json} (hv : v.Readable Parser.maxDepth) :
    parse? v.render = some v.reread := by
  have htree := Parser.tree?_render (WellFormed.fits v hv.wellFormed) hv.depth_le
  have hsorted := WellFormed.sorted_eq v.reread (WellFormed.reread v hv.wellFormed)
  rw [parse?, htree, Option.bind_some, Written.value?_ofJson, hsorted]

/-- **A value without floating-point numbers is read back as it was.** -/
theorem parse?_render {v : Json} (hv : v.Portable Parser.maxDepth) : parse? v.render = some v := by
  rw [parse?_render_reread hv.readable, reread_of_integral v hv.integral]

/-- **No blank text is JSON.** -/
theorem parse?_of_isBlank {text : String} (h : Blank.isBlank text = true) :
    parse? text = none := by
  have hnone := Parser.value?_of_isSpace (List.all_eq_true.1 h)
  simp only [parse?, Parser.tree?, hnone, Option.bind_none]

end DidLedger.Json
