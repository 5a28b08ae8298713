/-
  DidLedger/Proofs/Json/Depth.lean
  ================================
  **The parser reads what is nested as deep as it goes, and nothing deeper.**

  The parser counts the arrays and objects that it is inside of, and a part that is
  opened when there is no level left stands for no value.  So with fewer levels it reads
  the same tree with the deeper parts cut off (`Cuts`).  The three functions of the
  parser call each other with less fuel, and what holds of them is proved of all three
  together, by induction on the fuel.

  What remains of a tree stands for a value only if nothing was cut off
  (`value?_cut`).  So what is read from a text is not nested deeper than the parser goes
  (`depth_le_of_parse?`), and a value that is nested deeper is not read from its own text
  (`parse?_render_eq_none`).
-/
import DidLedger.Proofs.Json.RoundTrip
import DidLedger.Proofs.Json.Sorted

namespace DidLedger.Json

theorem depthMembers_le_iff {members : List (String × Json)} {levels : Nat} :
    depthMembers members ≤ levels ↔ ∀ m ∈ members, m.2.depth ≤ levels := by
  induction members with
  | nil => simp [depthMembers]
  | cons m ms ih => simp [depthMembers, ih]

/-! ### Trees without their depths -/

namespace Written

mutual

/-- The tree without what is nested deeper than so many levels. -/
def cut : Written → Nat → Written
  | .array ws, depth => if depth = 0 then .unreadable else .array (cutElements ws (depth - 1))
  | .object ms, depth => if depth = 0 then .unreadable else .object (cutMembers ms (depth - 1))
  | w, _ => w

def cutElements : List Written → Nat → List Written
  | [], _ => []
  | w :: ws, depth => w.cut depth :: cutElements ws depth

def cutMembers : List (Option String × Written) → Nat → List (Option String × Written)
  | [], _ => []
  | (key, w) :: ms, depth => (key, w.cut depth) :: cutMembers ms depth

end

/-- What the parser makes of an array that it opens with so many levels left. -/
theorem cut_array {depth depth' : Nat} (h : depth ≤ depth') (ws : List Written) :
    (if depth' = 0 then unreadable else .array ws).cut depth =
      if depth = 0 then unreadable else .array (cutElements ws (depth - 1)) := by
  by_cases hdepth' : depth' = 0
  · rw [if_pos hdepth', if_pos (show depth = 0 by omega)]
    rfl
  · rw [if_neg hdepth']
    rfl

theorem cut_object {depth depth' : Nat} (h : depth ≤ depth')
    (ms : List (Option String × Written)) :
    (if depth' = 0 then unreadable else .object ms).cut depth =
      if depth = 0 then unreadable else .object (cutMembers ms (depth - 1)) := by
  by_cases hdepth' : depth' = 0
  · rw [if_pos hdepth', if_pos (show depth = 0 by omega)]
    rfl
  · rw [if_neg hdepth']
    rfl

mutual

/-- **Where something was cut off there is no value.** -/
theorem value?_cut : (w : Written) → ∀ {depth : Nat} {v : Json}, (w.cut depth).value? = some v →
    w.value? = some v ∧ v.depth ≤ depth
  | .null, _, _, h => by
    cases h
    exact ⟨rfl, Nat.zero_le _⟩
  | .bool _, _, _, h => by
    cases h
    exact ⟨rfl, Nat.zero_le _⟩
  | .number _, _, _, h => by
    cases h
    exact ⟨rfl, Nat.zero_le _⟩
  | .string _, _, _, h => by
    cases h
    exact ⟨rfl, Nat.zero_le _⟩
  | .unreadable, _, _, h => by cases h
  | .array ws, depth, v, h => by
    rw [cut] at h
    split at h
    · cases h
    · rw [value?, Option.map_eq_some_iff] at h
      obtain ⟨vs, hvs, rfl⟩ := h
      obtain ⟨hvalues, hdepth⟩ := elementValues?_cut ws hvs
      rw [value?, hvalues, Json.depth]
      exact ⟨rfl, by omega⟩
  | .object ms, depth, v, h => by
    rw [cut] at h
    split at h
    · cases h
    · rw [value?, Option.map_eq_some_iff] at h
      obtain ⟨vs, hvs, rfl⟩ := h
      obtain ⟨hvalues, hdepth⟩ := memberValues?_cut ms hvs
      have hsorted := depthMembers_le_iff.2 fun m hm =>
        depthMembers_le_iff.1 hdepth m ((sortMembers_spec vs).2 m hm)
      rw [value?, hvalues, Json.ofMembers, Json.depth]
      exact ⟨rfl, by omega⟩

theorem elementValues?_cut : (ws : List Written) → ∀ {depth : Nat} {vs : List Json},
    elementValues? (cutElements ws depth) = some vs →
    elementValues? ws = some vs ∧ depthElements vs ≤ depth
  | [], _, _, h => by
    cases h
    exact ⟨rfl, Nat.zero_le _⟩
  | w :: ws, depth, vs, h => by
    rw [cutElements, elementValues?] at h
    split at h
    · rename_i v vs' hv hvs'
      cases h
      obtain ⟨hvalue, hdepth⟩ := value?_cut w hv
      obtain ⟨hvalues, hdepths⟩ := elementValues?_cut ws hvs'
      exact ⟨by simp [elementValues?, hvalue, hvalues], Nat.max_le.2 ⟨hdepth, hdepths⟩⟩
    · cases h

theorem memberValues?_cut : (ms : List (Option String × Written)) →
    ∀ {depth : Nat} {vs : List (String × Json)},
    memberValues? (cutMembers ms depth) = some vs →
    memberValues? ms = some vs ∧ depthMembers vs ≤ depth
  | [], _, _, h => by
    cases h
    exact ⟨rfl, Nat.zero_le _⟩
  | (key, w) :: ms, depth, vs, h => by
    simp only [cutMembers, memberValues?] at h
    split at h
    · rename_i k v vs' hv hvs'
      cases h
      obtain ⟨hvalue, hdepth⟩ := value?_cut w hv
      obtain ⟨hvalues, hdepths⟩ := memberValues?_cut ms hvs'
      exact ⟨by simp [memberValues?, hvalue, hvalues], Nat.max_le.2 ⟨hdepth, hdepths⟩⟩
    · cases h

end

end Written

/-! ### Parsers with fewer levels -/

namespace Parser

open Written

/-- With fewer levels the parser reads the same, and what is deeper is cut off. -/
structure Cuts (fuel : Nat) : Prop where
  value : ∀ {depth depth'} (cs), depth ≤ depth' →
    value? fuel depth cs = (value? fuel depth' cs).map fun (w, r) => (w.cut depth, r)
  elements : ∀ {depth depth'} (cs), depth ≤ depth' →
    elements? fuel depth cs =
      (elements? fuel depth' cs).map fun (ws, r) => (cutElements ws depth, r)
  members : ∀ {depth depth'} (cs), depth ≤ depth' →
    members? fuel depth cs = (members? fuel depth' cs).map fun (ms, r) => (cutMembers ms depth, r)

section
variable {fuel depth depth' : Nat}

theorem cuts_value (ih : Cuts fuel) (cs : List Char) (h : depth ≤ depth') :
    value? (fuel + 1) depth cs =
      (value? (fuel + 1) depth' cs).map fun (w, r) => (w.cut depth, r) := by
  rw [value?, value?]
  split
  · rfl
  · rfl
  · rfl
  · rename_i rest _
    cases stringTail .start rest with
    | none => rfl
    | some found =>
      obtain ⟨text, after⟩ := found
      cases text with
      | none => rfl
      | some s => rfl
  · split
    · simp [cut_array h, cutElements]
    · rename_i rest _ _ _
      rw [ih.elements _ (Nat.sub_le_sub_right h 1)]
      cases elements? fuel (depth' - 1) (skipBlanks rest) with
      | none => rfl
      | some found => simp [cut_array h]
  · split
    · simp [cut_object h, cutMembers]
    · rename_i rest _ _ _
      rw [ih.members _ (Nat.sub_le_sub_right h 1)]
      cases members? fuel (depth' - 1) (skipBlanks rest) with
      | none => rfl
      | some found => simp [cut_object h]
  · cases numeral? (skipBlanks cs) with
    | none => rfl
    | some found =>
      obtain ⟨n, after⟩ := found
      cases hnumber : n.value? with
      | none => simp [part, cut, hnumber]
      | some number => simp [part, cut, hnumber]

theorem cuts_elements (ih : Cuts fuel) (cs : List Char) (h : depth ≤ depth') :
    elements? (fuel + 1) depth cs =
      (elements? (fuel + 1) depth' cs).map fun (ws, r) => (cutElements ws depth, r) := by
  rw [elements?, elements?, ih.value cs h]
  cases value? fuel depth' cs with
  | none => rfl
  | some found =>
    simp only [Option.map_some]
    split
    · rw [ih.elements _ h, Option.map_map, Option.map_map]
      rfl
    · rfl
    · rfl

theorem cuts_members (ih : Cuts fuel) (cs : List Char) (h : depth ≤ depth') :
    members? (fuel + 1) depth cs =
      (members? (fuel + 1) depth' cs).map fun (ms, r) => (cutMembers ms depth, r) := by
  rw [members?, members?]
  split
  · split
    · rfl
    · split
      · rw [ih.value _ h]
        rename_i rest _
        cases value? fuel depth' rest with
        | none => rfl
        | some found =>
          simp only [Option.map_some]
          split
          · rw [ih.members _ h, Option.map_map, Option.map_map]
            rfl
          · rfl
          · rfl
      · rfl
  · rfl

end

theorem cuts (fuel : Nat) : Cuts fuel := by
  induction fuel with
  | zero =>
    exact ⟨fun _ _ => by simp [value?], fun _ _ => by simp [elements?],
      fun _ _ => by simp [members?]⟩
  | succ fuel ih => exact ⟨cuts_value ih, cuts_elements ih, cuts_members ih⟩

end Parser

/-! ### Texts of values -/

/-- **A value that was read is not nested deeper than the parser goes.** -/
theorem depth_le_of_parse? {text : String} {v : Json} (h : parse? text = some v) :
    v.depth ≤ Parser.maxDepth := by
  obtain ⟨w, htree, hvalue⟩ := Option.bind_eq_some_iff.1 h
  simp only [Parser.tree?] at htree
  rw [(Parser.cuts _).value _ (Nat.le_refl Parser.maxDepth)] at htree
  split at htree
  · rename_i hread
    obtain ⟨found, -, heq⟩ := Option.map_eq_some_iff.1 hread
    cases heq
    split at htree
    · cases htree
      exact (Written.value?_cut _ hvalue).2
    · cases htree
  · cases htree

mutual

theorem depth_reread : (v : Json) → v.reread.depth = v.depth
  | .null => rfl
  | .bool _ => rfl
  | .number _ => rfl
  | .string _ => rfl
  | .array elements => congrArg (· + 1) (depthElements_reread elements)
  | .object members => congrArg (· + 1) (depthMembers_reread members)

theorem depthElements_reread : (elements : List Json) →
    depthElements (rereadElements elements) = depthElements elements
  | [] => rfl
  | e :: es => by
    rw [rereadElements, depthElements, depthElements, depth_reread e, depthElements_reread es]

theorem depthMembers_reread : (members : List (String × Json)) →
    depthMembers (rereadMembers members) = depthMembers members
  | [] => rfl
  | (_, v) :: ms => by
    rw [rereadMembers, depthMembers, depthMembers, depth_reread v, depthMembers_reread ms]

end

/-- The text of a value is read as the tree of the value, as deep as the parser goes. -/
theorem tree?_render_cut {v : Json} (hfits : v.Fits) (hdeep : Parser.maxDepth ≤ v.depth) :
    Parser.tree? v.render = some ((Written.ofJson v.reread).cut Parser.maxDepth) := by
  have hrest : Parser.EndsNumeral [] := fun c hc => by cases hc
  have hchars := Parser.value?_chars v hfits (Nat.le_refl _)
    (show _ ≤ 2 * v.chars.length + 2 by omega) hrest
  rw [List.append_nil] at hchars
  have hread := (Parser.cuts (2 * v.chars.length + 2)).value v.chars hdeep
  rw [hchars] at hread
  simp only [Parser.tree?, render, String.toList_ofList, hread]
  rfl

/-- **A value that is nested deeper is not read from its own text.** -/
theorem parse?_render_eq_none {v : Json} (hv : v.WellFormed) (hdeep : Parser.maxDepth < v.depth) :
    parse? v.render = none := by
  rw [parse?, tree?_render_cut (WellFormed.fits v hv) (Nat.le_of_lt hdeep), Option.bind_some,
    Option.eq_none_iff_forall_ne_some]
  intro u hu
  obtain ⟨hvalue, hdepth⟩ := Written.value?_cut _ hu
  rw [Written.value?_ofJson, WellFormed.sorted_eq _ (WellFormed.reread v hv),
    Option.some.injEq] at hvalue
  rw [← hvalue, depth_reread] at hdepth
  omega

/-- **The text of a value is read if and only if the value is not nested too deep.** -/
theorem isSome_parse?_render_iff {v : Json} (hv : v.WellFormed) :
    (parse? v.render).isSome = true ↔ v.depth ≤ Parser.maxDepth := by
  constructor
  · intro hsome
    by_contra hdeep
    rw [parse?_render_eq_none hv (Nat.not_le.1 hdeep)] at hsome
    cases hsome
  · intro hdepth
    rw [parse?_render_reread ⟨hv, hdepth⟩, Option.isSome_some]

/-- The value that is nested so many times. -/
def nested : Nat → Json
  | 0 => .null
  | levels + 1 => .array [nested levels]

theorem depth_nested (levels : Nat) : (nested levels).depth = levels := by
  induction levels with
  | zero => rfl
  | succ levels ih => simp [nested, depth, depthElements, ih]

theorem wellFormed_nested (levels : Nat) : (nested levels).WellFormed := by
  induction levels with
  | zero => trivial
  | succ levels ih => exact ⟨ih, trivial⟩

end DidLedger.Json
