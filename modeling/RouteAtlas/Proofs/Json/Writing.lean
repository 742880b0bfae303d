import Mathlib.Data.Nat.Digits.Defs
import RouteAtlas.Json.Decode
import RouteAtlas.Json.Value
import RouteAtlas.Proofs.Json.Reading

/-! # Reading back what was written

The text of a value, on one line or on many, spells the document that the value means, so that is
what it is read as.
-/

namespace RouteAtlas.Json

namespace Value

mutual

/-- The document that a value means. -/
def doc : Value → Doc
  | .null => .null
  | .bool value => .bool value
  | .integer value => .number (.ofInt value)
  | .text content => .text content
  | .array items => .array (itemDocs items) true
  | .object members => .object (memberDocs members) true

/-- The documents of the items of an array. -/
def itemDocs : List Value → List Doc
  | [] => []
  | item :: rest => item.doc :: itemDocs rest

/-- The members of the document of an object. -/
def memberDocs : List (String × Value) → List (Option String × Doc)
  | [] => []
  | (key, value) :: rest => (some key, value.doc) :: memberDocs rest

end

mutual

/-- How many containers are nested in a value, its own among them. -/
def depth : Value → Nat
  | .array items => itemsDepth items + 1
  | .object members => membersDepth members + 1
  | _ => 0

/-- How many containers are nested in the items of an array. -/
def itemsDepth : List Value → Nat
  | [] => 0
  | item :: rest => max item.depth (itemsDepth rest)

/-- How many containers are nested in the members of an object. -/
def membersDepth : List (String × Value) → Nat
  | [] => 0
  | (_, value) :: rest => max value.depth (membersDepth rest)

end

@[simp] theorem depth_text (content : String) : (text content).depth = 0 := rfl

@[simp] theorem depth_bool (flag : Bool) : (bool flag).depth = 0 := rfl

@[simp] theorem itemDocs_eq_map (items : List Value) : itemDocs items = items.map doc := by
  induction items with
  | nil => rfl
  | cons item rest ih => rw [itemDocs, ih, List.map_cons]

theorem depth_array_le_iff {items : List Value} {limit : Nat} :
    (array items).depth ≤ limit ↔ 1 ≤ limit ∧ ∀ item ∈ items, item.depth + 1 ≤ limit := by
  rw [depth]
  induction items with
  | nil => simp [itemsDepth]
  | cons item rest ih =>
      have split : max item.depth (itemsDepth rest) + 1 ≤ limit ↔
          item.depth + 1 ≤ limit ∧ itemsDepth rest + 1 ≤ limit := by omega
      rw [itemsDepth, split, ih, List.forall_mem_cons]
      exact and_left_comm

theorem depth_object_le_iff {members : List (String × Value)} {limit : Nat} :
    (object members).depth ≤ limit ↔ 1 ≤ limit ∧ ∀ member ∈ members, member.2.depth + 1 ≤ limit := by
  rw [depth]
  induction members with
  | nil => simp [membersDepth]
  | cons member rest ih =>
      have split : max member.2.depth (membersDepth rest) + 1 ≤ limit ↔
          member.2.depth + 1 ≤ limit ∧ membersDepth rest + 1 ≤ limit := by omega
      rw [membersDepth, split, ih, List.forall_mem_cons]
      exact and_left_comm

/-- An array within another container. -/
theorem depth_array_succ_le_iff {items : List Value} {limit : Nat} :
    (array items).depth + 1 ≤ limit ↔ 2 ≤ limit ∧ ∀ item ∈ items, item.depth + 2 ≤ limit := by
  cases limit with
  | zero => simp
  | succ limit => simp [depth_array_le_iff]

section Strings

theorem joinPairs_text (content : List Char) :
    Token.joinPairs (content.map Char.toNat) = some content := by
  induction content with
  | nil => rfl
  | cons c rest ih =>
      -- No character is a half of a surrogate pair.
      have whole : c.toNat < 0xd800 ∨ 0xdfff < c.toNat := by
        rcases c.valid with low | high
        · exact .inl low
        · exact .inr high.1
      have notHigh : ¬(0xd800 ≤ c.toNat ∧ c.toNat ≤ 0xdbff) := by omega
      have notLow : ¬(0xdc00 ≤ c.toNat ∧ c.toNat ≤ 0xdfff) := by omega
      rw [List.map_cons, Token.joinPairs.eq_def]
      simp [notHigh, notLow, ih, Char.ofNat_toNat]

theorem hex?_control {n : Nat} (control : n < 0x20) :
    Text.hex? ['0', '0', Text.hexDigit (n / 16), Text.hexDigit (n % 16)] = some n := by
  revert n
  decide

theorem glyph_escapeChar (c : Char) : Glyph c.toNat (escapeChar c) := by
  unfold escapeChar
  split
  · subst c; exact .escape (by simp)
  split
  · subst c; exact .escape (by simp)
  split
  · subst c; exact .escape (by simp)
  split
  · subst c; exact .escape (by simp)
  split
  · subst c; exact .escape (by simp)
  split
  · subst c; exact .escape (by simp)
  split
  · subst c; exact .escape (by simp)
  split
  · rename_i control
    exact .unicode (hex?_control control)
  · rename_i quote backslash _ _ _ _ _ printable
    exact .plain quote backslash (Nat.not_lt.mp printable)

theorem spellsPoints_escaped (content : List Char) :
    SpellsPoints (content.map Char.toNat) (content.flatMap escapeChar) := by
  induction content with
  | nil => exact .nil
  | cons c rest ih => exact .cons (glyph_escapeChar c) ih

theorem spells_quote (content : String) : SpellsString (some content) (quote content) := by
  have spelled := SpellsString.text (spellsPoints_escaped content.toList)
    (joinPairs_text content.toList)
  rwa [String.ofList_toList] at spelled

end Strings

section Integers

open Numeral

/-- The decimal digits of a number. -/
def decimals (n : Nat) : List Nat :=
  (Nat.toDigits 10 n).map fun c => c.toNat - 48

theorem toNat_digitChar {d : Nat} (small : d < 10) : (Nat.digitChar d).toNat - 48 = d := by
  revert d
  decide

theorem decimals_eq (n : Nat) :
    decimals n = if n < 10 then [n] else decimals (n / 10) ++ [n % 10] := by
  unfold decimals
  rw [Nat.toDigits_eq_if (by decide)]
  split
  · rename_i small
    rw [List.map_singleton, toNat_digitChar small]
  · rw [List.map_append, List.map_singleton, toNat_digitChar (Nat.mod_lt n (by decide))]

theorem digits_decimals (n : Nat) : Digits (decimals n) := by
  induction n using Nat.strongRecOn with
  | ind n ih =>
      rw [decimals_eq]
      split
      · simpa [Digits]
      · have others := (ih (n / 10) (by omega)).2
        refine ⟨by simp, fun d member => ?_⟩
        rcases List.mem_append.mp member with early | last
        · exact others d early
        · have := List.mem_singleton.mp last
          omega

theorem map_digitChar_decimals (n : Nat) : (decimals n).map Nat.digitChar = Nat.toDigits 10 n := by
  induction n using Nat.strongRecOn with
  | ind n ih =>
      rw [decimals_eq, Nat.toDigits_eq_if (by decide)]
      split
      · rfl
      · rw [List.map_append, ih (n / 10) (by omega), List.map_singleton]

theorem head_decimals (n : Nat) (zero : (decimals n).head? = some 0) : n = 0 := by
  induction n using Nat.strongRecOn with
  | ind n ih =>
      rw [decimals_eq] at zero
      split at zero
      · simpa using zero
      · rw [List.head?_append] at zero
        cases front : (decimals (n / 10)).head? with
        | none => exact absurd (List.head?_eq_none_iff.mp front) (digits_decimals _).1
        | some d =>
            rw [front, Option.some_or] at zero
            have := ih (n / 10) (by omega) (front.trans zero)
            omega

theorem ofDigits_decimals (n : Nat) : ofDigits (decimals n) = n := by
  induction n using Nat.strongRecOn with
  | ind n ih =>
      rw [decimals_eq]
      split
      · simp [ofDigits]
      · have front := ih (n / 10) (by omega)
        simp only [ofDigits, List.foldl_append, List.foldl_cons, List.foldl_nil] at front ⊢
        omega

theorem spells_integer (value : Int) : (Numeral.ofInt value).Spells (writeInteger value) := by
  have zero : (decimals value.natAbs).head? = some 0 → decimals value.natAbs = [0] := by
    intro leading
    rw [head_decimals _ leading]
    rfl
  have spelled := @Numeral.Spells.parts (value < 0) _ _ _ _ _ (digits_decimals value.natAbs) zero
    .absent .absent
  simp only [map_digitChar_decimals, List.append_nil, decide_eq_true_eq] at spelled
  exact spelled

/-- An integer of 32 bits is read back from its digits. -/
theorem int32_ofInt {value : Int} (fits : Decode.isInt32 value = true) :
    Decode.int32 (.number (.ofInt value)) = .ok value := by
  have digits : ofDigits (Numeral.ofInt value).whole = value.natAbs := ofDigits_decimals _
  have signed : (Numeral.ofInt value).negative = decide (value < 0) := rfl
  have bounds := fits
  simp only [Decode.isInt32, Bool.and_eq_true, decide_eq_true_eq] at bounds
  have limit : digitLimit = 18446744073709551615 := rfl
  have least : Nat.pow 2 63 = 9223372036854775808 := rfl
  have amount : (Numeral.ofInt value).amount? = some (.integer value) := by
    rw [amount?, digits, signed, limit, least]
    by_cases negative : value < 0
    · have here : value.natAbs ≠ 0 ∧ value.natAbs ≤ 9223372036854775808 := by omega
      simp [Numeral.ofInt, negative, here, abs_of_neg negative]
    · have here : value.natAbs ≤ 18446744073709551615 := by omega
      simp [Numeral.ofInt, negative, here, abs_of_nonneg (Int.not_lt.mp negative)]
  simp [Decode.int32, amount, fits]

end Integers


mutual

theorem spells_write (value : Value) : Spells (.value value.doc) value.write := by
  cases value with
  | null => exact .null
  | bool value => cases value <;> constructor
  | integer value => exact .number (spells_integer value)
  | text content => exact .string (spells_quote content)
  | array items => exact .array (spells_writeItems items)
  | object members => exact .object (spells_writeMembers members)

theorem spells_writeItems (items : List Value) :
    Spells (.items (itemDocs items)) (writeItems items) := by
  match items with
  | [] => exact .noItem blanks_nil
  | [item] => exact .lastItem (spells_write item).bare
  | item :: next :: rest =>
      exact .item (spells_write item).bare (spells_writeItems (next :: rest))

theorem spells_writeMembers (members : List (String × Value)) :
    Spells (.members (memberDocs members)) (writeMembers members) := by
  match members with
  | [] => exact .noMember blanks_nil
  | [(key, value)] =>
      exact .lastMember blanks_nil (spells_quote key) blanks_nil (spells_write value).bare
  | (key, value) :: next :: rest =>
      have spelled := Spells.member blanks_nil (spells_quote key) blanks_nil
        (spells_write value).bare (spells_writeMembers (next :: rest))
      simpa [memberDocs, writeMembers] using spelled

end

theorem blanks_newLine (level : Nat) : Blanks (newLine level) := by
  intro c member
  simp only [newLine, List.mem_cons, List.mem_replicate] at member
  rcases member with rfl | ⟨-, rfl⟩ <;> simp

theorem blanks_space : Blanks [' '] := by
  simp [Blanks]

mutual

theorem spells_layOut (level : Nat) (value : Value) :
    Spells (.value value.doc) (value.layOut level) := by
  match value with
  | .null => exact .null
  | .bool value => cases value <;> constructor
  | .integer value => exact .number (spells_integer value)
  | .text content => exact .string (spells_quote content)
  | .array [] => exact .array (.noItem blanks_nil)
  | .object [] => exact .object (.noMember blanks_nil)
  | .array (item :: rest) =>
      have inside := spells_layOutItems (level + 1) (item :: rest) (blanks_newLine level) nofun
      simpa [layOut, doc] using Spells.array inside
  | .object (member :: rest) =>
      have inside := spells_layOutMembers (level + 1) (member :: rest) (blanks_newLine level) nofun
      simpa [layOut, doc] using Spells.object inside

/-- The break before the closing bracket is in the text of the last item. -/
theorem spells_layOutItems (level : Nat) (items : List Value) {last : List Char}
    (blanks : Blanks last) (some : items ≠ []) :
    Spells (.items (itemDocs items)) (layOutItems level items ++ last) := by
  match items with
  | [] => exact absurd rfl some
  | [item] =>
      have spelled := Spells.element (blanks_newLine level) (spells_layOut level item) blanks
      simpa [layOutItems, itemDocs] using Spells.lastItem spelled
  | item :: next :: rest =>
      have first := Spells.element (blanks_newLine level) (spells_layOut level item) blanks_nil
      have others := spells_layOutItems level (next :: rest) blanks nofun
      simpa [layOutItems, itemDocs] using Spells.item first others

theorem spells_layOutMembers (level : Nat) (members : List (String × Value)) {last : List Char}
    (blanks : Blanks last) (some : members ≠ []) :
    Spells (.members (memberDocs members)) (layOutMembers level members ++ last) := by
  match members with
  | [] => exact absurd rfl some
  | [(key, value)] =>
      have spelled := Spells.element blanks_space (spells_layOut level value) blanks
      have named := Spells.lastMember (blanks_newLine level) (spells_quote key) blanks_nil spelled
      simpa [layOutMembers, memberDocs] using named
  | (key, value) :: next :: rest =>
      have first := Spells.element blanks_space (spells_layOut level value) blanks_nil
      have others := spells_layOutMembers level (next :: rest) blanks nofun
      have named := Spells.member (blanks_newLine level) (spells_quote key) blanks_nil first others
      simpa [layOutMembers, memberDocs] using named

end

theorem spelledBy_compact (value : Value) : value.doc.SpelledBy value.compact := by
  rw [Doc.SpelledBy, compact, String.toList_ofList]
  exact (spells_write value).bare

theorem spelledBy_pretty (value : Value) : value.doc.SpelledBy value.pretty := by
  rw [Doc.SpelledBy, pretty, String.toList_ofList]
  exact (spells_layOut 0 value).bare

end Value

end RouteAtlas.Json
