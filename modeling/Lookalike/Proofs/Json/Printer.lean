import Lookalike.Json.Printer
import Lookalike.Proofs.Number.Text

/-!
# Texts of JSON values

JSON text never uses escape characters, whatever texts a value is made of: they are written as
UTF-16 units.
-/

namespace Lookalike

/-! ### Texts put together -/

theorem isPlain_join {parts : List String} (plain : ∀ part ∈ parts, IsPlain part) :
    IsPlain (String.join parts) := by
  rw [IsPlain, String.toList_join, List.mem_flatMap]
  rintro ⟨part, mem, escape⟩
  exact plain part mem escape

theorem isPlain_intercalate {separator : String} (separatorPlain : IsPlain separator)
    {parts : List String} (plain : ∀ part ∈ parts, IsPlain part) :
    IsPlain (separator.intercalate parts) := by
  induction parts with
  | nil => exact (by decide : IsPlain "")
  | cons part parts ih =>
      have partPlain := plain part List.mem_cons_self
      have restPlain := ih fun other mem => plain other (List.mem_cons_of_mem part mem)
      cases parts with
      | nil => simpa using partPlain
      | cons next parts =>
          rw [String.intercalate_cons_cons]
          simp only [isPlain_append, partPlain, separatorPlain, restPlain, and_self]

/-! ### Letters and numbers -/

theorem isPlain_hexDigits (width number : Nat) : IsPlain (hexDigits width number) := by
  have digits : IsPlain (String.ofList (Nat.toDigits 16 number)) := by
    simpa using escape_not_mem_toDigits 16 number
  exact isPlain_append.mpr ⟨isPlain_replicate (by decide) _, digits⟩

theorem isPlain_unitEscape (unit : Nat) : IsPlain (unitEscape unit) :=
  isPlain_append.mpr ⟨by decide, isPlain_hexDigits 4 unit⟩

/-- An escape character is not printable, so it is written as a UTF-16 unit. -/
theorem isPlain_jsonLetter (letter : Char) : IsPlain (jsonLetter letter) := by
  have units (unit : Nat) := isPlain_unitEscape unit
  have single (printable : 0x20 ≤ letter.toNat ∧ letter.toNat < 0x7F) :
      IsPlain (String.singleton letter) := by
    have ne : '\x1b' ≠ letter := by
      rintro rfl
      exact absurd printable.1 (by decide)
    simpa [IsPlain] using ne
  have escapes : IsPlain "\\\"" ∧ IsPlain "\\\\" ∧ IsPlain "\\n" ∧ IsPlain "\\r" ∧ IsPlain "\\t" ∧
      IsPlain "\\b" ∧ IsPlain "\\f" := by decide
  simp only [jsonLetter]
  split_ifs <;> first | simp only [isPlain_append, units, escapes, and_self] | exact single ‹_›

theorem isPlain_jsonString (text : String) : IsPlain (jsonString text) := by
  have letters : IsPlain (String.join (text.toList.map jsonLetter)) := by
    apply isPlain_join
    simp only [List.forall_mem_map]
    exact fun letter _ => isPlain_jsonLetter letter
  have quote : IsPlain "\"" := by decide
  simp only [jsonString, isPlain_append, letters, quote, and_self]

theorem isPlain_jsonNumber (number : Number) : IsPlain (jsonNumber number) := by
  cases number with
  | int value => exact isPlain_toString_int value
  | float value =>
      cases value with
      | nan => exact (by decide : IsPlain "NaN")
      | infinity negative =>
          cases negative with
          | true => exact (by decide : IsPlain "-Infinity")
          | false => exact (by decide : IsPlain "Infinity")
      | negativeZero => exact isPlain_text_binary64 .negativeZero
      | finite value => exact isPlain_text_binary64 (.finite value)

/-! ### Values -/

namespace Json

theorem isPlain_lineBreak (level : Nat) : IsPlain (lineBreak level) :=
  isPlain_append.mpr ⟨by decide, isPlain_replicate (by decide) _⟩

theorem isPlain_bracketLines {opening closing : String} (openingPlain : IsPlain opening)
    (closingPlain : IsPlain closing) (level : Nat) {items : List String}
    (plain : ∀ item ∈ items, IsPlain item) :
    IsPlain (bracketLines opening closing level items) := by
  have breaks (depth : Nat) := isPlain_lineBreak depth
  have separator : IsPlain ("," ++ lineBreak (level + 1)) :=
    isPlain_append.mpr ⟨by decide, breaks _⟩
  have lines := isPlain_intercalate separator plain
  simp only [bracketLines]
  split_ifs <;> simp only [isPlain_append, openingPlain, closingPlain, breaks, lines, and_self]

mutual

theorem isPlain_renderAt (level : Nat) (value : Json) : IsPlain (value.renderAt level) := by
  cases value with
  | null => exact (by decide : IsPlain "null")
  | bool value =>
      cases value with
      | true => exact (by decide : IsPlain "true")
      | false => exact (by decide : IsPlain "false")
  | number value => exact isPlain_jsonNumber value
  | string value => exact isPlain_jsonString value
  | array items =>
      exact isPlain_bracketLines (by decide) (by decide) level
        (isPlain_renderItemsAt (level + 1) items)
  | object fields =>
      exact isPlain_bracketLines (by decide) (by decide) level
        (isPlain_renderFieldsAt (level + 1) fields)

theorem isPlain_renderItemsAt (level : Nat) (items : List Json) :
    ∀ text ∈ renderItemsAt level items, IsPlain text := by
  cases items with
  | nil => simp [renderItemsAt]
  | cons item items =>
      simp only [renderItemsAt, List.forall_mem_cons]
      exact ⟨isPlain_renderAt level item, isPlain_renderItemsAt level items⟩

theorem isPlain_renderFieldsAt (level : Nat) (fields : List (String × Json)) :
    ∀ text ∈ renderFieldsAt level fields, IsPlain text := by
  cases fields with
  | nil => simp [renderFieldsAt]
  | cons field fields =>
      obtain ⟨name, value⟩ := field
      have colon : IsPlain ": " := by decide
      simp only [renderFieldsAt, List.forall_mem_cons, isPlain_append]
      exact ⟨⟨⟨isPlain_jsonString name, colon⟩, isPlain_renderAt level value⟩,
        isPlain_renderFieldsAt level fields⟩

end

theorem isPlain_renderIndented (value : Json) : IsPlain value.renderIndented :=
  isPlain_renderAt 0 value

end Json

end Lookalike
