/-
# AlterRelay.Proofs.Source.SizedType — sizes are exact and within the limits of Doris

A resolved type is written with sizes that Doris allows, and they are the declared
ones: a text has three bytes for every declared character, and a decimal has the
declared digits and places (`Permitted`). The count of bytes is that of unbounded
numbers. A length whose bytes do not fit becomes a wider type and never a smaller
size, which for the two families of texts is said exactly (`textOfBytes`).

`resolve_sized` says this of every connector, type name, length and scale.
-/
import AlterRelay.Proofs.Source.TypeFamilies
import AlterRelay.Text.Numeral

namespace AlterRelay.Source

open AlterRelay.Doris (ColumnType)
open AlterRelay.Text

set_option autoImplicit false

/-! ## Numerals -/

/-- Decimal digits that spell a number, without a sign or a superfluous zero in front. -/
structure SpellsPlainly (numeral : String) (number : Nat) : Prop where
  digits : ∀ c ∈ numeral.toList, c.isDigit = true
  value : digitsValue numeral.toList = number
  front : numeral = "0" ∨ ∃ first others, numeral.toList = first :: others ∧ first ≠ '0'

/-- The first digit of a positive number is not zero. -/
theorem toDigits_front (number : Nat) (positive : 0 < number) :
    ∃ first others, Nat.toDigits 10 number = first :: others ∧ first ≠ '0' := by
  induction number using Nat.strongRecOn with
  | ind number smaller =>
      by_cases digit : number < 10
      · rw [Nat.toDigits_of_lt_base digit]
        exact ⟨number.digitChar, [], rfl, by simp; omega⟩
      · rw [Nat.toDigits_of_base_le (by decide) (by omega)]
        obtain ⟨first, others, digits, front⟩ := smaller (number / 10) (by omega) (by omega)
        exact ⟨first, others ++ [(number % 10).digitChar], by rw [digits]; rfl, front⟩

theorem spellsPlainly_toString (number : Nat) : SpellsPlainly (toString number) number := by
  have digits : (toString number).toList = Nat.toDigits 10 number := Nat.toList_repr
  refine ⟨fun c member => ?_, ?_, ?_⟩
  · rw [digits] at member
    exact Nat.isDigit_of_mem_toDigits (by decide) (by decide) member
  · rw [digits]
    exact Nat.ofDigitChars_ten_toDigits
  · rcases Nat.eq_zero_or_pos number with rfl | positive
    · exact .inl rfl
    · rw [digits]
      exact .inr (toDigits_front number positive)

/-! ## Texts -/

/-- What a text of so many bytes is written as, of one length or up to it. -/
def textOfBytes (oneLength : Bool) (bytes : Nat) : String :=
  if oneLength = true ∧ bytes ≤ 255 then "CHAR(" ++ toString bytes ++ ")"
  else if bytes ≤ 65533 then "VARCHAR(" ++ toString bytes ++ ")"
  else "STRING"

/-- A count of bytes that fits is three for every character, and the others are known not to
fit although they are counted to the largest number only. -/
theorem byteLength_le_iff (length : UInt32) {limit : UInt32} (below : limit < 4294967295) :
    ColumnType.byteLength length ≤ limit ↔ 3 * length.toNat ≤ limit.toNat := by
  have counted := ColumnType.toNat_byteLength length
  have below' : limit.toNat < 4294967295 := below
  rw [UInt32.le_iff_toNat_le, counted]
  omega

theorem toNat_byteLength_of_le {length limit : UInt32} (below : limit < 4294967295)
    (fits : ColumnType.byteLength length ≤ limit) :
    (ColumnType.byteLength length).toNat = 3 * length.toNat := by
  have counted := ColumnType.toNat_byteLength length
  have exact' := (byteLength_le_iff length below).mp fits
  have below' : limit.toNat < 4294967295 := below
  omega

theorem varyingText_text (length : UInt32) :
    (ColumnType.varyingText length).text = textOfBytes false (3 * length.toNat) := by
  have fits : ColumnType.byteLength length ≤ 65533 ↔ 3 * length.toNat ≤ 65533 :=
    byteLength_le_iff length (by decide)
  unfold ColumnType.varyingText textOfBytes ColumnType.maxVarcharBytes
  by_cases small : ColumnType.byteLength length ≤ 65533
  · have counted := toNat_byteLength_of_le (by decide) small
    simp [small, fits.mp small, ColumnType.text, counted]
  · simp [small, mt fits.mpr small, ColumnType.text]

theorem fixedText_text (length : UInt32) :
    (ColumnType.fixedText length).text = textOfBytes true (3 * length.toNat) := by
  have fits : ColumnType.byteLength length ≤ 255 ↔ 3 * length.toNat ≤ 255 :=
    byteLength_le_iff length (by decide)
  unfold ColumnType.fixedText ColumnType.maxCharBytes
  by_cases small : ColumnType.byteLength length ≤ 255
  · have counted := toNat_byteLength_of_le (by decide) small
    simp [small, textOfBytes, fits.mp small, ColumnType.text, counted]
  · simp [small, varyingText_text, textOfBytes, mt fits.mpr small]

/-! ## What may be written -/

theorem toNat_min_le (size limit : UInt32) : (min size limit).toNat ≤ limit.toNat := by
  change (if size ≤ limit then size else limit).toNat ≤ limit.toNat
  split
  · exact UInt32.le_iff_toNat_le.mp ‹_›
  · exact Nat.le_refl _

/-- The words of the types without a size. -/
def bareWords : List String :=
  ["BOOLEAN", "TINYINT", "SMALLINT", "INT", "BIGINT", "LARGEINT", "FLOAT", "DOUBLE", "DATEV2",
    "STRING", "JSONB"]

/-- The digits and the places that a declared decimal has. -/
inductive DecimalSizes (connector : Connector) (declared : DeclaredType) : Nat → Nat → Prop where
  | declared {default : Option UInt32} {precision : UInt32}
      (named : (declared.base, default) ∈ decimalNames connector)
      (precise : declared.length.or default = some precision) :
      DecimalSizes connector declared precision.toNat (declared.scale.getD 0).toNat
  | money {precision scale : UInt32}
      (named : (declared.base, precision, scale) ∈ moneyNames connector) :
      DecimalSizes connector declared precision.toNat scale.toNat

/-- The texts that a declared type may be resolved to. -/
inductive Permitted (connector : Connector) (declared : DeclaredType) : String → Prop where
  | bare {word : String} (known : word ∈ bareWords) : Permitted connector declared word
  | char {numeral : String} (named : declared.base ∈ fixedTextNames connector)
      (spelt : SpellsPlainly numeral (3 * declared.textLength.toNat))
      (fits : 3 * declared.textLength.toNat ≤ 255) :
      Permitted connector declared ("CHAR(" ++ numeral ++ ")")
  | varchar {numeral : String}
      (named : declared.base ∈ fixedTextNames connector ++ varyingTextNames connector)
      (spelt : SpellsPlainly numeral (3 * declared.textLength.toNat))
      (fits : 3 * declared.textLength.toNat ≤ 65533) :
      Permitted connector declared ("VARCHAR(" ++ numeral ++ ")")
  | decimal {precision scale : Nat} {digits places : String}
      (sizes : DecimalSizes connector declared precision scale) (positive : 1 ≤ precision)
      (fits : precision ≤ 38) (spelt : SpellsPlainly digits precision)
      (spelt' : SpellsPlainly places scale) :
      Permitted connector declared ("DECIMALV3(" ++ digits ++ "," ++ places ++ ")")
  | datetime {precision : Nat} {numeral : String} (fits : precision ≤ 6)
      (spelt : SpellsPlainly numeral precision) :
      Permitted connector declared ("DATETIMEV2(" ++ numeral ++ ")")

section

variable {connector : Connector} {declared : DeclaredType}

theorem bare_text {type : ColumnType} (unsized : type.sizes = []) : type.text ∈ bareWords := by
  cases type <;> first | decide | cases unsized

theorem permitted_decimalOf {precision scale : UInt32}
    (sizes : DecimalSizes connector declared precision.toNat scale.toNat) :
    Permitted connector declared (ColumnType.decimalOf precision scale).text := by
  unfold ColumnType.decimalOf ColumnType.maxDecimalPrecision
  split
  · rename_i within
    obtain ⟨positive, fits⟩ : 0 < precision.toNat ∧ precision.toNat ≤ 38 := within
    exact .decimal sizes positive fits (spellsPlainly_toString _) (spellsPlainly_toString _)
  · exact .bare (by decide)

theorem permitted_textOfBytes {oneLength : Bool}
    (named : declared.base ∈ fixedTextNames connector ∨
      oneLength = false ∧ declared.base ∈ varyingTextNames connector) :
    Permitted connector declared (textOfBytes oneLength (3 * declared.textLength.toNat)) := by
  unfold textOfBytes
  split
  · rename_i small
    have fixed : declared.base ∈ fixedTextNames connector := by
      rcases named with fixed | ⟨varying, -⟩
      · exact fixed
      · exact absurd (small.1.symm.trans varying) Bool.noConfusion
    exact .char fixed (spellsPlainly_toString _) small.2
  · split
    · rename_i fits
      have either := List.mem_append.mpr (named.imp_right And.right)
      exact .varchar either (spellsPlainly_toString _) fits
    · exact .bare (by decide)

theorem Sized.permitted {type : ColumnType} (sized : Sized connector declared type) :
    Permitted connector declared type.text := by
  cases sized with
  | bare unsized => exact .bare (bare_text unsized)
  | time precision => exact .datetime (toNat_min_le precision _) (spellsPlainly_toString _)
  | fixedText named =>
      rw [fixedText_text]
      exact permitted_textOfBytes (.inl named)
  | varyingText named =>
      rw [varyingText_text]
      exact permitted_textOfBytes (.inr ⟨rfl, named⟩)
  | decimal named precise => exact permitted_decimalOf (.declared named precise)
  | money named => exact permitted_decimalOf (.money named)

end

/-! ## Resolving -/

/-- Every type that is resolved is written as one of the types above, with its sizes in
plain decimals. The texts of one length and those up to a length become exactly the
narrowest type that has three bytes for every declared character. -/
theorem resolve_sized (connector : Connector) (name : String) (length scale : Option UInt32) :
    (∀ text, TypeResolver.doris connector name length scale = .ok text →
      Permitted connector (.ofText name length scale) text) ∧
    ((DeclaredType.ofText name length scale).base ∈ fixedTextNames connector →
      TypeResolver.doris connector name length scale =
        .ok (textOfBytes true (3 * (length.getD 1).toNat))) ∧
    (∀ characters, (DeclaredType.ofText name length scale).base ∈ varyingTextNames connector →
      length = some characters →
      TypeResolver.doris connector name length scale =
        .ok (textOfBytes false (3 * characters.toNat))) := by
  refine ⟨fun text resolved => ?_, fun named => ?_, fun characters named sized => ?_⟩
  · unfold TypeResolver.doris at resolved
    cases found : resolveType connector (.ofText name length scale) with
    | error error =>
        rw [found] at resolved
        cases resolved
    | ok type =>
        rw [found] at resolved
        cases resolved
        exact (sized_of_resolveType found).permitted
  · unfold TypeResolver.doris
    rw [resolveType_fixedText named]
    exact congrArg Except.ok (fixedText_text _)
  · unfold TypeResolver.doris
    rw [resolveType_varyingText named sized]
    exact congrArg Except.ok (varyingText_text _)

/-- The last length whose bytes fit a CHAR and the next one; one whose bytes would be two if
they were counted in 32 bits; and a decimal whose sizes are not declared. -/
theorem resolve_sized_limits :
    TypeResolver.doris .mysql "char" (some 85) none = .ok "CHAR(255)" ∧
    TypeResolver.doris .mysql "character" (some 86) none = .ok "VARCHAR(258)" ∧
    TypeResolver.doris .oracle "nvarchar2" (some 1431655766) none = .ok "STRING" ∧
    TypeResolver.doris .sqlServer "money" none none = .ok "DECIMALV3(19,4)" ∧
    Permitted .sqlServer (.ofText "money" none none) "DECIMALV3(19,4)" := by
  have money : TypeResolver.doris .sqlServer "money" none none = .ok "DECIMALV3(19,4)" := by
    decide +kernel
  refine ⟨?_, ?_, ?_, money, (resolve_sized .sqlServer "money" none none).1 _ money⟩
  · exact (resolve_sized .mysql "char" (some 85) none).2.1 (by decide +kernel)
  · exact (resolve_sized .mysql "character" (some 86) none).2.1 (by decide +kernel)
  · exact (resolve_sized .oracle "nvarchar2" (some 1431655766) none).2.2 _
      (by decide +kernel) rfl

end AlterRelay.Source
