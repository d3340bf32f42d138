/-
# AlterRelay.Proofs.Source.CreatableType — when a resolved type can be created

Doris creates a text of at least one byte and a decimal with no more places than
digits. The sizing rules hold every other limit, but neither of these two: a text
declared with no characters at all stays a text of no bytes, and a decimal keeps the
places that it is declared with, be they more than its digits.

`creatable_iff` says which questions these are: a resolved type can be created unless
its declaration is one of them (`Misdeclared`). `misdeclared_uncreatable` has one of each.
-/
import AlterRelay.Proofs.Source.TypeFamilies

namespace AlterRelay.Source

open AlterRelay.Doris (ColumnType)

set_option autoImplicit false

/-- Whether a table of Doris may have a column of a type. -/
def Creatable : ColumnType → Prop
  | .char bytes | .varchar bytes => 1 ≤ bytes.toNat
  | .decimal precision scale =>
      1 ≤ precision.toNat ∧ precision.toNat ≤ 38 ∧ scale.toNat ≤ precision.toNat
  | _ => True

instance : DecidablePred Creatable
  | .char bytes | .varchar bytes => inferInstanceAs (Decidable (1 ≤ bytes.toNat))
  | .decimal precision scale =>
      inferInstanceAs (Decidable
        (1 ≤ precision.toNat ∧ precision.toNat ≤ 38 ∧ scale.toNat ≤ precision.toNat))
  | .boolean | .tinyint | .smallint | .int | .bigint | .largeint | .float | .double | .date
  | .string | .json | .datetime _ => .isTrue trivial

/-- A text of no characters, or a decimal of at most 38 digits with more places than digits. -/
inductive Misdeclared (connector : Connector) (declared : DeclaredType) : Prop where
  | emptyText
      (named : declared.base ∈ fixedTextNames connector ++ varyingTextNames connector)
      (empty : declared.length = some 0)
  | finerThanPrecise {default : Option UInt32} {precision : UInt32}
      (named : (declared.base, default) ∈ decimalNames connector)
      (precise : declared.length.or default = some precision)
      (positive : 0 < precision) (within : precision ≤ ColumnType.maxDecimalPrecision)
      (finer : precision < declared.scale.getD 0)

section

variable {connector : Connector} {declared : DeclaredType} {type : ColumnType}

/-! ## Sizing rules -/

/-- Only no characters have no bytes. -/
theorem one_le_byteLength (length : UInt32) :
    1 ≤ (ColumnType.byteLength length).toNat ↔ length ≠ 0 := by
  have counted := ColumnType.toNat_byteLength length
  have zero : length = 0 ↔ length.toNat = 0 := UInt32.toNat_inj.symm
  rw [ne_eq, zero]
  omega

theorem creatable_varyingText (length : UInt32) :
    Creatable (.varyingText length) ↔ length ≠ 0 := by
  unfold ColumnType.varyingText
  split
  · exact one_le_byteLength length
  · rename_i large
    refine iff_of_true trivial fun empty => large ?_
    rw [empty]
    decide

theorem creatable_fixedText (length : UInt32) :
    Creatable (.fixedText length) ↔ length ≠ 0 := by
  unfold ColumnType.fixedText
  split
  · exact one_le_byteLength length
  · exact creatable_varyingText length

theorem creatable_decimalOf (precision scale : UInt32) :
    Creatable (.decimalOf precision scale) ↔
      (0 < precision ∧ precision ≤ ColumnType.maxDecimalPrecision → scale ≤ precision) := by
  unfold ColumnType.decimalOf
  split
  · rename_i within
    have bounds : 1 ≤ precision.toNat ∧ precision.toNat ≤ 38 := within
    simp only [Creatable, bounds, within, true_and, and_self, true_implies,
      UInt32.le_iff_toNat_le]
  · simp [Creatable, *]

theorem creatable_bare (unsized : type.sizes = []) : Creatable type := by
  cases type <;> trivial

theorem creatable_money {precision scale : UInt32}
    (named : (declared.base, precision, scale) ∈ moneyNames connector) :
    Creatable (.decimalOf precision scale) := by
  have each : ∀ member ∈ moneyNames connector, Creatable (.decimalOf member.2.1 member.2.2) := by
    cases connector <;> simp [moneyNames, creatable_decimalOf]
  exact each _ named

/-! ## Declarations -/

theorem length_of_textLength_eq_zero (empty : declared.textLength = 0) :
    declared.length = some 0 := by
  unfold DeclaredType.textLength at empty
  cases sized : declared.length with
  | none =>
      rw [sized] at empty
      cases empty
  | some length =>
      rw [sized] at empty
      exact congrArg some empty

/-- What has its sizes from a declaration can be created if the declaration is none of those. -/
theorem Sized.creatable (sized : Sized connector declared type)
    (wellDeclared : ¬ Misdeclared connector declared) : Creatable type := by
  cases sized with
  | bare unsized => exact creatable_bare unsized
  | time precision => trivial
  | fixedText named =>
      refine (creatable_fixedText _).mpr fun empty => wellDeclared ?_
      exact .emptyText (List.mem_append_left _ named) (length_of_textLength_eq_zero empty)
  | varyingText named =>
      refine (creatable_varyingText _).mpr fun empty => wellDeclared ?_
      exact .emptyText (List.mem_append_right _ named) (length_of_textLength_eq_zero empty)
  | decimal named precise =>
      refine (creatable_decimalOf _ _).mpr fun ⟨positive, within⟩ => ?_
      refine UInt32.not_lt.mp fun finer => ?_
      exact wellDeclared (.finerThanPrecise named precise positive within finer)
  | money named => exact creatable_money named

/-- Those declarations are resolved, and to types that cannot be created. -/
theorem Misdeclared.resolveType (wrong : Misdeclared connector declared) :
    ∃ type, Source.resolveType connector declared = .ok type ∧ ¬ Creatable type := by
  cases wrong with
  | emptyText named empty =>
      rcases List.mem_append.mp named with fixed | varying
      · refine ⟨_, resolveType_fixedText fixed, fun creatable => ?_⟩
        have zero : declared.textLength = 0 := by rw [DeclaredType.textLength, empty]; rfl
        exact (creatable_fixedText _).mp creatable zero
      · exact ⟨_, resolveType_varyingText varying empty, fun creatable =>
          (creatable_varyingText _).mp creatable rfl⟩
  | finerThanPrecise named precise positive within finer =>
      cases places : declared.scale with
      | none =>
          rw [places] at finer
          exact absurd (UInt32.lt_trans positive finer) (by decide)
      | some scale =>
          rw [places] at finer
          refine ⟨_, resolveType_decimal named precise places (UInt32.lt_trans positive finer), ?_⟩
          intro creatable
          have fits := (creatable_decimalOf _ _).mp creatable ⟨positive, within⟩
          exact UInt32.not_lt.mpr fits finer

end

/-- A resolved type is the one that is written, and it can be created unless its declaration
is a text of no characters or a decimal with more places than digits. -/
theorem creatable_iff (connector : Connector) (name : String) (length scale : Option UInt32)
    (type : ColumnType)
    (resolved : resolveType connector (.ofText name length scale) = .ok type) :
    TypeResolver.doris connector name length scale = .ok type.text ∧
    (Creatable type ↔ ¬ Misdeclared connector (.ofText name length scale)) := by
  refine ⟨?_, fun creatable wrong => ?_, fun wellDeclared => ?_⟩
  · unfold TypeResolver.doris
    rw [resolved]
    rfl
  · obtain ⟨other, resolved', uncreatable⟩ := wrong.resolveType
    rw [resolved] at resolved'
    cases resolved'
    exact uncreatable creatable
  · exact (sized_of_resolveType resolved).creatable wellDeclared

/-- A decimal with as many places as digits. -/
theorem creatable_iff_tightest :
    resolveType .oracle (.ofText "number" (some 5) (some 5)) = .ok (.decimal 5 5) ∧
    TypeResolver.doris .oracle "number" (some 5) (some 5) = .ok "DECIMALV3(5,5)" ∧
    (Creatable (.decimal 5 5) ↔ ¬ Misdeclared .oracle (.ofText "number" (some 5) (some 5))) := by
  have resolved : resolveType .oracle (.ofText "number" (some 5) (some 5)) =
      .ok (.decimal 5 5) := by
    decide +kernel
  exact ⟨resolved, creatable_iff .oracle "number" (some 5) (some 5) _ resolved⟩

/-- A number of two digits, five places behind the point, is a decimal that Doris refuses, and
a text of no characters is one of no bytes. -/
theorem misdeclared_uncreatable :
    (TypeResolver.doris .oracle "NUMBER" (some 2) (some 5) = .ok "DECIMALV3(2,5)" ∧
      ¬ Creatable (.decimal 2 5)) ∧
    (TypeResolver.doris .mysql "CHAR" (some 0) none = .ok "CHAR(0)" ∧ ¬ Creatable (.char 0)) := by
  decide +kernel

end AlterRelay.Source
