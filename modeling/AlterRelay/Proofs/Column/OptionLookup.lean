/-
# AlterRelay.Proofs.Column.OptionLookup — finding the value of an option

Tokens that spell an option's keyword in no case are passed over in all three
rounds (`valueBehind?_skip`). So an option whose keyword stands nowhere is
absent, and one whose keyword in capitals has only such tokens in front of it
has the token behind it for a value, whatever stands further behind. Conversely a
value that is found stands behind its keyword (`ColumnOption.lookup_present`).
-/
import AlterRelay.Column.OptionValue

namespace AlterRelay.Column

open AlterRelay.Text

set_option autoImplicit false

/-- A token that spells the keyword of an option in no case. -/
def ColumnOption.Passes (option : ColumnOption) (spec : String) : Prop :=
  sameIgnoringCase option.keyword spec = false

theorem valueBehind?_skip {isKeyword : String → Bool} {front : List String}
    (passed : ∀ spec ∈ front, isKeyword spec = false) (rest : List String) :
    valueBehind? isKeyword (front ++ rest) = valueBehind? isKeyword rest := by
  induction front with
  | nil => rfl
  | cons spec front ih =>
      obtain ⟨here, further⟩ := List.forall_mem_cons.mp passed
      simp [valueBehind?, here, ih further]

theorem valueBehind?_present {isKeyword : String → Bool} {specs : List String} {raw : String}
    (found : valueBehind? isKeyword specs = some (.present raw)) :
    ∃ keyword, isKeyword keyword = true ∧ [keyword, raw] <:+: specs := by
  induction specs with
  | nil => cases found
  | cons spec specs ih =>
      unfold valueBehind? at found
      split at found
      · rename_i keyword
        split at found
        · cases found
        · cases found
          exact ⟨spec, keyword, (List.prefix_append [spec, raw] _).isInfix⟩
      · obtain ⟨keyword, same, stands⟩ := ih found
        exact ⟨keyword, same, List.infix_cons stands⟩

section

variable {option : ColumnOption} {front : List String}

theorem ColumnOption.keyword_toUpper (option : ColumnOption) :
    option.keyword.toUpper = option.keyword := by
  cases option <;> decide +kernel

theorem ColumnOption.keyword_toLower_toUpper (option : ColumnOption) :
    option.keyword.toLower.toUpper = option.keyword := by
  cases option <;> decide +kernel

theorem ColumnOption.Passes.ne {spec : String} (passes : option.Passes spec) :
    spec ≠ option.keyword.toUpper ∧ spec ≠ option.keyword.toLower := by
  have other : option.keyword ≠ spec.toUpper := by
    intro same
    have spelt : sameIgnoringCase option.keyword spec = true :=
      sameIgnoringCase_iff.mpr (by rw [option.keyword_toUpper, same])
    rw [passes] at spelt
    cases spelt
  constructor
  · rintro rfl
    exact other (by rw [option.keyword_toUpper, option.keyword_toUpper])
  · rintro rfl
    exact other option.keyword_toLower_toUpper.symm

theorem ColumnOption.lookup_skip (passed : ∀ spec ∈ front, option.Passes spec)
    (rest : List String) : option.lookup (front ++ rest) = option.lookup rest := by
  have upper : ∀ spec ∈ front, (spec == option.keyword.toUpper) = false :=
    fun spec member => beq_eq_false_iff_ne.mpr (passed spec member).ne.1
  have lower : ∀ spec ∈ front, (spec == option.keyword.toLower) = false :=
    fun spec member => beq_eq_false_iff_ne.mpr (passed spec member).ne.2
  rw [ColumnOption.lookup, Column.lookup, valueBehind?_skip upper, valueBehind?_skip lower,
    valueBehind?_skip passed]
  rfl

theorem ColumnOption.lookup_absent (passed : ∀ spec ∈ front, option.Passes spec) :
    option.lookup front = .absent := by
  have skipped := lookup_skip passed []
  rw [List.append_nil] at skipped
  exact skipped

/-- A value that is found stands behind the keyword of its option, in some case. -/
theorem ColumnOption.lookup_present {specs : List String} {raw : String}
    (found : option.lookup specs = .present raw) :
    ∃ keyword, sameIgnoringCase option.keyword keyword = true ∧ [keyword, raw] <:+: specs := by
  have spelt : ∀ keyword, keyword = option.keyword.toUpper ∨ keyword = option.keyword.toLower →
      sameIgnoringCase option.keyword keyword = true := by
    rintro keyword (rfl | rfl)
    · rw [sameIgnoringCase_iff, option.keyword_toUpper, option.keyword_toUpper]
    · rw [sameIgnoringCase_iff, option.keyword_toLower_toUpper, option.keyword_toUpper]
  unfold ColumnOption.lookup Column.lookup at found
  cases upper : valueBehind? (· == option.keyword.toUpper) specs with
  | some value =>
      obtain rfl : value = .present raw := by simpa [upper] using found
      obtain ⟨keyword, same, stands⟩ := valueBehind?_present upper
      exact ⟨keyword, spelt keyword (.inl (eq_of_beq same)), stands⟩
  | none =>
      cases lower : valueBehind? (· == option.keyword.toLower) specs with
      | some value =>
          obtain rfl : value = .present raw := by simpa [upper, lower] using found
          obtain ⟨keyword, same, stands⟩ := valueBehind?_present lower
          exact ⟨keyword, spelt keyword (.inr (eq_of_beq same)), stands⟩
      | none =>
          cases mixed : valueBehind? (sameIgnoringCase option.keyword) specs with
          | some value =>
              obtain rfl : value = .present raw := by simpa [upper, lower, mixed] using found
              exact valueBehind?_present mixed
          | none => simp [upper, lower, mixed] at found

theorem ColumnOption.lookup_keyword (option : ColumnOption) (raw : String)
    (rest : List String) : option.lookup (option.keyword :: raw :: rest) = .present raw := by
  simp [ColumnOption.lookup, Column.lookup, valueBehind?, option.keyword_toUpper]

end

end AlterRelay.Column
