/-
# AlterRelay.Proofs.Column.OptionPlace — where the keyword of an option stands

The three rounds of a lookup choose a place among the tokens behind a type, and the
value is what stands right behind it (`ColumnOption.lookup_eq`). Tokens that spell no
keyword, put in anywhere, move the chosen place along with the token that was there
(`ColumnOption.place?_insert`). So they change the value only where they are put
between the chosen keyword and what stands behind it (`ColumnOption.lookup_insert`).
-/
import AlterRelay.Proofs.Column.OptionLookup

namespace AlterRelay.Column

open AlterRelay.Text

set_option autoImplicit false

/-- The place of the keyword that counts: the first in capitals, else the first in small
letters, else the first in any other case. -/
def ColumnOption.place? (option : ColumnOption) (specs : List String) : Option Nat :=
  (specs.findIdx? (· == option.keyword.toUpper)).or
    ((specs.findIdx? (· == option.keyword.toLower)).or
      (specs.findIdx? (sameIgnoringCase option.keyword)))

/-- The value of a keyword at some place. -/
def OptionValue.behind (specs : List String) (place : Nat) : OptionValue :=
  match specs[place + 1]? with
  | some raw => .present raw
  | none => .dangling

/-- Where the token at some place stands after `count` tokens are put in behind the first
`front` ones. -/
def shifted (front count place : Nat) : Nat := if place < front then place else place + count

section

variable {option : ColumnOption} {isKeyword : String → Bool} {xs us ys : List String}

/-! ## Places -/

theorem valueBehind?_eq (isKeyword : String → Bool) (specs : List String) :
    valueBehind? isKeyword specs = (specs.findIdx? isKeyword).map (OptionValue.behind specs) := by
  induction specs with
  | nil => rfl
  | cons spec specs ih =>
      rw [List.findIdx?_cons]
      cases here : isKeyword spec with
      | true => cases specs <;> simp [valueBehind?, here, OptionValue.behind]
      | false =>
          have later : OptionValue.behind (spec :: specs) ∘ (· + 1) = OptionValue.behind specs := by
            funext place
            simp [OptionValue.behind]
          simp [valueBehind?, here, ih, later]

/-- A lookup takes what stands behind the keyword that counts. -/
theorem ColumnOption.lookup_eq (option : ColumnOption) (specs : List String) :
    option.lookup specs =
      ((option.place? specs).map (OptionValue.behind specs)).getD .absent := by
  simp only [ColumnOption.lookup, Column.lookup, valueBehind?_eq, ColumnOption.place?,
    Option.map_or]

/-! ## Tokens put in -/

theorem findIdx?_insert (passed : ∀ spec ∈ us, isKeyword spec = false) (xs ys : List String) :
    (xs ++ us ++ ys).findIdx? isKeyword =
      ((xs ++ ys).findIdx? isKeyword).map (shifted xs.length us.length) := by
  have none_among : us.findIdx? isKeyword = none :=
    List.findIdx?_eq_none_iff.mpr passed
  rw [List.findIdx?_append, List.findIdx?_append, List.findIdx?_append, none_among]
  cases found : xs.findIdx? isKeyword with
  | some place =>
      have among : place < xs.length := (List.findIdx?_eq_some_iff_getElem.mp found).1
      simp [shifted, among]
  | none =>
      cases ys.findIdx? isKeyword with
      | none => rfl
      | some place =>
          have behind : ¬ place + xs.length < xs.length := by omega
          simp [shifted, behind]
          omega

/-- Tokens that spell no keyword take the place that counts along with them. -/
theorem ColumnOption.place?_insert (passed : ∀ spec ∈ us, option.Passes spec)
    (xs ys : List String) :
    option.place? (xs ++ us ++ ys) =
      (option.place? (xs ++ ys)).map (shifted xs.length us.length) := by
  have upper : ∀ spec ∈ us, (spec == option.keyword.toUpper) = false :=
    fun spec member => beq_eq_false_iff_ne.mpr (passed spec member).ne.1
  have lower : ∀ spec ∈ us, (spec == option.keyword.toLower) = false :=
    fun spec member => beq_eq_false_iff_ne.mpr (passed spec member).ne.2
  rw [ColumnOption.place?, findIdx?_insert upper, findIdx?_insert lower, findIdx?_insert passed,
    ← Option.map_or, ← Option.map_or]
  rfl

/-- Unless tokens are put in right behind a keyword, the same token stands behind it. -/
theorem behind_insert {place : Nat} (apart : place + 1 ≠ xs.length) (us ys : List String) :
    OptionValue.behind (xs ++ us ++ ys) (shifted xs.length us.length place) =
      OptionValue.behind (xs ++ ys) place := by
  have same : (xs ++ us ++ ys)[shifted xs.length us.length place + 1]? =
      (xs ++ ys)[place + 1]? := by
    unfold shifted
    split
    · rw [List.append_assoc, List.getElem?_append_left (by omega),
        List.getElem?_append_left (by omega)]
    · rw [List.getElem?_append_right (by simp; omega), List.getElem?_append_right (by omega)]
      congr 1
      simp
      omega
  rw [OptionValue.behind, OptionValue.behind, same]

/-- Tokens that spell no keyword change no value, unless they are put in between the keyword
that counts and what stands behind it. -/
theorem ColumnOption.lookup_insert (passed : ∀ spec ∈ us, option.Passes spec)
    (apart : ∀ place, option.place? (xs ++ ys) = some place → place + 1 ≠ xs.length) :
    option.lookup (xs ++ us ++ ys) = option.lookup (xs ++ ys) := by
  rw [option.lookup_eq, option.lookup_eq, place?_insert passed]
  cases chosen : option.place? (xs ++ ys) with
  | none => rfl
  | some place => exact behind_insert (apart place chosen) us ys

end

end AlterRelay.Column
