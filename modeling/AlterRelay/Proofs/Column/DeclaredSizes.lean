/-
# AlterRelay.Proofs.Column.DeclaredSizes — the sizes that arguments declare

`Declares` says what the arguments of a type declare, without a word about how they
are read: a length, and a scale if there are exactly two of them. The argument that
is no numeral is told instead, the first before the second. Every list of arguments
declares one thing (`Declares.unique`), and that is what is read
(`Declares.ofArguments`).

A numeral is a run of ASCII digits, behind a plus sign or not, whose value fits
(`IsNumeral`). Zeros in front count for nothing, and no sum wraps around.
-/
import AlterRelay.Column.TypeSizes

namespace AlterRelay.Column

open AlterRelay.Text

set_option autoImplicit false

/-! ## Numerals -/

/-- ASCII digits of this value, behind a plus sign or not. -/
def IsNumeral (text : String) (size : UInt32) : Prop :=
  ∃ digits : List Char, (text.toList = digits ∨ text.toList = '+' :: digits) ∧ digits ≠ [] ∧
    (∀ c ∈ digits, c.isDigit = true) ∧ digitsValue digits = size.toNat

/-- A text that is no numeral of any size. -/
def NoNumeral (text : String) : Prop := ∀ size, ¬IsNumeral text size

theorem numeral?_eq_some {text : List Char} {size : UInt32} :
    numeral? text = some size ↔ unsigned text ≠ [] ∧
      (∀ c ∈ unsigned text, c.isDigit = true) ∧ digitsValue (unsigned text) = size.toNat := by
  unfold numeral?
  dsimp only
  split
  · rename_i other
    simp only [Bool.or_eq_true, List.isEmpty_iff, Bool.not_eq_true', List.all_eq_false] at other
    refine ⟨nofun, fun ⟨nonempty, digits, _⟩ => ?_⟩
    rcases other with empty | ⟨c, member, noDigit⟩
    · exact absurd empty nonempty
    · exact absurd (digits c member) noDigit
  · rename_i proper
    simp only [Bool.or_eq_true, List.isEmpty_iff, Bool.not_eq_true', not_or,
      Bool.not_eq_false, List.all_eq_true] at proper
    split
    · rw [Option.some_inj, ← UInt32.toNat_inj, UInt32.toNat_ofNatLT]
      exact ⟨fun same => ⟨proper.1, proper.2, same⟩, fun all => all.2.2⟩
    · rename_i large
      refine ⟨nofun, fun ⟨_, _, same⟩ => ?_⟩
      exact absurd (same ▸ size.toNat_lt) large

theorem unsigned_of_digits {digits : List Char} (all : ∀ c ∈ digits, c.isDigit = true) :
    unsigned digits = digits := by
  unfold unsigned
  split
  · exact absurd (all '+' List.mem_cons_self) (by decide)
  · rfl

theorem numeral?_iff {text : String} {size : UInt32} :
    numeral? text.toList = some size ↔ IsNumeral text size := by
  rw [numeral?_eq_some]
  constructor
  · rintro ⟨nonempty, digits, same⟩
    refine ⟨unsigned text.toList, ?_, nonempty, digits, same⟩
    unfold unsigned
    split
    · rename_i plus
      exact .inr plus
    · exact .inl rfl
  · rintro ⟨digits, spelt, nonempty, all, same⟩
    have behind : unsigned text.toList = digits := by
      rcases spelt with bare | plus
      · rw [bare, unsigned_of_digits all]
      · rw [plus]
        rfl
    rw [behind]
    exact ⟨nonempty, all, same⟩

theorem IsNumeral.unique {text : String} {size size' : UInt32} (numeral : IsNumeral text size)
    (numeral' : IsNumeral text size') : size = size' :=
  Option.some.inj ((numeral?_iff.mpr numeral).symm.trans (numeral?_iff.mpr numeral'))

theorem noNumeral_of_numeral? {text : String} (none : numeral? text.toList = none) :
    NoNumeral text := by
  intro size numeral
  rw [numeral?_iff.mpr numeral] at none
  cases none

/-! ## Arguments -/

/-- The sizes that the arguments of a type declare, or the argument that should be a numeral. -/
inductive Declares : List String → Except String TypeSizes → Prop where
  | nothing : Declares [] (.ok ⟨none, none⟩)
  | one {first : String} {length : UInt32} (numeral : IsNumeral first length) :
      Declares [first] (.ok ⟨some length, none⟩)
  | two {first second : String} {length scale : UInt32} (numeral : IsNumeral first length)
      (numeral' : IsNumeral second scale) :
      Declares [first, second] (.ok ⟨some length, some scale⟩)
  | several {first second third : String} {length : UInt32} (numeral : IsNumeral first length)
      (more : List String) :
      Declares (first :: second :: third :: more) (.ok ⟨some length, none⟩)
  | malformedLength {first : String} (noNumeral : NoNumeral first) (more : List String) :
      Declares (first :: more) (.error first)
  | malformedScale {first second : String} {length : UInt32} (numeral : IsNumeral first length)
      (noNumeral : NoNumeral second) : Declares [first, second] (.error second)

theorem Declares.unique {arguments : List String} {declared declared' : Except String TypeSizes}
    (declares : Declares arguments declared) (declares' : Declares arguments declared') :
    declared = declared' := by
  cases declares <;> cases declares' <;> grind [IsNumeral.unique, NoNumeral]

/-- A text that nothing is trimmed off is read as a size if it is a numeral. -/
theorem readSize_cases {argument : String} (trimmed : trimBlank argument.toList = argument.toList) :
    (∃ size, IsNumeral argument size ∧ readSize argument = .ok size) ∨
      NoNumeral argument ∧ readSize argument = .error argument := by
  unfold readSize
  rw [trimmed]
  cases read : numeral? argument.toList with
  | none => exact .inr ⟨noNumeral_of_numeral? read, rfl⟩
  | some size => exact .inl ⟨size, numeral?_iff.mp read, rfl⟩

theorem Declares.ofArguments {arguments : List String}
    (trimmed : ∀ argument ∈ arguments, trimBlank argument.toList = argument.toList) :
    Declares arguments (TypeSizes.ofArguments arguments) := by
  match arguments, trimmed with
  | [], _ => exact .nothing
  | first :: more, trimmed =>
      obtain ⟨here, others⟩ := List.forall_mem_cons.mp trimmed
      rcases readSize_cases here with ⟨length, numeral, read⟩ | ⟨noNumeral, read⟩
      · match more, others with
        | [], _ =>
            simpa [TypeSizes.ofArguments, read, bind, Except.bind, pure, Except.pure] using
              Declares.one numeral
        | [second], others =>
            rcases readSize_cases (others second List.mem_cons_self) with
              ⟨scale, numeral', read'⟩ | ⟨noNumeral, read'⟩
            · simpa [TypeSizes.ofArguments, read, read', bind, Except.bind, pure, Except.pure]
                using Declares.two numeral numeral'
            · simpa [TypeSizes.ofArguments, read, read', bind, Except.bind] using
                Declares.malformedScale numeral noNumeral
        | second :: third :: more, _ =>
            simpa [TypeSizes.ofArguments, read, bind, Except.bind, pure, Except.pure] using
              Declares.several numeral more
      -- Without a first size the second argument is not looked at.
      · have failed : TypeSizes.ofArguments (first :: more) = .error first := by
          match more with
          | [] => simp [TypeSizes.ofArguments, read, bind, Except.bind]
          | [second] => simp [TypeSizes.ofArguments, read, bind, Except.bind]
          | second :: third :: more => simp [TypeSizes.ofArguments, read, bind, Except.bind]
        rw [failed]
        exact .malformedLength noNumeral more

end AlterRelay.Column
