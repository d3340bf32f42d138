/-
# AlterRelay.Proofs.Source.DigitRange — the integers of Oracle lose no digits

A `NUMBER` of so many digits and no places becomes an integer type of Doris, or a text
where no integer type is wide enough. What a type holds is said in two's complement and
what a declaration asks for in powers of ten, so that every boundary of the table is a
comparison of the two: an integer type holds all numbers of at most as many digits as the
logarithm of its limit (`holdsDigits_iff`), and the boundaries of `integerOfDigits` are
these logarithms (`room_of_integer`).

`oracle_number_narrowest` says of every precision that the type holds every number of the
declared digits and that no narrower one does (`Narrowest`), and that more digits never get
a type that holds less.
-/
import AlterRelay.Source.TypeResolver
import Mathlib.Data.Nat.Log
import Mathlib.Tactic.NormNum.NatLog
import Mathlib.Tactic.Positivity

namespace AlterRelay.Source

open AlterRelay.Doris (ColumnType)

set_option autoImplicit false

/-- The bits of an integer type, the one for the sign included. -/
def integerBits? : ColumnType → Option Nat
  | .tinyint => some 8
  | .smallint => some 16
  | .int => some 32
  | .bigint => some 64
  | .largeint => some 128
  | _ => none

/-- The whole numbers that a type holds: a text holds any, an integer type those of its bits
in two's complement. -/
def Holds (type : ColumnType) (value : Int) : Prop :=
  match integerBits? type with
  | some bits => -2 ^ (bits - 1) ≤ value ∧ value < 2 ^ (bits - 1)
  | none => type = .string

def HoldsDigits (type : ColumnType) (digits : Nat) : Prop :=
  ∀ value : Int, value.natAbs < 10 ^ digits → Holds type value

/-- A type for all whole numbers of so many digits: an integer type if one is wide enough, and
none narrower than it; otherwise a text. -/
structure Narrowest (digits : Nat) (type : ColumnType) : Prop where
  shape : type = .string ∨ (integerBits? type).isSome
  holds : HoldsDigits type digits
  isText : type = .string ↔ 38 < digits
  narrowest : ∀ {other : ColumnType} {bits : Nat}, integerBits? other = some bits →
    HoldsDigits other digits → ∃ own ≤ bits, integerBits? type = some own

section

variable {type other : ColumnType} {bits digits : Nat}

/-! ## Digits and bits -/

theorem holds_of_integer (sized : integerBits? type = some bits) (value : Int) :
    Holds type value ↔ -2 ^ (bits - 1) ≤ value ∧ value < 2 ^ (bits - 1) := by
  unfold Holds
  rw [sized]

/-- The largest number of so many digits decides: where it is held, the others are. -/
theorem holdsDigits_iff (sized : integerBits? type = some bits) :
    HoldsDigits type digits ↔ digits ≤ Nat.log 10 (2 ^ (bits - 1)) := by
  rw [Nat.le_log_iff_pow_le (by decide) (by positivity)]
  constructor
  · intro holds
    have positive : 0 < 10 ^ digits := by positivity
    have largest := holds ((10 ^ digits - 1 : Nat) : Int) (by rw [Int.natAbs_natCast]; omega)
    have below : 10 ^ digits - 1 < 2 ^ (bits - 1) := by
      exact_mod_cast ((holds_of_integer sized _).mp largest).2
    omega
  · intro fits value small
    have below : (value.natAbs : Int) < 2 ^ (bits - 1) := by
      exact_mod_cast lt_of_lt_of_le small fits
    rw [holds_of_integer sized]
    omega

/-- The bits of the integer types, with the digits that they have room for. -/
def integerRooms : List (Nat × Nat) := [(8, 2), (16, 4), (32, 9), (64, 18), (128, 38)]

theorem room_of_integer (sized : integerBits? type = some bits) :
    (bits, Nat.log 10 (2 ^ (bits - 1))) ∈ integerRooms := by
  cases type <;> cases sized <;> norm_num [integerRooms]

theorem room_le {room : Nat} (known : (bits, room) ∈ integerRooms) : room ≤ 38 := by
  simp [integerRooms] at known
  omega

theorem room_unique {room room' : Nat} (known : (bits, room) ∈ integerRooms)
    (known' : (bits, room') ∈ integerRooms) : room = room' := by
  simp [integerRooms] at known known'
  omega

theorem holds_of_fewer_bits {fewer : Nat} (sized : integerBits? type = some fewer)
    (sized' : integerBits? other = some bits) (fewer_le : fewer ≤ bits) {value : Int}
    (held : Holds type value) : Holds other value := by
  have limits : (2 : Int) ^ (fewer - 1) ≤ 2 ^ (bits - 1) :=
    pow_le_pow_right₀ (by decide) (by omega)
  rw [holds_of_integer sized] at held
  rw [holds_of_integer sized']
  omega

/-! ## Boundaries -/

/-- The table takes the first of the integer types that has room, and a text if none has. -/
theorem integerOfDigits_room (precision : UInt32) :
    TypeTable.integerOfDigits precision = .string ∧ 38 < precision.toNat ∨
      ∃ bits room, integerBits? (TypeTable.integerOfDigits precision) = some bits ∧
        precision.toNat ≤ room ∧ (bits, room) ∈ integerRooms ∧
        ∀ wide ∈ integerRooms, precision.toNat ≤ wide.2 → bits ≤ wide.1 := by
  unfold TypeTable.integerOfDigits
  simp only [UInt32.lt_iff_toNat_lt, UInt32.le_iff_toNat_le, UInt32.reduceToNat]
  generalize precision.toNat = digits
  split
  · exact .inr ⟨8, 2, rfl, by omega, by decide, by simp [integerRooms]⟩
  split
  · exact .inr ⟨16, 4, rfl, by omega, by decide, by simp [integerRooms]; omega⟩
  split
  · exact .inr ⟨32, 9, rfl, by omega, by decide, by simp [integerRooms]; omega⟩
  split
  · exact .inr ⟨64, 18, rfl, by omega, by decide, by simp [integerRooms]; omega⟩
  split
  · exact .inr ⟨128, 38, rfl, by omega, by decide, by simp [integerRooms]; omega⟩
  · exact .inl ⟨rfl, by omega⟩

theorem narrowest_integerOfDigits (precision : UInt32) :
    Narrowest precision.toNat (TypeTable.integerOfDigits precision) := by
  rcases integerOfDigits_room precision with
    ⟨text, beyond⟩ | ⟨bits, room, sized, fits, known, least⟩
  · refine ⟨.inl text, fun value _ => ?_, iff_of_true text beyond, fun sized holds => ?_⟩
    · rw [text]
      rfl
    · have fits := (holdsDigits_iff sized).mp holds
      have room_le := room_le (room_of_integer sized)
      omega
  · have room_eq := room_unique (room_of_integer sized) known
    have room_le := room_le known
    refine ⟨.inr (by rw [sized]; rfl), ?_, ?_, fun sized' holds => ?_⟩
    · rw [holdsDigits_iff sized, room_eq]
      exact fits
    · refine iff_of_false (fun text => ?_) (by omega)
      rw [text] at sized
      cases sized
    · exact ⟨bits, least _ (room_of_integer sized') ((holdsDigits_iff sized').mp holds), sized⟩

/-- What is the narrowest type for some digits holds no more than that for more digits. -/
theorem Narrowest.holds_of_le {more : Nat} (narrow : Narrowest digits type)
    (narrow' : Narrowest more other) (digits_le : digits ≤ more) {value : Int}
    (held : Holds type value) : Holds other value := by
  rcases narrow'.shape with rfl | integer
  · rfl
  · obtain ⟨bits, sized⟩ := Option.isSome_iff_exists.mp integer
    have wide : HoldsDigits other digits := fun number small =>
      narrow'.holds number (lt_of_lt_of_le small (Nat.pow_le_pow_right (by decide) digits_le))
    obtain ⟨own, own_le, sized'⟩ := narrow.narrowest sized wide
    exact holds_of_fewer_bits sized' sized own_le held

/-! ## Questions -/

/-- The sizes are no part of the base. -/
theorem base_ofText (name : String) (length scale : Option UInt32) :
    (DeclaredType.ofText name length scale).base = (DeclaredType.ofText name none none).base := rfl

/-- A number without places asks for the digits alone. -/
theorem doris_number {name : String}
    (number : (DeclaredType.ofText name none none).base = "NUMBER") (precision : UInt32)
    {scale : Option UInt32} (whole : scale = none ∨ scale = some 0) :
    TypeResolver.doris .oracle name (some precision) scale =
      .ok (TypeTable.integerOfDigits precision).text := by
  have choice : TypeTable.oracle (.ofText name (some precision) scale) =
      .target (TypeTable.oracleNumber (some precision) scale) := by
    unfold TypeTable.oracle
    rw [base_ofText, number]
    rfl
  have digitsOnly : TypeTable.oracleNumber (some precision) scale =
      TypeTable.integerOfDigits precision := by
    rcases whole with rfl | rfl <;> rfl
  simp [TypeResolver.doris, resolveType, Connector.typeTable?, choice, digitsOnly, Except.map]

end

/-- Oracle integers lose no digits: whatever the precision, the type that a whole `NUMBER` is
resolved to holds every number of so many digits, is a text exactly for more than 38 digits, and
is no wider than it must be. A larger precision never gets a type that holds less. -/
theorem oracle_number_narrowest (name : String)
    (number : (DeclaredType.ofText name none none).base = "NUMBER") :
    ∃ typeOf : UInt32 → ColumnType, ∀ precision, 1 ≤ precision →
      (∀ scale, scale = none ∨ scale = some 0 →
        TypeResolver.doris .oracle name (some precision) scale = .ok (typeOf precision).text) ∧
      Narrowest precision.toNat (typeOf precision) ∧
      ∀ larger, precision ≤ larger → ∀ value, Holds (typeOf precision) value →
        Holds (typeOf larger) value := by
  refine ⟨TypeTable.integerOfDigits, fun precision _ => ⟨fun scale whole => ?_, ?_, ?_⟩⟩
  · exact doris_number number precision whole
  · exact narrowest_integerOfDigits precision
  · intro larger precision_le value held
    exact (narrowest_integerOfDigits precision).holds_of_le (narrowest_integerOfDigits larger)
      (UInt32.le_iff_toNat_le.mp precision_le) held

/-- A number of 19 digits, in small letters, is one too many for 64 bits. -/
theorem oracle_number_nineteen :
    TypeResolver.doris .oracle "number" (some 19) (some 0) = .ok "LARGEINT" ∧
      ∃ typeOf : UInt32 → ColumnType, ∀ precision, 1 ≤ precision →
        (∀ scale, scale = none ∨ scale = some 0 →
          TypeResolver.doris .oracle "number" (some precision) scale =
            .ok (typeOf precision).text) ∧
        Narrowest precision.toNat (typeOf precision) ∧
        ∀ larger, precision ≤ larger → ∀ value, Holds (typeOf precision) value →
          Holds (typeOf larger) value :=
  ⟨by decide +kernel, oracle_number_narrowest "number" (by decide +kernel)⟩

end AlterRelay.Source
