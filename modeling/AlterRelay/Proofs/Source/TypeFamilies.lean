/-
# AlterRelay.Proofs.Source.TypeFamilies — which declared types carry a size

Of the types that a source database knows, only three families take their sizes
into the Doris type: texts of a fixed length, texts up to a length, and decimals.
Every connector has its own names for them, and its own precision for a decimal
that is declared without one.

`resolveType_fixedText`, `resolveType_varyingText` and `resolveType_decimal` say
what becomes of the members of a family. `sized_of_resolveType` says that there is
nothing else: whatever a table answers is a type without a size, a time, or comes
from one of the families by its sizing rule (`Sized`).
-/
import AlterRelay.Proofs.Doris.WrittenChange
import AlterRelay.Source.TypeResolver

namespace AlterRelay.Source

open AlterRelay.Doris (ColumnType)

set_option autoImplicit false

/-! ## Names -/

/-- The names of the types that hold texts of one length. -/
def fixedTextNames : Connector → List String
  | .mysql => ["CHAR", "CHARACTER"]
  | .oracle => ["CHAR", "NCHAR", "CHARACTER"]
  | .postgres => ["BPCHAR", "CHAR", "CHARACTER"]
  | .sqlServer => ["CHAR", "NCHAR"]
  | .mongoDb | .db2 => []

/-- The names of the types that hold texts up to a length. -/
def varyingTextNames : Connector → List String
  | .mysql => ["VARCHAR", "CHARACTER VARYING"]
  | .oracle => ["VARCHAR", "VARCHAR2", "NVARCHAR2"]
  | .postgres => ["VARCHAR", "CHARACTER VARYING"]
  | .sqlServer => ["VARCHAR", "NVARCHAR"]
  | .mongoDb | .db2 => []

/-- The names of the decimal types, each with the precision it has if none is declared. -/
def decimalNames : Connector → List (String × Option UInt32)
  | .mysql => [("DECIMAL", some 10), ("DEC", some 10), ("NUMERIC", some 10), ("FIXED", some 10)]
  | .oracle => [("DECIMAL", some 38), ("NUMERIC", some 38), ("NUMBER", none)]
  | .postgres => [("NUMERIC", none), ("DECIMAL", none)]
  | .sqlServer => [("DECIMAL", some 18), ("NUMERIC", some 18)]
  | .mongoDb | .db2 => []

/-- The amounts of money, whose precision and scale are fixed. -/
def moneyNames : Connector → List (String × UInt32 × UInt32)
  | .sqlServer => [("MONEY", 19, 4), ("SMALLMONEY", 10, 4)]
  | _ => []

/-! ## What becomes of a family -/

/-- The length that a type is declared with, which is one if none is. -/
def DeclaredType.textLength (declared : DeclaredType) : UInt32 := declared.length.getD 1

section

variable {connector : Connector} {declared : DeclaredType}

theorem resolveType_fixedText (named : declared.base ∈ fixedTextNames connector) :
    resolveType connector declared = .ok (.fixedText declared.textLength) := by
  obtain ⟨base, unsigned, length, scale⟩ := declared
  have each : ∀ base ∈ fixedTextNames connector,
      resolveType connector ⟨base, unsigned, length, scale⟩ = .ok (.fixedText (length.getD 1)) := by
    cases connector <;>
      simp only [fixedTextNames, List.forall_mem_cons, List.not_mem_nil, false_implies,
        implies_true, and_true]
    all_goals repeat' apply And.intro
    all_goals rfl
  exact each base named

theorem resolveType_varyingText {length : UInt32}
    (named : declared.base ∈ varyingTextNames connector) (sized : declared.length = some length) :
    resolveType connector declared = .ok (.varyingText length) := by
  obtain ⟨base, unsigned, _, scale⟩ := declared
  cases sized
  have each : ∀ base ∈ varyingTextNames connector,
      resolveType connector ⟨base, unsigned, some length, scale⟩ = .ok (.varyingText length) := by
    cases connector <;>
      simp only [varyingTextNames, List.forall_mem_cons, List.not_mem_nil, false_implies,
        implies_true, and_true]
    all_goals repeat' apply And.intro
    all_goals rfl
  exact each base named

/-- A decimal with places behind the point; without them, one of the names means an integer. -/
theorem resolveType_decimal {default : Option UInt32} {precision scale : UInt32}
    (named : (declared.base, default) ∈ decimalNames connector)
    (precise : declared.length.or default = some precision) (places : declared.scale = some scale)
    (someplace : 0 < scale) :
    resolveType connector declared = .ok (.decimalOf precision scale) := by
  obtain ⟨base, unsigned, length, _⟩ := declared
  cases places
  have each : ∀ member ∈ decimalNames connector, length.or member.2 = some precision →
      resolveType connector ⟨member.1, unsigned, length, some scale⟩ =
        .ok (.decimalOf precision scale) := by
    cases connector <;>
      simp only [decimalNames, List.forall_mem_cons, List.not_mem_nil, false_implies,
        implies_true, and_true]
    all_goals repeat' apply And.intro
    all_goals
      intro precise
      cases length <;> cases precise
    all_goals first
      | rfl
      | exact congrArg Except.ok (if_pos someplace)
  exact each (base, default) named precise

/-! ## Nothing else has a size -/

/-- The types that a declared type may become, by where their sizes come from. -/
inductive Sized (connector : Connector) (declared : DeclaredType) : ColumnType → Prop where
  | bare {type : ColumnType} (unsized : type.sizes = []) : Sized connector declared type
  | time (precision : UInt32) : Sized connector declared (.datetimeOf precision)
  | fixedText (named : declared.base ∈ fixedTextNames connector) :
      Sized connector declared (.fixedText declared.textLength)
  | varyingText (named : declared.base ∈ varyingTextNames connector) :
      Sized connector declared (.varyingText declared.textLength)
  | decimal {default : Option UInt32} {precision : UInt32}
      (named : (declared.base, default) ∈ decimalNames connector)
      (precise : declared.length.or default = some precision) :
      Sized connector declared (.decimalOf precision (declared.scale.getD 0))
  | money {precision scale : UInt32}
      (named : (declared.base, precision, scale) ∈ moneyNames connector) :
      Sized connector declared (.decimalOf precision scale)

/-- What a table may answer: a type that is sized so, or none. -/
def Answers (connector : Connector) (declared : DeclaredType) (choice : TypeChoice) : Prop :=
  ∀ type, choice = .target type → Sized connector declared type

theorem Answers.target {type : ColumnType} (sized : Sized connector declared type) :
    Answers connector declared (.target type) := by
  rintro _ ⟨⟩
  exact sized

theorem Answers.bare {type : ColumnType} (unsized : type.sizes = []) :
    Answers connector declared (.target type) :=
  .target (.bare unsized)

theorem Answers.unknown : Answers connector declared .unknown := fun _ same => nomatch same

theorem Answers.missingLength : Answers connector declared .missingLength :=
  fun _ same => nomatch same

theorem Answers.ite {condition : Prop} [Decidable condition] {yes no : TypeChoice}
    (first : Answers connector declared yes) (second : Answers connector declared no) :
    Answers connector declared (if condition then yes else no) := by
  split
  · exact first
  · exact second

theorem Answers.signedOr {signed unsigned : ColumnType} (first : signed.sizes = [])
    (second : unsigned.sizes = []) :
    Answers connector declared (TypeTable.signedOr declared signed unsigned) := by
  refine .target (.bare ?_)
  split
  · exact second
  · exact first

theorem Answers.datetime (precision : UInt32) :
    Answers connector declared (TypeTable.datetime declared precision) :=
  .target (.time _)

theorem Answers.fixedText (named : declared.base ∈ fixedTextNames connector) :
    Answers connector declared (TypeTable.fixedText declared) :=
  .target (.fixedText named)

theorem Answers.varyingText {length : UInt32} (named : declared.base ∈ varyingTextNames connector)
    (sized : declared.length = some length) :
    Answers connector declared (.target (.varyingText length)) := by
  have whole : declared.textLength = length := by rw [DeclaredType.textLength, sized]; rfl
  exact .target (whole ▸ .varyingText named)

theorem Answers.sizedText (named : declared.base ∈ varyingTextNames connector) :
    Answers connector declared (TypeTable.sizedText declared) := by
  unfold TypeTable.sizedText
  split
  · exact .varyingText named ‹_›
  · exact .missingLength

theorem Answers.decimal {precision : UInt32}
    (named : (declared.base, some precision) ∈ decimalNames connector) :
    Answers connector declared (TypeTable.decimal declared precision) := by
  refine .target (.decimal named ?_)
  cases declared.length <;> rfl

theorem Answers.bounded {precision : UInt32}
    (named : (declared.base, none) ∈ decimalNames connector)
    (sized : declared.length = some precision) :
    Answers connector declared (.target (.decimalOf precision (declared.scale.getD 0))) := by
  refine .target (.decimal named ?_)
  rw [sized]
  rfl

theorem integerOfDigits_unsized (precision : UInt32) :
    (TypeTable.integerOfDigits precision).sizes = [] := by
  unfold TypeTable.integerOfDigits
  repeat' split
  all_goals rfl

theorem Answers.number (named : (declared.base, none) ∈ decimalNames connector) :
    Answers connector declared
      (.target (TypeTable.oracleNumber declared.length declared.scale)) := by
  unfold TypeTable.oracleNumber
  split
  · exact .bare rfl
  · rename_i precision precise
    split
    · exact .bounded named precise
    · exact .bare (integerOfDigits_unsized precision)

/-- A type that is unbounded if it is declared without a length. -/
theorem Answers.unbounded {sized : UInt32 → ColumnType}
    (bounded : ∀ length, declared.length = some length →
      Answers connector declared (.target (sized length))) :
    Answers connector declared
      (match declared.length with
        | some length => .target (sized length)
        | none => .target .string) := by
  split
  · exact bounded _ ‹_›
  · exact .bare rfl

theorem mysql_answers (declared : DeclaredType) :
    Answers .mysql declared (TypeTable.mysql declared) := by
  unfold TypeTable.mysql
  split
  all_goals first
    | exact .bare rfl
    | exact .signedOr rfl rfl
    | exact .ite (.bare rfl) (.signedOr rfl rfl)
    | exact .datetime _
    | exact .fixedText (by simp [fixedTextNames, *])
    | exact .sizedText (by simp [varyingTextNames, *])
    | exact .decimal (by simp [decimalNames, *])
    | exact .unknown

theorem oracle_answers (declared : DeclaredType) :
    Answers .oracle declared (TypeTable.oracle declared) := by
  unfold TypeTable.oracle
  split
  all_goals first
    | exact .bare rfl
    | exact .target (.time _)
    | exact .datetime _
    | exact .fixedText (by simp [fixedTextNames, *])
    | exact .sizedText (by simp [varyingTextNames, *])
    | exact .number (by simp [decimalNames, *])
    | exact .decimal (by simp [decimalNames, ColumnType.maxDecimalPrecision, *])
    | exact .unknown

theorem postgres_answers (declared : DeclaredType) :
    Answers .postgres declared (TypeTable.postgres declared) := by
  unfold TypeTable.postgres
  split
  all_goals first
    | exact .bare rfl
    | exact .datetime _
    | exact .fixedText (by simp [fixedTextNames, *])
    | exact .unbounded fun _ sized => .varyingText (by simp [varyingTextNames, *]) sized
    | exact .unbounded fun _ sized => .bounded (by simp [decimalNames, *]) sized
    | exact .unknown

theorem sqlServer_answers (declared : DeclaredType) :
    Answers .sqlServer declared (TypeTable.sqlServer declared) := by
  unfold TypeTable.sqlServer
  split
  all_goals first
    | exact .bare rfl
    | exact .target (.time _)
    | exact .datetime _
    | exact .fixedText (by simp [fixedTextNames, *])
    | exact .target (.varyingText (by simp [varyingTextNames, *]))
    | exact .decimal (by simp [decimalNames, *])
    | exact .target (.money (by simp [moneyNames, *]))
    | exact .unknown

/-- A type that is resolved has its sizes from where `Sized` says. -/
theorem sized_of_resolveType {type : ColumnType}
    (resolved : resolveType connector declared = .ok type) : Sized connector declared type := by
  have answers : ∀ table ∈ connector.typeTable?, Answers connector declared (table declared) := by
    cases connector with
    | mysql =>
        rintro _ ⟨⟩
        exact mysql_answers declared
    | oracle =>
        rintro _ ⟨⟩
        exact oracle_answers declared
    | postgres =>
        rintro _ ⟨⟩
        exact postgres_answers declared
    | sqlServer =>
        rintro _ ⟨⟩
        exact sqlServer_answers declared
    | mongoDb => rintro _ ⟨⟩
    | db2 => rintro _ ⟨⟩
  unfold resolveType at resolved
  split at resolved
  · cases resolved
  · rename_i table found
    split at resolved
    · rename_i answer answered
      cases resolved
      exact answers table found _ answered
    · cases resolved
    · cases resolved

end

end AlterRelay.Source
