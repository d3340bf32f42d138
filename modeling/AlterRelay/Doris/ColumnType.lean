/-
# AlterRelay.Doris.ColumnType — the column types of a Doris table

Source lengths count characters and Doris lengths count bytes of UTF-8, so a
length is tripled; the product stops at the largest 32-bit number. A length that
no CHAR can hold makes a VARCHAR, one that no VARCHAR can hold makes a STRING.
A decimal has a precision from 1 to 38, and any other precision makes a STRING.
The fraction of a second has at most six digits.
-/
namespace AlterRelay.Doris

set_option autoImplicit false

/-- The types that Doris columns are created with. -/
inductive ColumnType where
  | boolean
  | tinyint
  | smallint
  | int
  | bigint
  | largeint
  | float
  | double
  | date
  | string
  | json
  | char (bytes : UInt32)
  | varchar (bytes : UInt32)
  | decimal (precision scale : UInt32)
  | datetime (precision : UInt32)
  deriving DecidableEq, Repr

namespace ColumnType

def maxCharBytes : UInt32 := 255

def maxVarcharBytes : UInt32 := 65533

def maxDecimalPrecision : UInt32 := 38

def maxDatetimePrecision : UInt32 := 6

/-- Three bytes for every character, at most the largest 32-bit number. -/
def byteLength (length : UInt32) : UInt32 :=
  if fits : 3 * length.toNat < UInt32.size then .ofNatLT (3 * length.toNat) fits else 4294967295

theorem toNat_byteLength (length : UInt32) :
    (byteLength length).toNat = min (3 * length.toNat) 4294967295 := by
  unfold byteLength
  have size : UInt32.size = 4294967296 := rfl
  split
  · rw [UInt32.toNat_ofNatLT]
    omega
  · have largest : (4294967295 : UInt32).toNat = 4294967295 := rfl
    omega

/-- The type of a text of at most `length` characters. -/
def varyingText (length : UInt32) : ColumnType :=
  if byteLength length ≤ maxVarcharBytes then .varchar (byteLength length) else .string

/-- The type of a text of `length` characters. -/
def fixedText (length : UInt32) : ColumnType :=
  if byteLength length ≤ maxCharBytes then .char (byteLength length) else varyingText length

/-- A decimal of more digits than Doris has is kept as text. -/
def decimalOf (precision scale : UInt32) : ColumnType :=
  if 0 < precision ∧ precision ≤ maxDecimalPrecision then .decimal precision scale else .string

/-- Fractions of a second are cut to the digits that Doris has. -/
def datetimeOf (precision : UInt32) : ColumnType :=
  .datetime (min precision maxDatetimePrecision)

/-- The type as a schema change writes it. -/
def text : ColumnType → String
  | boolean => "BOOLEAN"
  | tinyint => "TINYINT"
  | smallint => "SMALLINT"
  | int => "INT"
  | bigint => "BIGINT"
  | largeint => "LARGEINT"
  | float => "FLOAT"
  | double => "DOUBLE"
  | date => "DATEV2"
  | string => "STRING"
  | json => "JSONB"
  | char bytes => "CHAR(" ++ toString bytes.toNat ++ ")"
  | varchar bytes => "VARCHAR(" ++ toString bytes.toNat ++ ")"
  | decimal precision scale =>
      "DECIMALV3(" ++ toString precision.toNat ++ "," ++ toString scale.toNat ++ ")"
  | datetime precision => "DATETIMEV2(" ++ toString precision.toNat ++ ")"

end ColumnType

end AlterRelay.Doris
