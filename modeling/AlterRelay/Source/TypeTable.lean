/-
# AlterRelay.Source.TypeTable — which Doris type a source type becomes

Every relational source has a table from declared types to Doris types. A table
looks at the base name, at the sign for integers, and at length and scale where
the Doris type has a size. Two things can go wrong: the base is not in the
table, or a type without a default length is declared without one.

* MySQL: unsigned integers widen by one step, except `TINYINT(1)`, which is a
  boolean only if it is signed.
* Oracle: a `NUMBER` without a fraction becomes the narrowest integer that holds
  its digits, and one without a precision is unbounded.
* PostgreSQL: a `NUMERIC` or `VARCHAR` without a size is unbounded.
* SQL Server: `TINYINT` is unsigned, so it widens.
-/
import AlterRelay.Doris.ColumnType
import AlterRelay.Source.DeclaredType

namespace AlterRelay.Source

open AlterRelay.Doris (ColumnType)

set_option autoImplicit false

/-- What a table says of a declared type. -/
inductive TypeChoice where
  | target (type : ColumnType)
  | missingLength
  | unknown
  deriving DecidableEq, Repr

namespace TypeTable

open TypeChoice

/-- An integer type for numbers as they are declared. -/
def signedOr (declared : DeclaredType) (signed unsigned : ColumnType) : TypeChoice :=
  target (if declared.unsigned then unsigned else signed)

def fixedText (declared : DeclaredType) : TypeChoice :=
  target (.fixedText (declared.length.getD 1))

/-- A text that may not be declared without a length. -/
def sizedText (declared : DeclaredType) : TypeChoice :=
  match declared.length with
  | some length => target (.varyingText length)
  | none => missingLength

def decimal (declared : DeclaredType) (defaultPrecision : UInt32) : TypeChoice :=
  target (.decimalOf (declared.length.getD defaultPrecision) (declared.scale.getD 0))

def datetime (declared : DeclaredType) (defaultPrecision : UInt32) : TypeChoice :=
  target (.datetimeOf (declared.length.getD defaultPrecision))

/-- Enumerations, blobs and spatial types are all kept as text. -/
def mysql (declared : DeclaredType) : TypeChoice :=
  match declared.base with
  | "BIT" | "BOOL" | "BOOLEAN" => target .boolean
  | "TINYINT" =>
      if declared.length = some 1 ∧ declared.unsigned = false then target .boolean
      else signedOr declared .tinyint .smallint
  | "SMALLINT" => signedOr declared .smallint .int
  | "MEDIUMINT" | "YEAR" => target .int
  | "INT" | "INTEGER" => signedOr declared .int .bigint
  | "BIGINT" => signedOr declared .bigint .largeint
  | "FLOAT" => target .float
  | "DOUBLE" | "DOUBLE PRECISION" | "REAL" => target .double
  | "DECIMAL" | "DEC" | "NUMERIC" | "FIXED" => decimal declared 10
  | "DATE" => target .date
  | "DATETIME" | "TIMESTAMP" => datetime declared 0
  | "CHAR" | "CHARACTER" => fixedText declared
  | "VARCHAR" | "CHARACTER VARYING" => sizedText declared
  | "TINYTEXT" | "TEXT" | "MEDIUMTEXT" | "LONGTEXT"
  | "TINYBLOB" | "BLOB" | "MEDIUMBLOB" | "LONGBLOB" | "BINARY" | "VARBINARY"
  | "ENUM" | "SET" | "TIME" | "GEOMETRY" | "POINT" | "LINESTRING" | "POLYGON" => target .string
  | "JSON" => target .json
  | _ => unknown

/-- The narrowest integer type that holds every number of `precision` digits. -/
def integerOfDigits (precision : UInt32) : ColumnType :=
  if precision < 3 then .tinyint
  else if precision < 5 then .smallint
  else if precision < 10 then .int
  else if precision < 19 then .bigint
  else if precision ≤ 38 then .largeint
  else .string

/-- Without a fraction, the narrowest integer that holds the digits. -/
def oracleNumber (precision scale : Option UInt32) : ColumnType :=
  match precision with
  | none => .string
  | some precision =>
      if 0 < scale.getD 0 then .decimalOf precision (scale.getD 0) else integerOfDigits precision

def oracle (declared : DeclaredType) : TypeChoice :=
  match declared.base with
  | "NUMBER" => target (oracleNumber declared.length declared.scale)
  | "INTEGER" | "INT" | "SMALLINT" => target .largeint
  | "BINARY_FLOAT" => target .float
  | "BINARY_DOUBLE" | "FLOAT" | "DOUBLE PRECISION" | "REAL" => target .double
  | "DECIMAL" | "NUMERIC" => decimal declared ColumnType.maxDecimalPrecision
  | "DATE" => target (.datetimeOf 0)
  | "TIMESTAMP" => datetime declared 6
  | "CHAR" | "NCHAR" | "CHARACTER" => fixedText declared
  | "VARCHAR" | "VARCHAR2" | "NVARCHAR2" => sizedText declared
  | "CLOB" | "NCLOB" | "BLOB" | "LONG" | "RAW" | "INTERVAL" | "XMLTYPE" | "ROWID" | "UROWID"
  | "BFILE" => target .string
  | _ => unknown

/-- Types without a size are unbounded, and are kept as text. -/
def postgres (declared : DeclaredType) : TypeChoice :=
  match declared.base with
  | "BOOL" | "BOOLEAN" => target .boolean
  | "INT2" | "SMALLINT" | "SMALLSERIAL" | "SERIAL2" => target .smallint
  | "INT4" | "INT" | "INTEGER" | "SERIAL" | "SERIAL4" => target .int
  | "INT8" | "BIGINT" | "BIGSERIAL" | "SERIAL8" => target .bigint
  | "FLOAT4" | "REAL" => target .float
  | "FLOAT8" | "DOUBLE PRECISION" | "FLOAT" => target .double
  | "NUMERIC" | "DECIMAL" =>
      match declared.length with
      | some precision => target (.decimalOf precision (declared.scale.getD 0))
      | none => target .string
  | "DATE" => target .date
  | "TIMESTAMP" | "TIMESTAMPTZ" => datetime declared 6
  | "BPCHAR" | "CHAR" | "CHARACTER" => fixedText declared
  | "VARCHAR" | "CHARACTER VARYING" =>
      match declared.length with
      | some length => target (.varyingText length)
      | none => target .string
  | "JSON" | "JSONB" => target .json
  | "TEXT" | "UUID" | "BYTEA" | "TIME" | "TIMETZ" | "INTERVAL" | "INET" | "CIDR" | "MACADDR"
  | "XML" | "POINT" | "MONEY" | "BIT" | "VARBIT" => target .string
  | _ => unknown

/-- No type is declared unsigned here; `TINYINT` always is. -/
def sqlServer (declared : DeclaredType) : TypeChoice :=
  match declared.base with
  | "BIT" => target .boolean
  | "TINYINT" | "SMALLINT" => target .smallint
  | "INT" => target .int
  | "BIGINT" => target .bigint
  | "REAL" => target .float
  | "FLOAT" => target .double
  | "DECIMAL" | "NUMERIC" => decimal declared 18
  | "MONEY" => target (.decimalOf 19 4)
  | "SMALLMONEY" => target (.decimalOf 10 4)
  | "DATE" => target .date
  | "SMALLDATETIME" => target (.datetimeOf 0)
  | "DATETIME" => target (.datetimeOf 3)
  | "DATETIME2" | "DATETIMEOFFSET" => datetime declared 7
  | "CHAR" | "NCHAR" => fixedText declared
  | "VARCHAR" | "NVARCHAR" => target (.varyingText (declared.length.getD 1))
  | "TEXT" | "NTEXT" | "XML" | "UNIQUEIDENTIFIER" | "TIME" | "BINARY" | "VARBINARY" | "IMAGE" =>
      target .string
  | _ => unknown

end TypeTable

end AlterRelay.Source
