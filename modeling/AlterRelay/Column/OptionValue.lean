/-
# AlterRelay.Column.OptionValue — the value behind DEFAULT or COMMENT

The tokens behind a column type are kept raw. An option's keyword is looked for
among them in three rounds: in capitals, then in lowercase, and only then in any
other ASCII case. The first match of the first round that has one counts, and
its value is the token behind it, if there is one.
-/
import AlterRelay.Text.LetterCase
import AlterRelay.Text.Quoted

namespace AlterRelay.Column

open AlterRelay.Text

set_option autoImplicit false

/-- The options of a column that are carried over. -/
inductive ColumnOption where
  | defaultValue
  | comment
  deriving DecidableEq, Repr

def ColumnOption.keyword : ColumnOption → String
  | defaultValue => "DEFAULT"
  | comment => "COMMENT"

/-- What is found of an option: nothing, its keyword without a value, or both. -/
inductive OptionValue where
  | absent
  /-- The keyword is the last token. -/
  | dangling
  | present (raw : String)
  deriving DecidableEq, Repr

/-- The value that the raw token spells. -/
def OptionValue.value? : OptionValue → Option String
  | absent | dangling => none
  | present raw => some (String.ofList (literalValue raw.toList))

/-- What follows the first token that satisfies `isKeyword`. -/
def valueBehind? (isKeyword : String → Bool) : List String → Option OptionValue
  | [] => none
  | spec :: rest =>
      if isKeyword spec then
        match rest with
        | [] => some .dangling
        | value :: _ => some (.present value)
      else valueBehind? isKeyword rest

def lookup (keyword : String) (specs : List String) : OptionValue :=
  ((valueBehind? (· == keyword.toUpper) specs).or
    ((valueBehind? (· == keyword.toLower) specs).or
      (valueBehind? (sameIgnoringCase keyword) specs))).getD .absent

def ColumnOption.lookup (option : ColumnOption) (specs : List String) : OptionValue :=
  Column.lookup option.keyword specs

end AlterRelay.Column
